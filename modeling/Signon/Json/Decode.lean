import Signon.Json.Value
import Signon.Json.Error

namespace Signon.Json

/-- What a value is, for a message about it. -/
def unexpected : Json → Unexpected
  | .null => .null
  | .bool b => .bool b
  | .num (.nat n) => .unsigned n
  | .num (.neg n) => .signed n
  | .num (.float _ literal) => .float literal
  | .str s => .str s
  | .arr _ => .seq
  | .obj _ => .map

def wrongType (j : Json) (expected : String) : Error :=
  { problem := .invalidType (unexpected j) expected }

/-- A 64-bit signed integer. -/
def expectInt64 (j : Json) : Except Error Int :=
  match j with
  | .num (.nat n) =>
    if n < Nat.pow 2 63 then .ok n else .error { problem := .invalidValue (.unsigned n) "i64" }
  | .num (.neg n) => .ok n
  | _ => .error (wrongType j "i64")

/-- A 64-bit unsigned integer. -/
def expectUInt64 (j : Json) : Except Error Nat :=
  match j with
  | .num (.nat n) => .ok n
  | .num (.neg n) => .error { problem := .invalidValue (.signed n) "u64" }
  | _ => .error (wrongType j "u64")

/-- A string. -/
def expectString (j : Json) : Except Error String :=
  match j with
  | .str s => .ok s
  | _ => .error (wrongType j "a string")

/-- A boolean. -/
def expectBool (j : Json) : Except Error Bool :=
  match j with
  | .bool b => .ok b
  | _ => .error (wrongType j "a boolean")

end Signon.Json
