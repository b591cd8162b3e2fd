import Signon.Json.Value
import Signon.Json.Error

/-!
Shapes of typed JSON data, and the data decoded by a shape. A shape says what a typed reader
expects: a string, a 64-bit integer, a boolean, an optional value, a list, any JSON value, a record
of named fields, a family of records told apart by a tag field, one of a fixed set of names, or a
string that a given reader turns into a value of its own. Decoding by a shape yields a datum of the
same form, which the owner of the shape turns into its own type.
-/

namespace Signon.Json

/-- Data decoded by a shape. -/
inductive Datum (κ : Type) where
  | text (s : String)
  | int (n : Int)
  | bool (b : Bool)
  | none
  | some (d : Datum κ)
  | list (ds : List (Datum κ))
  | json (j : Json)
  /-- The fields of a record, in the order of its shape. -/
  | record (fields : List (Datum κ))
  /-- A record of a family: which one, and its fields. -/
  | variant (index : Nat) (fields : List (Datum κ))
  /-- One of a fixed set of names, by its place in the set. -/
  | case (index : Nat)
  /-- A value made by the reader of a string. -/
  | leaf (k : κ)

namespace Datum

def text? {κ : Type} : Datum κ → Option String
  | .text s => .some s
  | _ => .none

def int? {κ : Type} : Datum κ → Option Int
  | .int n => .some n
  | _ => .none

def bool? {κ : Type} : Datum κ → Option Bool
  | .bool b => .some b
  | _ => .none

def json? {κ : Type} : Datum κ → Option Json
  | .json j => .some j
  | _ => .none

def case? {κ : Type} : Datum κ → Option Nat
  | .case i => .some i
  | _ => .none

def leaf? {κ : Type} : Datum κ → Option κ
  | .leaf k => .some k
  | _ => .none

/-- An optional datum through `f`: absent, or present and read by `f`. -/
def optional? {κ α : Type} (f : Datum κ → Option α) : Datum κ → Option (Option α)
  | .none => .some .none
  | .some d => (f d).map .some
  | _ => .none

def items? {κ α : Type} (f : Datum κ → Option α) : Datum κ → Option (List α)
  | .list ds => ds.mapM f
  | _ => .none

end Datum

/-- What a record holds when a field is not given. -/
inductive Absent (κ : Type) where
  /-- Nothing: the field must be given. -/
  | required
  /-- No value, when fields are named; a record given as a list must still hold it. -/
  | optional
  /-- The given datum, however the record is given. -/
  | fill (d : Datum κ)

/-- The name of a field, the other names it is read by, and what it holds when not given. -/
structure FieldKey (κ : Type) where
  name : String
  aliases : List String := []
  absent : Absent κ := .required

def FieldKey.matches {κ : Type} (f : FieldKey κ) (k : String) : Bool :=
  f.name == k || f.aliases.contains k

/-- A member of a family of records: the tag value that selects it and its name. -/
structure Member where
  tag : String
  name : String

/-- What a typed reader expects. -/
inductive Shape (κ : Type) where
  | text
  | int64
  | bool
  | option (s : Shape κ)
  | list (s : Shape κ)
  | json
  /-- A record, with the words that name it in messages and its fields in order. -/
  | record (name : String) (fields : List (FieldKey κ × Shape κ))
  /-- A family of records, each selected by the value of the field `tag`. -/
  | tagged (name : String) (tag : String) (members : List (Member × List (FieldKey κ × Shape κ)))
  /-- One of a fixed set of names. -/
  | cases (names : List String)
  /-- A string turned into a value by `read`, or refused with a message. -/
  | checked (expecting : String) (read : String → Except String κ)

def fieldIndex? {κ : Type} (fields : List (FieldKey κ × Shape κ)) (k : String) : Option Nat :=
  fields.findIdx? (·.1.matches k)

/-- The data of a record whose fields were given by name: each slot filled, or what the field
holds when absent; the first required field missing is the failure. -/
def completeFields {κ : Type} : List (FieldKey κ × Shape κ) → List (Option (Datum κ)) →
    Except Problem (List (Datum κ))
  | [], _ => .ok []
  | (key, _) :: fields, slots => do
    let d ← match slots.head?.join, key.absent with
      | some d, _ => pure d
      | none, .required => throw (.missingField key.name)
      | none, .optional => pure .none
      | none, .fill d => pure d
    let ds ← completeFields fields slots.tail
    pure (d :: ds)

def elementsExpected (n : Nat) : String :=
  if n = 1 then "1 element in sequence" else toString n ++ " elements in sequence"

def recordLength (name : String) (fieldCount : Nat) : String :=
  name ++ " with " ++ toString fieldCount ++ " elements"

def caseIndex? (names : List String) (s : String) : Option Nat :=
  names.findIdx? (· == s)

end Signon.Json
