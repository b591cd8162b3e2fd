import Signon.Numeric.Double

/-!
JSON values as the client reads and writes them. A number keeps the class the reader gave it:
an integer that fits in 64 unsigned bits, a negative integer that fits in 64 signed bits, or a
double, kept with the text it was read from. An object keeps its fields in order; a field given
twice counts with its last value.
-/

namespace Signon

/-- A JSON number in the class the reader gave it. -/
inductive Json.Number where
  /-- An integer from 0 to 2^64 - 1. -/
  | nat (n : Nat)
  /-- A negative integer from -2^63. -/
  | neg (n : Int)
  /-- Any other number: its double and the text it was written as (empty when computed). -/
  | float (bits : UInt64) (literal : String)
  deriving BEq, DecidableEq

/-- A JSON value. -/
inductive Json where
  | null
  | bool (b : Bool)
  | num (n : Json.Number)
  | str (s : String)
  | arr (items : List Json)
  | obj (fields : List (String × Json))
  deriving BEq

namespace Json

def ofInt (i : Int) : Json :=
  if i ≥ 0 then .num (.nat i.toNat) else .num (.neg i)

/-- A text, or `null`. -/
def ofOption (o : Option String) : Json :=
  match o with
  | some s => .str s
  | none => .null

/-- The last value of a field of an object. -/
def field? (j : Json) (key : String) : Option Json :=
  match j with
  | .obj fs => (fs.reverse.find? (fun p => p.1 == key)).map Prod.snd
  | _ => none

def text? : Json → Option String
  | .str s => some s
  | _ => none

/-- The value of an integer that fits in 64 signed bits. -/
def int? : Json → Option Int
  | .num (.nat n) => if n < Nat.pow 2 63 then some n else none
  | .num (.neg n) => some n
  | _ => none

def bool? : Json → Option Bool
  | .bool b => some b
  | _ => none

def items? : Json → Option (List Json)
  | .arr xs => some xs
  | _ => none

def isNull : Json → Bool
  | .null => true
  | _ => false

/-- The text of a number: integers in decimal, a double as it was written, or in its shortest
form when it was computed. -/
def Number.render : Number → String
  | .nat n => toString n
  | .neg n => toString n
  | .float bits literal =>
    if literal.isEmpty then Numeric.shortest (Float.ofBits bits) else literal

def hexDigit (n : Nat) : Char :=
  if n < 10 then Char.ofNat (48 + n) else Char.ofNat (87 + n)

/-- The escape of one character in a JSON string: the quote, the backslash and the control
characters are escaped, the five common ones by letter and the rest as `\u00XX`. -/
def escapeChar (c : Char) : List Char :=
  if c = '"' then ['\\', '"']
  else if c = '\\' then ['\\', '\\']
  else if c = '\n' then ['\\', 'n']
  else if c = '\r' then ['\\', 'r']
  else if c = '\t' then ['\\', 't']
  else if c = '\x08' then ['\\', 'b']
  else if c = '\x0c' then ['\\', 'f']
  else if c.toNat < 0x20 then ['\\', 'u', '0', '0', hexDigit (c.toNat / 16), hexDigit (c.toNat % 16)]
  else [c]

/-- A text as a JSON string literal. -/
def quote (s : String) : String :=
  String.ofList ('"' :: s.toList.flatMap escapeChar ++ ['"'])

mutual
/-- Compact text of a value. -/
def render : Json → String
  | .null => "null"
  | .bool true => "true"
  | .bool false => "false"
  | .num n => n.render
  | .str s => quote s
  | .arr xs => "[" ++ renderItems xs ++ "]"
  | .obj fs => "\x7b" ++ renderFields fs ++ "\x7d"

/-- Compact text of array items, comma separated. -/
def renderItems : List Json → String
  | [] => ""
  | [x] => render x
  | x :: xs => render x ++ "," ++ renderItems xs

/-- Compact text of object fields, comma separated. -/
def renderFields : List (String × Json) → String
  | [] => ""
  | [(k, v)] => quote k ++ ":" ++ render v
  | (k, v) :: fs => quote k ++ ":" ++ render v ++ "," ++ renderFields fs
end

/-- Indentation of a nesting level: two spaces a level. -/
def indent (level : Nat) : String :=
  String.ofList (List.replicate (2 * level) ' ')

mutual
/-- Indented text of a value at a nesting level: one item or field a line, two spaces a level,
empty arrays and objects on one line. -/
def pretty (level : Nat) : Json → String
  | .arr [] => "[]"
  | .obj [] => "\x7b\x7d"
  | .arr xs => "[\n" ++ prettyItems (level + 1) xs ++ "\n" ++ indent level ++ "]"
  | .obj fs => "\x7b\n" ++ prettyFields (level + 1) fs ++ "\n" ++ indent level ++ "\x7d"
  | j => render j

/-- Indented array items, one a line. -/
def prettyItems (level : Nat) : List Json → String
  | [] => ""
  | [x] => indent level ++ pretty level x
  | x :: xs => indent level ++ pretty level x ++ ",\n" ++ prettyItems level xs

/-- Indented object fields, one a line. -/
def prettyFields (level : Nat) : List (String × Json) → String
  | [] => ""
  | [(k, v)] => indent level ++ quote k ++ ": " ++ pretty level v
  | (k, v) :: fs => indent level ++ quote k ++ ": " ++ pretty level v ++ ",\n" ++ prettyFields level fs
end

/-- Inserts a field into fields sorted by key, replacing a field of the same key. -/
def insertSorted (k : String) (v : Json) : List (String × Json) → List (String × Json)
  | [] => [(k, v)]
  | (k', v') :: rest =>
    if k = k' then (k, v) :: rest
    else if k < k' then (k, v) :: (k', v') :: rest
    else (k', v') :: insertSorted k v rest

def sortFields (fs : List (String × Json)) : List (String × Json) :=
  fs.foldl (fun acc p => insertSorted p.1 p.2 acc) []

end Json

end Signon
