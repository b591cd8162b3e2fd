import Signon.Json.Shape
import Signon.Json.Decode

/-!
Decoding a JSON value by a shape. A value comes either as a document, whose objects hold each key
once in sorted order and whose doubles are shown as written, or as buffered content, whose objects
keep every field in the order read and whose doubles are shown in their shortest form. Failures
carry no place, since a value has none.
-/

namespace Signon.Json

/-- Where a value being decoded came from. -/
inductive Source where
  /-- A document. -/
  | document
  /-- Content buffered while looking for a tag. -/
  | content
  deriving DecidableEq

/-- What a value is, for a message about it. -/
def Source.unexpected : Source → Json → Unexpected
  | .content, .num (.float bits _) => .float (Numeric.shortest (Float.ofBits bits))
  | _, j => Json.unexpected j

mutual
/-- The number of nodes of a value. -/
def weight : Json → Nat
  | .arr xs => weightItems xs + 1
  | .obj fs => weightFields fs + 1
  | _ => 1

def weightItems : List Json → Nat
  | [] => 0
  | x :: xs => x.weight + weightItems xs

/-- The number of nodes of the values of some fields. -/
def weightFields : List (String × Json) → Nat
  | [] => 0
  | (_, v) :: fs => v.weight + weightFields fs
end

mutual
/-- A value with its objects in document form: sorted by key, the last of a repeated key
winning. -/
def normalize : Json → Json
  | .arr xs => .arr (normalizeItems xs)
  | .obj fs => .obj (sortFields (normalizeFields fs))
  | j => j

def normalizeItems : List Json → List Json
  | [] => []
  | x :: xs => x.normalize :: normalizeItems xs

/-- Values of fields in document form. -/
def normalizeFields : List (String × Json) → List (String × Json)
  | [] => []
  | (k, v) :: fs => (k, v.normalize) :: normalizeFields fs
end

def problem {α : Type} (p : Problem) : Except Error α := .error { problem := p }

/-- Identifies a member of a family by a tag value. -/
def memberOf {κ : Type} (src : Source) (members : List (Member × List (FieldKey κ × Shape κ)))
    (j : Json) : Except Error Nat :=
  match j with
  | .str s =>
    match members.findIdx? (·.1.tag == s) with
    | some i => .ok i
    | none => problem (.unknownVariant s (members.map (·.1.tag)))
  | _ => problem (.invalidType (src.unexpected j) "variant identifier")

/-- The fields of an object other than the tag, and the member the tag selects; a repeated or
missing tag is refused. -/
def splitTag {κ : Type} (src : Source) (tag : String)
    (members : List (Member × List (FieldKey κ × Shape κ))) :
    Option Nat → List (String × Json) → Except Error (Nat × List (String × Json))
  | found, [] =>
    match found with
    | some i => .ok (i, [])
    | none => problem (.missingField tag)
  | found, (k, v) :: fs =>
    if k = tag then
      match found with
      | some _ => problem (.duplicateField tag)
      | none => do
        let i ← memberOf src members v
        splitTag src tag members (some i) fs
    else do
      let (i, rest) ← splitTag src tag members found fs
      pure (i, (k, v) :: rest)

mutual
/-- Decodes a value by a shape; `fuel` is never short when it exceeds the value's weight and the
shape's nesting. -/
def decodeTree {κ : Type} (src : Source) : Nat → Shape κ → Json → Except Error (Datum κ)
  | 0, _, _ => problem (.custom "value nested too deeply")
  | fuel + 1, shape, j =>
    let wrong (expected : String) : Except Error (Datum κ) :=
      problem (.invalidType (src.unexpected j) expected)
    match shape, j with
    | .text, .str s => .ok (.text s)
    | .text, _ => wrong "a string"
    | .int64, .num (.nat n) =>
      if n < Nat.pow 2 63 then .ok (.int n) else problem (.invalidValue (.unsigned n) "i64")
    | .int64, .num (.neg n) => .ok (.int n)
    | .int64, _ => wrong "i64"
    | .bool, .bool b => .ok (.bool b)
    | .bool, _ => wrong "a boolean"
    | .option _, .null => .ok .none
    | .option s, _ => (decodeTree src fuel s j).map .some
    | .list s, .arr xs => (decodeItems src fuel s xs).map .list
    | .list _, _ => wrong "a sequence"
    | .json, _ => .ok (.json (if src = .content then j.normalize else j))
    | .record _ fields, .obj fs => do
      let slots ← fillSlots src fuel fields (fields.map fun _ => Option.none) fs
      match completeFields fields slots with
      | .ok ds => .ok (.record ds)
      | .error p => problem p
    | .record name fields, .arr xs => do
      let (ds, rest) ← fieldsInOrder src fuel (recordLength name fields.length) 0 fields xs
      match rest, src with
      | [], _ => .ok (.record ds)
      | _, .document => problem (.invalidLength xs.length "fewer elements in array")
      | _, .content =>
        let taken := xs.length - rest.length
        problem (.invalidLength xs.length (elementsExpected taken))
    | .record name _, _ => wrong name
    | .tagged name tag members, .obj fs => do
      let (i, rest) ← splitTag src tag members none fs
      decodeMember fuel name members i (.obj rest)
    | .tagged name tag members, .arr xs =>
      match xs with
      | [] => problem (.missingField tag)
      | x :: rest => do
        let i ← memberOf src members x
        decodeMember fuel name members i (.arr rest)
    | .tagged name _ _, _ => wrong ("internally tagged enum " ++ name)
    | .cases names, .str s =>
      match caseIndex? names s with
      | some i => .ok (.case i)
      | none => problem (.unknownVariant s names)
    | .cases names, .obj [(k, v)] =>
      match caseIndex? names k with
      | some i =>
        match v with
        | .null => .ok (.case i)
        | _ => problem (.invalidType (src.unexpected v) "unit")
      | none => problem (.unknownVariant k names)
    | .cases _, .obj _ => problem (.invalidValue .map "map with a single key")
    | .cases _, _ => wrong "string or map"
    | .checked _ read, .str s =>
      match read s with
      | .ok k => .ok (.leaf k)
      | .error m => problem (.custom m)
    | .checked expecting _, _ => wrong expecting

/-- Decodes the items of a list, the first failure winning. -/
def decodeItems {κ : Type} (src : Source) : Nat → Shape κ → List Json →
    Except Error (List (Datum κ))
  | 0, _, _ => problem (.custom "value nested too deeply")
  | _ + 1, _, [] => .ok []
  | fuel + 1, s, x :: xs => do
    let d ← decodeTree src fuel s x
    let ds ← decodeItems src fuel s xs
    pure (d :: ds)

/-- Fills the slots of a record's fields from an object's fields in order: a field named twice is
refused, an unknown name is skipped. -/
def fillSlots {κ : Type} (src : Source) : Nat → List (FieldKey κ × Shape κ) →
    List (Option (Datum κ)) → List (String × Json) → Except Error (List (Option (Datum κ)))
  | 0, _, _, _ => problem (.custom "value nested too deeply")
  | _ + 1, _, slots, [] => .ok slots
  | fuel + 1, fields, slots, (k, v) :: fs =>
    match fieldIndex? fields k with
    | none => fillSlots src fuel fields slots fs
    | some i =>
      match slots[i]?, fields[i]? with
      | some (some _), some (key, _) => problem (.duplicateField key.name)
      | _, some (_, s) => do
        let d ← decodeTree src fuel s v
        fillSlots src fuel fields (slots.set i (some d)) fs
      | _, none => fillSlots src fuel fields slots fs

/-- Reads a record's fields from the items of an array in order; a field past the end holds what
it holds when absent, if anything. Gives the items left over. -/
def fieldsInOrder {κ : Type} (src : Source) : Nat → String → Nat → List (FieldKey κ × Shape κ) →
    List Json → Except Error (List (Datum κ) × List Json)
  | 0, _, _, _, _ => problem (.custom "value nested too deeply")
  | _ + 1, _, _, [], xs => .ok ([], xs)
  | fuel + 1, expecting, i, (_, s) :: fields, x :: xs => do
    let d ← decodeTree src fuel s x
    let (ds, rest) ← fieldsInOrder src fuel expecting (i + 1) fields xs
    pure (d :: ds, rest)
  | fuel + 1, expecting, i, (key, _) :: fields, [] =>
    match key.absent with
    | .fill d => do
      let (ds, rest) ← fieldsInOrder src fuel expecting (i + 1) fields []
      pure (d :: ds, rest)
    | _ => problem (.invalidLength i expecting)

/-- Decodes the selected member of a family from the content that follows its tag. -/
def decodeMember {κ : Type} : Nat → String → List (Member × List (FieldKey κ × Shape κ)) → Nat →
    Json → Except Error (Datum κ)
  | 0, _, _, _, _ => problem (.custom "value nested too deeply")
  | fuel + 1, family, members, i, content =>
    match members[i]? with
    | some (m, fields) => do
      match ← decodeTree .content fuel (.record ("struct variant " ++ family ++ "::" ++ m.name) fields)
          content with
      | .record ds => pure (.variant i ds)
      | d => pure d
    | none => problem (.custom "unknown member")
end

def decodeValue {κ : Type} (shape : Shape κ) (j : Json) : Except Error (Datum κ) :=
  decodeTree .document (2 * j.weight + 64) shape j

/-- Decodes a document by a shape into a value that `read` makes of the datum. -/
def decodeValueAs {κ α : Type} (shape : Shape κ) (read : Datum κ → Option α) (j : Json) :
    Except Error α := do
  match read (← decodeValue shape j) with
  | some a => pure a
  | none => problem (.custom "value does not fit its shape")

end Signon.Json
