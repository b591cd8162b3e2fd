import Signon.Json.Reader
import Signon.Json.Tree

/-!
Decoding a JSON text by a shape while reading it. Each value is checked as it is met, so the
first fault in reading order wins, and a fault is placed where reading stood: a value of the
wrong kind after that value (or at the bracket that opens it), a field named twice after its name,
a missing field or a short array at the closing bracket or brace. A failure that a record or
array holds for one of its parts is placed after its closing delimiter when that comes next.
-/

namespace Signon.Json

/-- A failure while reading, with the cursor where reading stopped; the cursor places a failure
that has no place yet. -/
structure Halt where
  error : Error
  cursor : Cursor

def halt {α : Type} (c : Cursor) (p : Problem) : Except Halt α :=
  .error ⟨c.fail p, c⟩

def haltAhead {α : Type} (c : Cursor) (p : Problem) : Except Halt α :=
  .error ⟨c.failAhead p, c⟩

def haltUnplaced {α : Type} (c : Cursor) (p : Problem) : Except Halt α :=
  .error ⟨{ problem := p }, c⟩

def lift {α : Type} (c : Cursor) : Except Error α → Except Halt α
  | .ok a => .ok a
  | .error e => .error ⟨e, c⟩

/-- Where reading stands after trying to close an array: past the bracket if it comes next, or
past a comma and blanks if a comma does. -/
def Cursor.afterSeq (c : Cursor) : Cursor :=
  let c := c.skipBlanks
  if c.peek = some (byte ']') then c.next
  else if c.peek = some (byte ',') then c.next.skipBlanks
  else c

def Cursor.afterMap (c : Cursor) : Cursor :=
  let c := c.skipBlanks
  if c.peek = some (byte '\x7d') then c.next else c

def Halt.close (close : Cursor → Cursor) (h : Halt) : Halt :=
  let c := close h.cursor
  ⟨h.error.placeAt c.line c.column, c⟩

/-- Closes an array or object after its parts were read, or after one failed. -/
def closing {α : Type} (close : Cursor → Cursor) (finish : Cursor → Except Error Cursor)
    (r : Except Halt (α × Cursor)) : Except Halt (α × Cursor) :=
  match r with
  | .ok (a, c) =>
    match finish c with
    | .ok c' => .ok (a, c')
    | .error e => .error ⟨e, c⟩
  | .error h => .error (h.close close)

/-- How a number shows in a message. -/
def Parsed.unexpected : Parsed → Unexpected
  | .unsigned n => .unsigned n
  | .signed n => .signed n
  | .float f => .float (Numeric.shortest f)

/-- The failure for a value of the wrong kind at `c`, placed after the value when it is a scalar
and at its bracket when it opens an array or object; a value that does not read fails as it
reads. -/
def peekInvalidType (c : Cursor) (expected : String) : Halt :=
  let wrong (c' : Cursor) (u : Unexpected) : Halt := ⟨c'.fail (.invalidType u expected), c'⟩
  let orFault {α : Type} (r : Except Error α) (k : α → Halt) : Halt :=
    match r with
    | .ok a => k a
    | .error e => ⟨e, c⟩
  match c.peek with
  | none => ⟨c.failAhead (.malformed .expectedValue), c⟩
  | some b =>
    if b = byte 'n' then orFault (ident c.next (Text.Utf8.ofString "ull")) (wrong · .null)
    else if b = byte 't' then orFault (ident c.next (Text.Utf8.ofString "rue")) (wrong · (.bool true))
    else if b = byte 'f' then
      orFault (ident c.next (Text.Utf8.ofString "alse")) (wrong · (.bool false))
    else if b = byte '-' then orFault (number c.next false) fun (p, c') => wrong c' p.unexpected
    else if isDigit b then orFault (number c true) fun (p, c') => wrong c' p.unexpected
    else if b = byte '"' then orFault c.next.string fun (s, c') => wrong c' (.str s)
    else if b = byte '[' then wrong c .seq
    else if b = byte '\x7b' then wrong c .map
    else ⟨c.failAhead (.malformed .expectedValue), c⟩

/-- A string's text, or the failure for a value of another kind. -/
def readText (c : Cursor) (expected : String) : Except Halt (String × Cursor) :=
  let c := c.skipBlanks
  match c.peek with
  | none => haltAhead c (.malformed .eofValue)
  | some b =>
    if b = byte '"' then lift c c.next.string
    else .error (peekInvalidType c expected)

/-- The member of a family that a tag names. -/
def readMember {κ : Type} (c : Cursor) (members : List (Member × List (FieldKey κ × Shape κ))) :
    Except Halt (Nat × Cursor) := do
  let (s, c') ← readText c "variant identifier"
  match members.findIdx? (·.1.tag == s) with
  | some i => pure (i, c')
  | none => halt c' (.unknownVariant s (members.map (·.1.tag)))

/-- The index of a name among a set of names. -/
def readCase (c : Cursor) (names : List String) : Except Halt (Nat × Cursor) := do
  let (s, c') ← readText c "variant identifier"
  match caseIndex? names s with
  | some i => pure (i, c')
  | none => halt c' (.unknownVariant s names)

def openNested (depth : Nat) (c : Cursor) : Except Halt Cursor :=
  if depth ≤ 1 then haltAhead c (.malformed .recursionLimit) else .ok c.next

/-- The rest of a family of records after its opening bracket: the tag, then raw content. -/
def tagFromItems {κ : Type} (depth : Nat) (tag : String)
    (members : List (Member × List (FieldKey κ × Shape κ))) (c : Cursor) :
    Except Halt ((Nat × Json) × Cursor) := do
  match ← lift c (nextItem c true) with
  | none => haltUnplaced c (.missingField tag)
  | some c' => do
    let (i, c'') ← readMember c' members
    let (items, c''') ← lift c'' (readItems false depth false [] c''.fuel c'')
    pure ((i, .arr items), c''')

/-- The rest of a family of records after its opening brace: the tag wherever it stands, the
other fields as raw content. -/
def tagFromFields {κ : Type} (depth : Nat) (tag : String)
    (members : List (Member × List (FieldKey κ × Shape κ))) :
    Nat → Bool → Option Nat → List (String × Json) → Cursor →
    Except Halt ((Nat × Json) × Cursor)
  | 0, _, _, _, c => haltAhead c (.malformed .recursionLimit)
  | fuel + 1, first, found, acc, c => do
    match ← lift c (nextKeyStart c first) with
    | none =>
      match found with
      | some i => pure ((i, .obj acc.reverse), c)
      | none => haltUnplaced c (.missingField tag)
    | some c' => do
      let (k, c'') ← lift c' c'.next.string
      if k = tag then
        match found with
        | some _ => haltUnplaced c'' (.duplicateField tag)
        | none => do
          let c3 ← lift c'' (colon c'')
          let (i, c4) ← readMember c3 members
          tagFromFields depth tag members fuel false (some i) acc c4
      else do
        let c3 ← lift c'' (colon c'')
        let (v, c4) ← lift c3 (readValue false depth c3.fuel c3)
        tagFromFields depth tag members fuel false found ((k, v) :: acc) c4

/-- A name of a fixed set written as an object of one field whose value is `null`, after its
opening brace. -/
def caseFromField (names : List String) (c : Cursor) : Except Halt (Nat × Cursor) := do
  let (i, c) ← readCase c names
  let c ← lift c (colon c)
  let c := c.skipBlanks
  let c ← match c.peek with
    | none => haltAhead c (.malformed .eofValue)
    | some b =>
      if b = byte 'n' then lift c (ident c.next (Text.Utf8.ofString "ull"))
      else .error (peekInvalidType c "unit")
  let c := c.skipBlanks
  match c.peek with
  | some b =>
    if b = byte '\x7d' then pure (i, c.next) else halt c (.malformed .expectedValue)
  | none => halt c (.malformed .eofObject)

mutual
/-- Decodes a value by a shape while reading it, `depth` levels of nesting still allowed.
`fuel` is never short when it exceeds twice the length of the text and the shape's nesting. -/
def decodeText {κ : Type} : Nat → Nat → Shape κ → Cursor → Except Halt (Datum κ × Cursor)
  | 0, _, _, c => haltAhead c (.malformed .recursionLimit)
  | fuel + 1, depth, shape, c =>
    let c := c.skipBlanks
    match c.peek with
    | none =>
      match shape with
      | .option s => (decodeText fuel depth s c).map fun (d, c') => (.some d, c')
      | _ => haltAhead c (.malformed .eofValue)
    | some b =>
      match shape with
      | .text => (readText c "a string").map fun (s, c') => (.text s, c')
      | .int64 =>
        let visit (r : Except Error (Parsed × Cursor)) : Except Halt (Datum κ × Cursor) := do
          let (p, c') ← lift c r
          match p with
          | .unsigned n =>
            if n < Nat.pow 2 63 then pure (.int n, c') else halt c' (.invalidValue (.unsigned n) "i64")
          | .signed n => pure (.int n, c')
          | .float f => halt c' (.invalidType (.float (Numeric.shortest f)) "i64")
        if b = byte '-' then visit (number c.next false)
        else if isDigit b then visit (number c true)
        else .error (peekInvalidType c "i64")
      | .bool =>
        if b = byte 't' then
          (lift c (ident c.next (Text.Utf8.ofString "rue"))).map fun c' => (.bool true, c')
        else if b = byte 'f' then
          (lift c (ident c.next (Text.Utf8.ofString "alse"))).map fun c' => (.bool false, c')
        else .error (peekInvalidType c "a boolean")
      | .option s =>
        if b = byte 'n' then
          (lift c (ident c.next (Text.Utf8.ofString "ull"))).map fun c' => (.none, c')
        else (decodeText fuel depth s c).map fun (d, c') => (.some d, c')
      | .list s =>
        if b = byte '[' then do
          let c' ← openNested depth c
          closing Cursor.afterSeq endSeq
            ((decodeItemsText fuel (depth - 1) s true [] c').map fun (ds, c'') => (.list ds, c''))
        else .error (peekInvalidType c "a sequence")
      | .json => (lift c (readValue true depth c.fuel c)).map fun (j, c') => (.json j, c')
      | .record name fields =>
        if b = byte '\x7b' then do
          let c' ← openNested depth c
          closing Cursor.afterMap endMap
            (match fillSlotsText fuel (depth - 1) fields true (fields.map fun _ => Option.none) c' with
             | .ok (slots, c'') =>
               match completeFields fields slots with
               | .ok ds => .ok (.record ds, c'')
               | .error p => haltUnplaced c'' p
             | .error h => .error h)
        else if b = byte '[' then do
          let c' ← openNested depth c
          closing Cursor.afterSeq endSeq
            ((fieldsInOrderText fuel (depth - 1) (recordLength name fields.length) 0 fields true c').map
              fun (ds, c'') => (.record ds, c''))
        else .error (peekInvalidType c name)
      | .tagged name tag members =>
        let wrong (r : Except Error Cursor) (u : Unexpected) : Except Halt (Datum κ × Cursor) := do
          let c' ← lift c r
          halt c' (.invalidType u ("internally tagged enum " ++ name))
        let member (r : Except Halt ((Nat × Json) × Cursor)) : Except Halt (Datum κ × Cursor) := do
          let ((i, content), c') ← r
          match decodeMember fuel name members i content with
          | .ok d => pure (d, c')
          | .error e => .error ⟨e, c'⟩
        if b = byte '\x7b' then do
          let c' ← openNested depth c
          member (closing Cursor.afterMap endMap (tagFromFields (depth - 1) tag members c'.fuel true none [] c'))
        else if b = byte '[' then do
          let c' ← openNested depth c
          member (closing Cursor.afterSeq endSeq (tagFromItems (depth - 1) tag members c'))
        else if b = byte 'n' then wrong (ident c.next (Text.Utf8.ofString "ull")) .null
        else if b = byte 't' then wrong (ident c.next (Text.Utf8.ofString "rue")) (.bool true)
        else if b = byte 'f' then wrong (ident c.next (Text.Utf8.ofString "alse")) (.bool false)
        else if b = byte '-' ∨ isDigit b then do
          let (p, c') ← lift c (if b = byte '-' then number c.next false else number c true)
          halt c' (.invalidType p.unexpected ("internally tagged enum " ++ name))
        else if b = byte '"' then do
          let (s, c') ← lift c c.next.string
          halt c' (.invalidType (.str s) ("internally tagged enum " ++ name))
        else haltAhead c (.malformed .expectedValue)
      | .cases names =>
        if b = byte '\x7b' then do
          let c' ← openNested depth c
          (caseFromField names c').map fun (i, c'') => (.case i, c'')
        else if b = byte '"' then (readCase c names).map fun (i, c') => (.case i, c')
        else haltAhead c (.malformed .expectedValue)
      | .checked expecting read => do
        let (s, c') ← readText c expecting
        match read s with
        | .ok k => pure (.leaf k, c')
        | .error m => halt c' (.custom m)

/-- The items of a list after its opening bracket, up to the closing one. -/
def decodeItemsText {κ : Type} : Nat → Nat → Shape κ → Bool → List (Datum κ) → Cursor →
    Except Halt (List (Datum κ) × Cursor)
  | 0, _, _, _, _, c => haltAhead c (.malformed .recursionLimit)
  | fuel + 1, depth, s, first, acc, c => do
    match ← lift c (nextItem c first) with
    | none => pure (acc.reverse, c)
    | some c' => do
      let (d, c'') ← decodeText fuel depth s c'
      decodeItemsText fuel depth s false (d :: acc) c''

/-- Fills the slots of a record's fields from the fields of an object, after its opening brace, up
to the closing one: a field named twice is refused after its name, an unknown one is skipped. -/
def fillSlotsText {κ : Type} : Nat → Nat → List (FieldKey κ × Shape κ) → Bool →
    List (Option (Datum κ)) → Cursor → Except Halt (List (Option (Datum κ)) × Cursor)
  | 0, _, _, _, _, c => haltAhead c (.malformed .recursionLimit)
  | fuel + 1, depth, fields, first, slots, c => do
    match ← lift c (nextKeyStart c first) with
    | none => pure (slots, c)
    | some c' => do
      let (k, c'') ← lift c' c'.next.string
      match fieldIndex? fields k with
      | none => do
        let c3 ← lift c'' (colon c'')
        let c4 ← lift c3 (skipValue c3)
        fillSlotsText fuel depth fields false slots c4
      | some i =>
        match slots[i]?, fields[i]? with
        | some (some _), some (key, _) => haltUnplaced c'' (.duplicateField key.name)
        | _, some (_, s) => do
          let c3 ← lift c'' (colon c'')
          let (d, c4) ← decodeText fuel depth s c3
          fillSlotsText fuel depth fields false (slots.set i (some d)) c4
        | _, none => fillSlotsText fuel depth fields false slots c''

/-- A record's fields from the items of an array, after its opening bracket; a field past the
closing bracket holds what it holds when absent, if anything. -/
def fieldsInOrderText {κ : Type} : Nat → Nat → String → Nat → List (FieldKey κ × Shape κ) → Bool →
    Cursor → Except Halt (List (Datum κ) × Cursor)
  | 0, _, _, _, _, _, c => haltAhead c (.malformed .recursionLimit)
  | _ + 1, _, _, _, [], _, c => .ok ([], c)
  | fuel + 1, depth, expecting, i, (key, s) :: fields, first, c => do
    match ← lift c (nextItem c first) with
    | some c' => do
      let (d, c'') ← decodeText fuel depth s c'
      let (ds, c3) ← fieldsInOrderText fuel depth expecting (i + 1) fields false c''
      pure (d :: ds, c3)
    | none =>
      match key.absent with
      | .fill d => do
        let (ds, c3) ← fieldsInOrderText fuel depth expecting (i + 1) fields first c
        pure (d :: ds, c3)
      | _ => haltUnplaced c (.invalidLength i expecting)
end

/-- Decodes a whole text by a shape; nothing but blanks may follow the value. -/
def decodeBytes {κ : Type} (shape : Shape κ) (bs : List UInt8) : Except Error (Datum κ) :=
  let c := Cursor.ofBytes bs
  match decodeText (c.fuel + 64) 128 shape c with
  | .ok (d, c') =>
    match finish c' with
    | .ok () => .ok d
    | .error e => .error e
  | .error h => .error h.error

def decodeString {κ : Type} (shape : Shape κ) (s : String) : Except Error (Datum κ) :=
  decodeBytes shape (Text.Utf8.ofString s)

/-- Decodes whole bytes by a shape into a value that `read` makes of the datum. -/
def decodeBytesAs {κ α : Type} (shape : Shape κ) (read : Datum κ → Option α) (bs : List UInt8) :
    Except Error α := do
  match read (← decodeBytes shape bs) with
  | some a => pure a
  | none => problem (.custom "value does not fit its shape")

/-- Decodes a whole text by a shape into a value that `read` makes of the datum. -/
def decodeStringAs {κ α : Type} (shape : Shape κ) (read : Datum κ → Option α) (s : String) :
    Except Error α := do
  match read (← decodeString shape s) with
  | some a => pure a
  | none => problem (.custom "value does not fit its shape")

end Signon.Json
