import Signon.Json.Cursor

/-!
Reading a JSON text into a value. Arrays and objects nest at most 127 deep; blanks may surround
any token and nothing but blanks may follow the value. A value read as a document keeps one field
a key, sorted by key, the last of a repeated key winning; read as raw content it keeps every
field in the order written.
-/

namespace Signon.Json

/-- The number a parse gave, with the text it was written as. -/
def Parsed.toNumber (p : Parsed) (literal : String) : Json.Number :=
  match p with
  | .unsigned n => .nat n
  | .signed n => .neg n
  | .float f => .float f.toBits literal

def asciiText (bs : List UInt8) : String :=
  String.ofList (bs.map fun b => Char.ofNat b.toNat)

/-- A number starting at `start`, whose sign, if any, has been read up to `c`. -/
def readNumber (start c : Cursor) (positive : Bool) : Except Error (Json × Cursor) := do
  let (p, c') ← number c positive
  let literal := asciiText (start.rest.take (start.rest.length - c'.rest.length))
  pure (.num (p.toNumber literal), c')

/-- The end of an array: its closing bracket. -/
def endSeq (c : Cursor) : Except Error Cursor :=
  let c := c.skipBlanks
  match c.rest with
  | [] => .error (c.failAhead (.malformed .eofList))
  | b :: _ =>
    if b = byte ']' then .ok c.next
    else if b = byte ',' then
      let c' := c.next.skipBlanks
      if c'.peek = some (byte ']') then .error (c'.failAhead (.malformed .trailingComma))
      else .error (c'.failAhead (.malformed .trailingCharacters))
    else .error (c.failAhead (.malformed .trailingCharacters))

/-- The end of an object: its closing brace. -/
def endMap (c : Cursor) : Except Error Cursor :=
  let c := c.skipBlanks
  match c.rest with
  | [] => .error (c.failAhead (.malformed .eofObject))
  | b :: _ =>
    if b = byte '\x7d' then .ok c.next
    else if b = byte ',' then .error (c.failAhead (.malformed .trailingComma))
    else .error (c.failAhead (.malformed .trailingCharacters))

/-- Where the next item of an array starts: `none` at the closing bracket, otherwise the cursor
at the item, past the comma that separates it from the one before. -/
def nextItem (c : Cursor) (first : Bool) : Except Error (Option Cursor) :=
  let c := c.skipBlanks
  match c.rest with
  | [] => .error (c.failAhead (.malformed .eofList))
  | b :: _ =>
    if b = byte ']' then .ok none
    else if first then .ok (some c)
    else if b = byte ',' then
      let c' := c.next.skipBlanks
      match c'.rest with
      | [] => .error (c'.failAhead (.malformed .eofValue))
      | b' :: _ =>
        if b' = byte ']' then .error (c'.failAhead (.malformed .trailingComma)) else .ok (some c')
    else .error (c.failAhead (.malformed .expectedListCommaOrEnd))

/-- Where the key of the next field of an object starts: `none` at the closing brace, otherwise
the cursor at the key's opening quote, past the comma that separates it from the field before. -/
def nextKeyStart (c : Cursor) (first : Bool) : Except Error (Option Cursor) :=
  let c := c.skipBlanks
  let start : Except Error Cursor :=
    match c.rest with
    | [] => .error (c.failAhead (.malformed .eofObject))
    | b :: _ =>
      if b = byte ',' ∧ !first then .ok c.next.skipBlanks
      else if first then .ok c
      else .error (c.failAhead (.malformed .expectedObjectCommaOrEnd))
  if c.peek = some (byte '\x7d') then .ok none
  else do
    let c ← start
    match c.rest with
    | [] => .error (c.failAhead (.malformed .eofValue))
    | b :: _ =>
      if b = byte '"' then .ok (some c)
      else if b = byte '\x7d' then .error (c.failAhead (.malformed .trailingComma))
      else .error (c.failAhead (.malformed .keyMustBeString))

/-- The key of the next field of an object: `none` at the closing brace, otherwise the key and
the cursor past it. -/
def nextKey (c : Cursor) (first : Bool) : Except Error (Option (String × Cursor)) := do
  match ← nextKeyStart c first with
  | none => pure none
  | some c => do
    let (k, c') ← c.next.string
    pure (some (k, c'))

/-- The colon between a key and its value. -/
def colon (c : Cursor) : Except Error Cursor :=
  let c := c.skipBlanks
  match c.rest with
  | [] => .error (c.failAhead (.malformed .eofObject))
  | b :: _ => if b = byte ':' then .ok c.next else .error (c.failAhead (.malformed .expectedColon))

mutual
/-- A value, with `depth` levels of nesting still allowed; objects are sorted when `sorted`
holds. `fuel` bounds the steps and is never short when it is at least twice the length of the
text. -/
def readValue (sorted : Bool) (depth : Nat) : Nat → Cursor → Except Error (Json × Cursor)
  | 0, c => .error (c.failAhead (.malformed .recursionLimit))
  | fuel + 1, c =>
    let c := c.skipBlanks
    match c.rest with
    | [] => .error (c.failAhead (.malformed .eofValue))
    | b :: _ =>
      if b = byte 'n' then do let c' ← ident c.next (Text.Utf8.ofString "ull"); pure (.null, c')
      else if b = byte 't' then do let c' ← ident c.next (Text.Utf8.ofString "rue"); pure (.bool true, c')
      else if b = byte 'f' then do
        let c' ← ident c.next (Text.Utf8.ofString "alse")
        pure (.bool false, c')
      else if b = byte '-' then readNumber c c.next false
      else if isDigit b then readNumber c c true
      else if b = byte '"' then do let (s, c') ← c.next.string; pure (.str s, c')
      else if b = byte '[' then
        if depth ≤ 1 then .error (c.failAhead (.malformed .recursionLimit))
        else do
          let (items, c') ← readItems sorted (depth - 1) true [] fuel c.next
          let c'' ← endSeq c'
          pure (.arr items, c'')
      else if b = byte '\x7b' then
        if depth ≤ 1 then .error (c.failAhead (.malformed .recursionLimit))
        else do
          let (fields, c') ← readFields sorted (depth - 1) true [] fuel c.next
          let c'' ← endMap c'
          pure (.obj (if sorted then sortFields fields else fields), c'')
      else .error (c.failAhead (.malformed .expectedValue))

/-- The items of an array up to its closing bracket; `acc` holds those read, last first. -/
def readItems (sorted : Bool) (depth : Nat) (first : Bool) (acc : List Json) :
    Nat → Cursor → Except Error (List Json × Cursor)
  | 0, c => .error (c.failAhead (.malformed .recursionLimit))
  | fuel + 1, c => do
    match ← nextItem c first with
    | none => pure (acc.reverse, c)
    | some c' =>
      let (v, c'') ← readValue sorted depth fuel c'
      readItems sorted depth false (v :: acc) fuel c''

/-- The fields of an object up to its closing brace; `acc` holds those read, last first. -/
def readFields (sorted : Bool) (depth : Nat) (first : Bool) (acc : List (String × Json)) :
    Nat → Cursor → Except Error (List (String × Json) × Cursor)
  | 0, c => .error (c.failAhead (.malformed .recursionLimit))
  | fuel + 1, c => do
    match ← nextKey c first with
    | none => pure (acc.reverse, c)
    | some (k, c') =>
      let c'' ← colon c'
      let (v, c''') ← readValue sorted depth fuel c''
      readFields sorted depth false ((k, v) :: acc) fuel c'''
end

def Cursor.fuel (c : Cursor) : Nat := 2 * c.rest.length + 2

def finish (c : Cursor) : Except Error Unit :=
  let c := c.skipBlanks
  if c.rest.isEmpty then .ok () else .error (c.failAhead (.malformed .trailingCharacters))

/-- The value of a whole byte string. -/
def parseBytes (bs : List UInt8) : Except Error Json := do
  let c := Cursor.ofBytes bs
  let (v, c) ← readValue true 128 c.fuel c
  finish c
  pure v

def parse (s : String) : Except Error Json :=
  parseBytes (Text.Utf8.ofString s)

/-- Skips the rest of a string after its opening quote: escapes must be well formed and control
characters are refused, but the bytes are not decoded. -/
def skipString : Nat → Cursor → Except Error Cursor
  | 0, c => .error (c.toEnd.fail (.malformed .eofString))
  | fuel + 1, c =>
    match c.rest with
    | [] => .error (c.fail (.malformed .eofString))
    | b :: rest =>
      if b = byte '"' then .ok c.next
      else if b = byte '\\' then
        let c := c.next
        match c.rest with
        | [] => .error (c.fail (.malformed .eofString))
        | e :: _ =>
          if e = byte 'u' then
            match hexEscape c.next with
            | .ok (_, c') => skipString fuel c'
            | .error err => .error err
          else if (simpleEscape? e).isSome then skipString fuel c.next
          else .error (c.next.fail (.malformed .invalidEscape))
      else if b < 0x20 then .error (c.next.fail (.malformed .controlCharacter))
      else skipString fuel ⟨rest, c.line, c.column + 1⟩

/-- Skips the rest of a number after its sign: only its form is checked. -/
def skipNumber (c : Cursor) : Except Error Cursor :=
  let exponentPart (c : Cursor) : Except Error Cursor :=
    let c := c.next
    let c := if c.peek = some (byte '+') ∨ c.peek = some (byte '-') then c.next else c
    if c.peek.any isDigit then .ok (skipDigits c.line c.column c.rest)
    else .error (c.next.fail (.malformed .invalidNumber))
  let tail (c : Cursor) : Except Error Cursor :=
    if c.peek = some (byte '.') then
      let c' := c.next
      let c'' := skipDigits c'.line c'.column c'.rest
      if c''.rest.length = c'.rest.length then .error (c''.failAhead (.malformed .invalidNumber))
      else if c''.peek.any isExponentMark then exponentPart c''
      else .ok c''
    else if c.peek.any isExponentMark then exponentPart c
    else .ok c
  match c.rest with
  | b :: rest =>
    if b = byte '0' then
      if rest.head?.any isDigit then .error (c.next.failAhead (.malformed .invalidNumber))
      else tail c.next
    else if isDigit b then
      let c' := c.next
      tail (skipDigits c'.line c'.column c'.rest)
    else .error (c.next.fail (.malformed .invalidNumber))
  | [] => .error (c.fail (.malformed .invalidNumber))

/-- Skips one value without nesting: a scalar, or the opening of an array or object, which is
then the frame that the caller continues. -/
def skipScalarOrOpen (c : Cursor) : Except Error (Option UInt8 × Cursor) :=
  let c := c.skipBlanks
  match c.rest with
  | [] => .error (c.failAhead (.malformed .eofValue))
  | b :: _ =>
    if b = byte 'n' then do let c' ← ident c.next (Text.Utf8.ofString "ull"); pure (none, c')
    else if b = byte 't' then do let c' ← ident c.next (Text.Utf8.ofString "rue"); pure (none, c')
    else if b = byte 'f' then do let c' ← ident c.next (Text.Utf8.ofString "alse"); pure (none, c')
    else if b = byte '-' then do let c' ← skipNumber c.next; pure (none, c')
    else if isDigit b then do let c' ← skipNumber c; pure (none, c')
    else if b = byte '"' then do let c' ← skipString (c.rest.length + 1) c.next; pure (none, c')
    else if b = byte '[' ∨ b = byte '\x7b' then .ok (some b, c.next)
    else .error (c.failAhead (.malformed .expectedValue))

/-- The end of the values that close here: each closing bracket or brace that matches the
innermost open frame closes it. Gives the cursor, and the frame still open with the frames
outside it, or `none` when the outermost frame closed. A comma is taken when `acceptComma`. -/
def closeFrames : Nat → Bool → UInt8 → List UInt8 → Cursor →
    Except Error (Cursor × Option (UInt8 × List UInt8))
  | 0, _, _, _, c => .error (c.failAhead (.malformed .eofValue))
  | fuel + 1, acceptComma, frame, outer, c =>
    let c := c.skipBlanks
    let isList := frame = byte '['
    match c.rest with
    | [] => .error (c.failAhead (.malformed (if isList then .eofList else .eofObject)))
    | b :: _ =>
      if b = byte ',' ∧ acceptComma then .ok (c.next, some (frame, outer))
      else if (isList ∧ b = byte ']') ∨ (!isList ∧ b = byte '\x7d') then
        match outer with
        | [] => .ok (c.next, none)
        | f :: rest => closeFrames fuel true f rest c.next
      else if acceptComma then
        .error (c.failAhead (.malformed
          (if isList then .expectedListCommaOrEnd else .expectedObjectCommaOrEnd)))
      else .ok (c, some (frame, outer))

/-- A field's key and colon, when skipping inside an object. -/
def skipKey (c : Cursor) : Except Error Cursor := do
  let c := c.skipBlanks
  match c.rest with
  | [] => .error (c.failAhead (.malformed .eofValue))
  | b :: _ =>
    if b = byte '"' then
      let c ← skipString (c.rest.length + 1) c.next
      let c := c.skipBlanks
      match c.rest with
      | [] => .error (c.failAhead (.malformed .eofObject))
      | b' :: _ =>
        if b' = byte ':' then .ok c.next else .error (c.failAhead (.malformed .expectedColon))
    else .error (c.failAhead (.malformed .keyMustBeString))

/-- Skips a value of any nesting. `outer` holds the open frames outside `enclosing`, innermost
first. `fuel` is never short when it exceeds the length of the text. -/
def skipNested : Nat → List UInt8 → Option UInt8 → Cursor → Except Error Cursor
  | 0, _, _, c => .error (c.failAhead (.malformed .eofValue))
  | fuel + 1, outer, enclosing, c => do
    let (opened, c) ← skipScalarOrOpen c
    let start : Option (Bool × UInt8 × List UInt8) :=
      match opened, enclosing, outer with
      | some frame, _, _ => some (false, frame, enclosing.toList ++ outer)
      | none, some frame, _ => some (true, frame, outer)
      | none, none, frame :: rest => some (true, frame, rest)
      | none, none, [] => none
    match start with
    | none => pure c
    | some (acceptComma, frame, outer) =>
      match ← closeFrames (c.rest.length + 1) acceptComma frame outer c with
      | (c, none) => pure c
      | (c, some (frame, outer)) =>
        let c ← if frame = byte '\x7b' then skipKey c else pure c
        skipNested fuel outer (some frame) c

def skipValue (c : Cursor) : Except Error Cursor :=
  skipNested c.fuel [] none c

end Signon.Json
