import Signon.Json.Error
import Signon.Numeric.Double
import Signon.Text.Utf8

/-!
A place in a JSON text and the tokens read from it. The text is read byte by byte; the cursor
keeps the bytes still to be read, with the line and the column reached, a column counting the
bytes since the start of its line. A fault is placed either where reading stands or one byte
ahead, at the byte that was looked at and not taken.
-/

namespace Signon.Json

def byte (c : Char) : UInt8 := c.toNat.toUInt8

/-- The bytes still to be read, with the line (from 1) and the column reached. -/
structure Cursor where
  rest : List UInt8
  line : Nat
  column : Nat

namespace Cursor

def ofBytes (bs : List UInt8) : Cursor := ⟨bs, 1, 0⟩

def ofString (s : String) : Cursor := ofBytes (Text.Utf8.ofString s)

def peek (c : Cursor) : Option UInt8 := c.rest.head?

/-- The cursor past its next byte. -/
def next (c : Cursor) : Cursor :=
  match c.rest with
  | [] => c
  | b :: rest => if b = byte '\n' then ⟨rest, c.line + 1, 0⟩ else ⟨rest, c.line, c.column + 1⟩

def fail (c : Cursor) (p : Problem) : Error := ⟨p, c.line, c.column⟩

def failAhead (c : Cursor) (p : Problem) : Error := c.next.fail p

def skip : Nat → Cursor → Cursor
  | 0, c => c
  | n + 1, c => skip n c.next

def toEnd (c : Cursor) : Cursor := skip c.rest.length c

def isBlank (b : UInt8) : Bool :=
  b = byte ' ' || b = byte '\t' || b = byte '\n' || b = byte '\r'

/-- Skips blanks. -/
def skipFrom (line column : Nat) : List UInt8 → Cursor
  | [] => ⟨[], line, column⟩
  | b :: rest =>
    if b = byte '\n' then skipFrom (line + 1) 0 rest
    else if isBlank b then skipFrom line (column + 1) rest
    else ⟨b :: rest, line, column⟩

def skipBlanks (c : Cursor) : Cursor := skipFrom c.line c.column c.rest

def atEnd (c : Cursor) : Bool := c.skipBlanks.rest.isEmpty

end Cursor

/-- A number as the reader classifies it. -/
inductive Parsed where
  | unsigned (n : Nat)
  | signed (n : Int)
  | float (f : Float)

def maxUnsigned : Nat := Nat.pow 2 64 - 1

def maxExponent : Int := Int.pow 2 31 - 1

def clampExponent (e : Int) : Int := max (-(Int.pow 2 31)) (min maxExponent e)

def isDigit (b : UInt8) : Bool := byte '0' ≤ b && b ≤ byte '9'

def digitValue (b : UInt8) : Nat := b.toNat - 48

def isExponentMark (b : UInt8) : Bool := b = byte 'e' || b = byte 'E'

/-- The double for the parts of a number, failing past the range of doubles. -/
def floatOfParts (c : Cursor) (positive : Bool) (significand : Nat) (exponent : Int) :
    Except Error (Parsed × Cursor) :=
  match Numeric.ofDecimal positive significand exponent with
  | some f => .ok (.float f, c)
  | none => .error (c.fail (.malformed .numberOutOfRange))

def skipDigits (line column : Nat) : List UInt8 → Cursor
  | b :: rest => if isDigit b then skipDigits line (column + 1) rest else ⟨b :: rest, line, column⟩
  | [] => ⟨[], line, column⟩

/-- The digits of an exponent after its first, once the exponent no longer fits: a zero
significand or a negative exponent gives zero, anything else is out of range. -/
def exponentOverflow (c : Cursor) (positive zeroSignificand positiveExp : Bool) :
    Except Error (Parsed × Cursor) :=
  if !zeroSignificand && positiveExp then .error (c.fail (.malformed .numberOutOfRange))
  else
    let c := skipDigits c.line c.column c.rest
    .ok (.float (if positive then 0.0 else -0.0), c)

/-- The digits of an exponent, `exp` so far. -/
def exponentDigits (positive : Bool) (significand : Nat) (start : Int) (positiveExp : Bool)
    (exp : Nat) (line column : Nat) : List UInt8 → Except Error (Parsed × Cursor)
  | b :: rest =>
    if isDigit b then
      let exp' := 10 * exp + digitValue b
      if exp' > maxExponent.toNat then
        exponentOverflow ⟨rest, line, column + 1⟩ positive (significand = 0) positiveExp
      else exponentDigits positive significand start positiveExp exp' line (column + 1) rest
    else
      let e := if positiveExp then clampExponent (start + exp) else clampExponent (start - exp)
      floatOfParts ⟨b :: rest, line, column⟩ positive significand e
  | [] =>
    let e := if positiveExp then clampExponent (start + exp) else clampExponent (start - exp)
    floatOfParts ⟨[], line, column⟩ positive significand e

/-- An exponent, at its `e`. -/
def exponent (c : Cursor) (positive : Bool) (significand : Nat) (start : Int) :
    Except Error (Parsed × Cursor) :=
  let c := c.next
  let (positiveExp, c) :=
    if c.peek = some (byte '+') then (true, c.next)
    else if c.peek = some (byte '-') then (false, c.next)
    else (true, c)
  match c.rest with
  | [] => .error (c.fail (.malformed .eofValue))
  | b :: rest =>
    if isDigit b then
      exponentDigits positive significand start positiveExp (digitValue b) c.line (c.column + 1) rest
    else .error (c.next.fail (.malformed .invalidNumber))

/-- Digits past the point once the significand is full: they are read and dropped. -/
def decimalOverflow (c : Cursor) (positive : Bool) (significand : Nat) (exp : Int) :
    Except Error (Parsed × Cursor) :=
  let c := skipDigits c.line c.column c.rest
  match c.peek with
  | some b => if isExponentMark b then exponent c positive significand exp
    else floatOfParts c positive significand exp
  | none => floatOfParts c positive significand exp

/-- After the digits of a fraction: at least one is needed, then maybe an exponent. -/
def fractionEnd (positive : Bool) (significand : Nat) (before : Int) (after : Nat) (c : Cursor) :
    Except Error (Parsed × Cursor) :=
  match c.peek with
  | none =>
    if after = 0 then .error (c.failAhead (.malformed .eofValue))
    else floatOfParts c positive significand (before - after)
  | some b =>
    if after = 0 then .error (c.failAhead (.malformed .invalidNumber))
    else if isExponentMark b then exponent c positive significand (before - after)
    else floatOfParts c positive significand (before - after)

/-- Digits after the point; `after` counts them. -/
def fractionDigits (positive : Bool) (significand : Nat) (before : Int) (after : Nat)
    (line column : Nat) : List UInt8 → Except Error (Parsed × Cursor)
  | b :: rest =>
    if isDigit b then
      let s := 10 * significand + digitValue b
      if s > maxUnsigned then
        decimalOverflow ⟨b :: rest, line, column⟩ positive significand (before - after)
      else fractionDigits positive s before (after + 1) line (column + 1) rest
    else fractionEnd positive significand before after ⟨b :: rest, line, column⟩
  | [] => fractionEnd positive significand before after ⟨[], line, column⟩

/-- A fraction, at its point. -/
def fraction (c : Cursor) (positive : Bool) (significand : Nat) (before : Int) :
    Except Error (Parsed × Cursor) :=
  let c := c.next
  fractionDigits positive significand before 0 c.line c.column c.rest

/-- What follows the integer digits: a fraction, an exponent, or the end of the number. -/
def numberTail (c : Cursor) (positive : Bool) (significand : Nat) :
    Except Error (Parsed × Cursor) :=
  if c.peek = some (byte '.') then fraction c positive significand 0
  else if c.peek.any isExponentMark then exponent c positive significand 0
  else if positive then .ok (.unsigned significand, c)
  -- zero and magnitudes beyond 2^63 do not negate in 64 bits and become doubles
  else if significand = 0 ∨ significand > Nat.pow 2 63 then
    .ok (.float (-(significand.toUInt64.toFloat)), c)
  else .ok (.signed (-(significand : Int)), c)

/-- Integer digits beyond what 64 bits hold: each raises the exponent. -/
def longDigits (positive : Bool) (significand : Nat) (exp : Nat) (line column : Nat) :
    List UInt8 → Except Error (Parsed × Cursor)
  | b :: rest =>
    if isDigit b then longDigits positive significand (exp + 1) line (column + 1) rest
    else
      let c : Cursor := ⟨b :: rest, line, column⟩
      if b = byte '.' then fraction c positive significand exp
      else if isExponentMark b then exponent c positive significand exp
      else floatOfParts c positive significand exp
  | [] => floatOfParts ⟨[], line, column⟩ positive significand exp

/-- Integer digits after the first. -/
def integerDigits (positive : Bool) (significand : Nat) (line column : Nat) :
    List UInt8 → Except Error (Parsed × Cursor)
  | b :: rest =>
    if isDigit b then
      let s := 10 * significand + digitValue b
      if s > maxUnsigned then longDigits positive significand 0 line column (b :: rest)
      else integerDigits positive s line (column + 1) rest
    else numberTail ⟨b :: rest, line, column⟩ positive significand
  | [] => numberTail ⟨[], line, column⟩ positive significand

/-- A number after its sign. -/
def number (c : Cursor) (positive : Bool) : Except Error (Parsed × Cursor) :=
  match c.rest with
  | [] => .error (c.fail (.malformed .eofValue))
  | b :: rest =>
    let c' := c.next
    if b = byte '0' then
      if rest.head?.any isDigit then .error (c'.failAhead (.malformed .invalidNumber))
      else numberTail c' positive 0
    else if isDigit b then integerDigits positive (digitValue b) c'.line c'.column rest
    else .error (c'.fail (.malformed .invalidNumber))

/-- The remaining letters of `null`, `true` or `false`. -/
def ident (c : Cursor) : List UInt8 → Except Error Cursor
  | [] => .ok c
  | want :: more =>
    match c.rest with
    | [] => .error (c.fail (.malformed .eofValue))
    | b :: _ =>
      if b = want then ident c.next more else .error (c.next.fail (.malformed .expectedIdent))

/-- Value of a hexadecimal digit. -/
def hexDigitValue? (b : UInt8) : Option Nat :=
  if byte '0' ≤ b ∧ b ≤ byte '9' then some (b.toNat - 48)
  else if byte 'a' ≤ b ∧ b ≤ byte 'f' then some (b.toNat - 87)
  else if byte 'A' ≤ b ∧ b ≤ byte 'F' then some (b.toNat - 55)
  else none

/-- The value of four hexadecimal digits. -/
def hex4? (a b c d : UInt8) : Option Nat := do
  let w ← hexDigitValue? a
  let x ← hexDigitValue? b
  let y ← hexDigitValue? c
  let z ← hexDigitValue? d
  pure (((w * 16 + x) * 16 + y) * 16 + z)

/-- Four hexadecimal digits of an escape: the bytes are taken whatever they are, and a text that
ends first is read to its end. -/
def hexEscape (c : Cursor) : Except Error (Nat × Cursor) :=
  match c.rest with
  | a :: b :: d :: e :: _ =>
    let c' := c.skip 4
    match hex4? a b d e with
    | some n => .ok (n, c')
    | none => .error (c'.fail (.malformed .invalidEscape))
  | _ => .error (c.toEnd.fail (.malformed .eofString))

/-- The failure when a leading surrogate is not followed by `\u`: the byte looked at is taken. -/
def pairBroken (c : Cursor) : Error :=
  match c.rest with
  | [] => c.fail (.malformed .eofString)
  | _ :: _ => c.next.fail (.malformed .unexpectedEndOfHexEscape)

/-- A `\u` escape after its `u`, the code point it gives and the cursor past it; a leading
surrogate must be followed by the escape of a trailing one. -/
def unicodeEscape (c : Cursor) : Except Error (Char × Cursor) := do
  let (n, c) ← hexEscape c
  if 0xDC00 ≤ n ∧ n ≤ 0xDFFF then .error (c.fail (.malformed .loneLeadingSurrogate))
  else if n < 0xD800 ∨ n > 0xDBFF then .ok (Char.ofNat n, c)
  else
    if c.peek = some (byte '\\') then
      let c := c.next
      if c.peek = some (byte 'u') then
        let (m, c) ← hexEscape c.next
        if 0xDC00 ≤ m ∧ m ≤ 0xDFFF then
          .ok (Char.ofNat (0x10000 + (n - 0xD800) * 0x400 + (m - 0xDC00)), c)
        else .error (c.fail (.malformed .loneLeadingSurrogate))
      else .error (pairBroken c)
    else .error (pairBroken c)

/-- The character that a one-letter escape stands for. -/
def simpleEscape? (b : UInt8) : Option Char :=
  if b = byte '"' then some '"'
  else if b = byte '\\' then some '\\'
  else if b = byte '/' then some '/'
  else if b = byte 'b' then some '\x08'
  else if b = byte 'f' then some '\x0c'
  else if b = byte 'n' then some '\n'
  else if b = byte 'r' then some '\r'
  else if b = byte 't' then some '\t'
  else none

/-- The bytes of a string after its opening quote, escapes resolved; `acc` holds those read, last
first. `fuel` is never short when it exceeds the number of bytes left. -/
def stringBytes (acc : List UInt8) : Nat → Cursor → Except Error (List UInt8 × Cursor)
  | 0, c => .error (c.toEnd.fail (.malformed .eofString))
  | fuel + 1, c =>
    match c.rest with
    | [] => .error (c.fail (.malformed .eofString))
    | b :: rest =>
      if b = byte '"' then .ok (acc.reverse, c.next)
      else if b = byte '\\' then
        let c := c.next
        match c.rest with
        | [] => .error (c.fail (.malformed .eofString))
        | e :: _ =>
          if e = byte 'u' then
            match unicodeEscape c.next with
            | .ok (ch, c') => stringBytes ((Text.Utf8.encodeChar ch).reverse ++ acc) fuel c'
            | .error err => .error err
          else match simpleEscape? e with
            | some ch => stringBytes (byte ch :: acc) fuel c.next
            | none => .error (c.next.fail (.malformed .invalidEscape))
      else if b < 0x20 then .error (c.next.fail (.malformed .controlCharacter))
      else stringBytes (b :: acc) fuel ⟨rest, c.line, c.column + 1⟩

/-- A string after its opening quote; its bytes must be well-formed UTF-8, which is checked at
its closing quote. -/
def Cursor.string (c : Cursor) : Except Error (String × Cursor) := do
  let (bs, c') ← stringBytes [] (c.rest.length + 1) c
  match Text.Utf8.toString? bs with
  | some s => .ok (s, c')
  | none => .error (c'.fail (.malformed .invalidCodePoint))

end Signon.Json
