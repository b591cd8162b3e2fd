import Signon.Time.Instant
import Signon.Text.Blank

/-!
Reading date-times in a relaxed RFC 3339 form: a date `Y-M-D`, a `T`, `t` or space, a time
`h:m:s` with an optional fraction, then an offset that is `Z`, `UTC` or a signed `hh:mm`. Blanks
may stand before each number and separator and before the offset. A year has four digits unless
it has a sign; the other fields have one or two. Each field is checked for its range when it is
read; the date is checked as a whole, and the offset applied, once all is read.
-/

namespace Signon.Time

/-- Why a text is not a date-time. -/
inductive ParseError where
  | outOfRange
  | invalid
  | tooShort
  | tooLong
  deriving DecidableEq, Repr

/-- How a refusal reads. -/
def ParseError.message : ParseError → String
  | .outOfRange => "input is out of range"
  | .invalid => "input contains invalid characters"
  | .tooShort => "premature end of input"
  | .tooLong => "trailing input"

def byteCount (cs : List Char) : Nat := cs.foldl (fun n c => n + c.utf8Size) 0

def isDigitChar (c : Char) : Bool := '0' ≤ c && c ≤ '9'

/-- Reads from one to `max` digits into `acc`, refusing a value past 64 signed bits. -/
def digitsFrom (max : Nat) (count : Nat) (acc : Int) : List Char → Except ParseError (Int × Nat × List Char)
  | c :: rest =>
    if count < max ∧ isDigitChar c then
      let v := acc * 10 + (c.toNat - 48)
      if v ≥ Int.pow 2 63 then .error .outOfRange else digitsFrom max (count + 1) v rest
    else .ok (acc, count, c :: rest)
  | [] => .ok (acc, count, [])

/-- A number of one to `max` digits. -/
def number (max : Nat) (s : List Char) : Except ParseError (Int × List Char) := do
  if s.isEmpty then throw .tooShort
  let (v, count, rest) ← digitsFrom max 0 0 s
  if count = 0 then throw .invalid
  pure (v, rest)

/-- Expects one character. -/
def literal (c : Char) (s : List Char) : Except ParseError (List Char) :=
  match s with
  | [] => .error .tooShort
  | d :: rest => if d = c then .ok rest else .error .invalid

def field (max : Nat) (lo hi : Int) (s : List Char) : Except ParseError (Int × List Char) := do
  let (v, rest) ← number max (Text.dropBlanks s)
  if lo ≤ v ∧ v ≤ hi then pure (v, rest) else throw .outOfRange

/-- A year after blanks: four digits, or a sign and any number of digits. -/
def year (s : List Char) : Except ParseError (Int × List Char) := do
  let s := Text.dropBlanks s
  let (v, rest) ← match s with
    | '-' :: more => do let (v, r) ← number more.length more; pure (-v, r)
    | '+' :: more => number more.length more
    | _ => number 4 s
  if -(Int.pow 2 31) ≤ v ∧ v < Int.pow 2 31 then pure (v, rest) else throw .outOfRange

/-- The nanoseconds of a fraction after its point: up to nine digits count, more are skipped. -/
def fraction (s : List Char) : Except ParseError (Nat × List Char) := do
  if s.isEmpty then throw .tooShort
  let (v, count, rest) ← digitsFrom 9 0 0 s
  if count = 0 then throw .invalid
  pure (v.toNat * Nat.pow 10 (9 - count), rest.dropWhile isDigitChar)

/-- Two ASCII digits at the front, counted in bytes. -/
def twoDigits (s : List Char) : Except ParseError (Nat × Nat × List Char) :=
  if byteCount s < 2 then .error .tooShort
  else match s with
    | a :: b :: rest =>
      if isDigitChar a ∧ isDigitChar b then .ok (a.toNat - 48, b.toNat - 48, rest) else .error .invalid
    | _ => .error .invalid

/-- An offset from UTC in seconds: `Z`, or a sign (`+`, `-` or the minus sign), hours, any colons
and blanks, and minutes. -/
def offset (s : List Char) : Except ParseError (Int × List Char) :=
  match s with
  | 'Z' :: rest | 'z' :: rest => .ok (0, rest)
  | [] => .error .tooShort
  | c :: rest => do
    let negative ← if c = '+' then pure false
      else if c = '-' ∨ c = '−' then pure true
      else throw .invalid
    let (h1, h2, rest) ← twoDigits rest
    let rest := rest.dropWhile fun c => c = ':' || Text.isBlank c
    if byteCount rest < 2 then throw .tooShort
    let (m1, m2, rest) ← match rest with
      | a :: b :: more =>
        if isDigitChar a ∧ isDigitChar b then
          if a.toNat - 48 ≤ 5 then pure (a.toNat - 48, b.toNat - 48, more) else throw .outOfRange
        else throw .invalid
      | _ => throw .invalid
    let secs : Int := (h1 * 10 + h2) * 3600 + (m1 * 10 + m2) * 60
    pure (if negative then -secs else secs, rest)

def startsWithUtc : List Char → Bool
  | a :: b :: c :: _ => [a, b, c].map Char.toLower == ['u', 't', 'c']
  | _ => false

/-- The fields of a date-time as read: year, month, day, hour, minute, second, nanoseconds and
offset in seconds. -/
structure Fields where
  year : Int
  month : Nat
  day : Nat
  hour : Nat
  minute : Nat
  second : Nat
  nanos : Nat
  offset : Int

/-- Reads the fields of a date-time, checking each range as it is read. -/
def readFields (text : String) : Except ParseError Fields := do
  let s := text.toList
  let (y, s) ← year s
  let s ← literal '-' (Text.dropBlanks s)
  let (mo, s) ← field 2 1 12 s
  let s ← literal '-' (Text.dropBlanks s)
  let (d, s) ← field 2 1 31 s
  let s ← match s with
    | c :: rest => if c = 'T' ∨ c = 't' ∨ c = ' ' then pure rest else throw .invalid
    | [] => throw .tooShort
  let (h, s) ← field 2 0 23 s
  let s ← literal ':' (Text.dropBlanks s)
  let (mi, s) ← field 2 0 59 s
  let s ← literal ':' (Text.dropBlanks s)
  let (se, s) ← field 2 0 60 s
  let (ns, s) ← match s with
    | '.' :: rest => fraction rest
    | _ => pure (0, s)
  let s := Text.dropBlanks s
  let (off, s) ← if startsWithUtc s then pure (0, s.drop 3) else offset s
  if !(Text.dropBlanks s).isEmpty then throw .tooLong
  pure ⟨y, mo.toNat, d.toNat, h.toNat, mi.toNat, se.toNat, ns, off⟩

/-- The instant of the fields: the date must be on the calendar, a second of 60 is a leap second,
and the offset must be less than a day and keep the instant on the calendar. -/
def Fields.toInstant (f : Fields) : Except ParseError Instant := do
  if !isValidDate f.year f.month f.day then throw .outOfRange
  if f.offset.natAbs ≥ 86400 then throw .outOfRange
  let (second, leap) := if f.second = 60 then (59, 1000000000) else (f.second, 0)
  let wall := daysFromCivil f.year f.month f.day * 86400 + f.hour * 3600 + f.minute * 60 + second
  let utc := wall - f.offset
  if utc < minSeconds ∨ utc > maxSeconds then throw .outOfRange
  pure ⟨utc, f.nanos + leap⟩

def parseInstant (text : String) : Except ParseError Instant := do
  (← readFields text).toInstant

end Signon.Time
