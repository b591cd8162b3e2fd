/-!
Instants in UTC on the proleptic Gregorian calendar, from the first day of year -262143 to the
last day of year 262142. An instant is the number of seconds since 1970-01-01T00:00:00Z and the
nanoseconds into that second; a leap second is written as the second before it with a billion
nanoseconds more, and shows as second 60.
-/

namespace Signon.Time

def minYear : Int := -262143

def maxYear : Int := 262142

/-- Days since 1970-01-01 of a date of the proleptic Gregorian calendar. -/
def daysFromCivil (year : Int) (month day : Nat) : Int :=
  let y := if month ≤ 2 then year - 1 else year
  let era := y.fdiv 400
  let yoe := y - era * 400
  let mp : Int := if month > 2 then month - 3 else month + 9
  let doy := (153 * mp + 2) / 5 + day - 1
  let doe := yoe * 365 + yoe / 4 - yoe / 100 + doy
  era * 146097 + doe - 719468

/-- The date of a number of days since 1970-01-01: year, month and day. -/
def civilFromDays (z : Int) : Int × Nat × Nat :=
  let z := z + 719468
  let era := z.fdiv 146097
  let doe := z - era * 146097
  let yoe := (doe - doe / 1460 + doe / 36524 - doe / 146096) / 365
  let y := yoe + era * 400
  let doy := doe - (365 * yoe + yoe / 4 - yoe / 100)
  let mp := (5 * doy + 2) / 153
  let d := doy - (153 * mp + 2) / 5 + 1
  let m := if mp < 10 then mp + 3 else mp - 9
  (if m ≤ 2 then y + 1 else y, m.toNat, d.toNat)

def isLeapYear (y : Int) : Bool :=
  (y % 4 == 0 && y % 100 != 0) || y % 400 == 0

/-- The number of days of a month. -/
def daysInMonth (y : Int) (m : Nat) : Nat :=
  if m = 2 then (if isLeapYear y then 29 else 28)
  else if m = 4 ∨ m = 6 ∨ m = 9 ∨ m = 11 then 30
  else 31

def isValidDate (y : Int) (m d : Nat) : Bool :=
  minYear ≤ y && y ≤ maxYear && 1 ≤ m && m ≤ 12 && 1 ≤ d && d ≤ daysInMonth y m

def minSeconds : Int := daysFromCivil minYear 1 1 * 86400

def maxSeconds : Int := daysFromCivil maxYear 12 31 * 86400 + 86399

/-- An instant in UTC. -/
structure Instant where
  /-- Seconds since 1970-01-01T00:00:00Z. -/
  seconds : Int
  /-- Nanoseconds into the second; a billion or more only in a leap second. -/
  nanos : Nat
  deriving DecidableEq, Repr

namespace Instant

def ofSeconds? (s : Int) : Option Instant :=
  if minSeconds ≤ s ∧ s ≤ maxSeconds then some ⟨s, 0⟩ else none

def twoDigits (n : Nat) : String :=
  String.ofList [Char.ofNat (48 + n / 10 % 10), Char.ofNat (48 + n % 10)]

/-- A year: four digits from 0 to 9999, otherwise a sign and at least four digits. -/
def yearText (y : Int) : String :=
  if 0 ≤ y ∧ y ≤ 9999 then twoDigits (y.toNat / 100) ++ twoDigits (y.toNat % 100)
  else
    let digits := toString y.natAbs
    let padded := String.ofList (List.replicate (4 - digits.length) '0') ++ digits
    (if y < 0 then "-" else "+") ++ padded

/-- The digits of the fraction of a second: none for zero, else 3, 6 or 9, the fewest that show
it exactly. -/
def fractionText (nanos : Nat) : String :=
  let pad (width n : Nat) : String :=
    let ds := toString n
    String.ofList (List.replicate (width - ds.length) '0') ++ ds
  if nanos = 0 then ""
  else if nanos % 1000000 = 0 then "." ++ pad 3 (nanos / 1000000)
  else if nanos % 1000 = 0 then "." ++ pad 6 (nanos / 1000)
  else "." ++ pad 9 nanos

/-- The date and time of an instant, without offset: `2024-01-01T00:00:00.5`. -/
def dateTimeText (t : Instant) : String :=
  let days := t.seconds.fdiv 86400
  let secs := (t.seconds - days * 86400).toNat
  let (y, m, d) := civilFromDays days
  let leap := if t.nanos ≥ 1000000000 then 1 else 0
  yearText y ++ "-" ++ twoDigits m ++ "-" ++ twoDigits d ++ "T" ++ twoDigits (secs / 3600) ++ ":" ++
    twoDigits (secs / 60 % 60) ++ ":" ++ twoDigits (secs % 60 + leap) ++
    fractionText (t.nanos % 1000000000)

def render (t : Instant) : String := t.dateTimeText ++ "Z"

def renderWithOffset (t : Instant) : String := t.dateTimeText ++ "+00:00"

end Instant

end Signon.Time
