import Signon.Text.Blank

namespace Signon.Numeric

/-- Why a text is not an integer of the wanted width. -/
inductive IntError where
  | empty
  | invalidDigit
  | tooLarge
  | tooSmall
  deriving DecidableEq, Repr

/-- How the failure reads. -/
def IntError.message : IntError → String
  | .empty => "cannot parse integer from empty string"
  | .invalidDigit => "invalid digit found in string"
  | .tooLarge => "number too large to fit in target type"
  | .tooSmall => "number too small to fit in target type"

/-- Reads digits into `acc`, away from zero in the direction of the sign, within `lo` to `hi`. -/
def readDigits (positive : Bool) (lo hi : Int) (acc : Int) : List Char → Except IntError Int
  | [] => .ok acc
  | c :: rest =>
    if '0' ≤ c ∧ c ≤ '9' then
      let d : Int := c.toNat - '0'.toNat
      if positive then
        if acc * 10 + d > hi then .error .tooLarge else readDigits positive lo hi (acc * 10 + d) rest
      else
        if acc * 10 - d < lo then .error .tooSmall else readDigits positive lo hi (acc * 10 - d) rest
    else .error .invalidDigit

/-- Reads an integer between `lo` and `hi`; `signed` says whether `-` may lead. -/
def readInt (lo hi : Int) (signed : Bool) (s : String) : Except IntError Int :=
  match s.toList with
  | [] => .error .empty
  | ['+'] | ['-'] => .error .invalidDigit
  | '+' :: rest => readDigits true lo hi 0 rest
  | '-' :: rest => if signed then readDigits false lo hi 0 rest else .error .invalidDigit
  | cs => readDigits true lo hi 0 cs

def readI64 (s : String) : Except IntError Int :=
  readInt (-(Int.pow 2 63)) (Int.pow 2 63 - 1) true s

def readU64 (s : String) : Except IntError Int :=
  readInt 0 (Int.pow 2 64 - 1) false s

end Signon.Numeric
