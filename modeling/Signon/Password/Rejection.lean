namespace Signon.Password

/-- Why a password is refused. -/
inductive Rejection where
  | tooShort (min actual : Nat)
  | tooLong (max actual : Nat)
  | blank
  | controlCharacter
  | mismatch
  deriving DecidableEq, Repr

/-- How a refusal reads. -/
def Rejection.message : Rejection → String
  | .tooShort min actual =>
    "Password must be at least " ++ toString min ++ " characters (got " ++ toString actual ++ ")"
  | .tooLong max actual =>
    "Password must be at most " ++ toString max ++ " characters (got " ++ toString actual ++ ")"
  | .blank => "Password cannot be empty or contain only whitespace"
  | .controlCharacter => "Password contains invalid control characters"
  | .mismatch => "Passwords do not match"

/-- The name of a refusal. -/
def Rejection.name : Rejection → String
  | .tooShort .. => "TooShort"
  | .tooLong .. => "TooLong"
  | .blank => "EmptyOrWhitespace"
  | .controlCharacter => "InvalidCharacter"
  | .mismatch => "Mismatch"

end Signon.Password
