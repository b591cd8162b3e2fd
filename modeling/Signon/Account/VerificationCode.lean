import Signon.Report.Basic
import Signon.Text.Blank

namespace Signon

/-- A verification code. -/
structure VerificationCode where
  text : String
  deriving DecidableEq

namespace VerificationCode

def length : Nat := 6

/-- Reads a code: exactly six ASCII digits once trimmed. -/
def make (raw : String) : Except Report VerificationCode :=
  let code := Text.trim raw
  if code.utf8ByteSize == length && code.toList.all Char.isDigit then .ok ⟨code⟩
  else .error ((Report.badRequest ("Verification code must be " ++ toString length ++ " digits")).withAction
    "Check the code in the verification email")

def debug (_ : VerificationCode) : String := "VerificationCode(******)"

end VerificationCode

end Signon
