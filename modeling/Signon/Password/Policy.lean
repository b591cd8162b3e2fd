import Signon.Password.Rejection
import Signon.Text.Blank
import Signon.Text.Normalize
import Signon.Text.Printable
import Signon.Crypto.Compare

namespace Signon.Password

def minLength : Nat := 8

def maxLength : Nat := 128

/-- A password text that the policy accepted. -/
structure Secret where
  text : String
  deriving DecidableEq

def Secret.debug (_ : Secret) : String := "ClearTextPassword(\"[REDACTED]\")"

def isForbidden (c : Char) : Bool :=
  Text.isControl c && c != '\t' && c != '\n'

def existing (raw : String) : Except Rejection Secret :=
  if Text.isBlankText raw then .error .blank else .ok ⟨raw⟩

/-- Checks a chosen password: blankness, then the length bounds, then control characters, all on
the normal form, which is what is kept. -/
def fresh (raw : String) : Except Rejection Secret :=
  let n := Text.nfkc raw
  if Text.isBlankText n then .error .blank
  else if n.length < minLength then .error (.tooShort minLength n.length)
  else if maxLength < n.length then .error (.tooLong maxLength n.length)
  else if n.toList.any isForbidden then .error .controlCharacter
  else .ok ⟨n⟩

def Secret.confirm (s : Secret) (confirmation : String) : Except Rejection Secret :=
  if Crypto.textsMatch s.text (Text.nfkc confirmation) then .ok s else .error .mismatch

/-- A password typed to sign in. -/
structure Login where
  secret : Secret

def Login.make (raw : String) : Except Rejection Login :=
  (existing raw).map Login.mk

def Login.debug (_ : Login) : String := "LoginPassword([REDACTED])"

/-- A newly chosen password, confirmed by a second entry. -/
structure Chosen where
  secret : Secret

/-- Checks a chosen password, then its confirmation; the policy's refusals come first. -/
def Chosen.make (raw confirmation : String) : Except Rejection Chosen := do
  let s ← fresh raw
  let c ← s.confirm confirmation
  pure ⟨c⟩

def Chosen.debug (_ : Chosen) : String := "NewPassword([REDACTED])"

end Signon.Password
