import Signon.Report.Basic
import Signon.Text.Blank
import Signon.Crypto.Compare

namespace Signon

/-- A token that authorizes requests. -/
structure AccessToken where
  text : String
  deriving DecidableEq

/-- A token that obtains a new access token. -/
structure RefreshToken where
  text : String
  deriving DecidableEq

/-- A token that authorizes one password reset. -/
structure ResetToken where
  text : String
  deriving DecidableEq

def issuedText (raw what : String) : Except Report String :=
  let t := Text.trim raw
  if t.isEmpty then .error (Report.badGateway ("Server returned an empty " ++ what)) else .ok t

namespace AccessToken

def make (raw : String) : Except Report AccessToken :=
  (issuedText raw "access token").map AccessToken.mk

def same (a b : AccessToken) : Bool := Crypto.textsMatch a.text b.text

def debug (_ : AccessToken) : String := "AccessToken([REDACTED])"

end AccessToken

namespace RefreshToken

def make (raw : String) : Except Report RefreshToken :=
  (issuedText raw "refresh token").map RefreshToken.mk

def same (a b : RefreshToken) : Bool := Crypto.textsMatch a.text b.text

def debug (_ : RefreshToken) : String := "RefreshToken([REDACTED])"

end RefreshToken

namespace ResetToken

/-- Reads a reset token typed by a user. -/
def make (raw : String) : Except Report ResetToken :=
  let t := Text.trim raw
  if t.isEmpty then
    .error ((Report.badRequest "Reset token cannot be empty").withAction
      "Copy the token from the password reset email")
  else .ok ⟨t⟩

def debug (_ : ResetToken) : String := "ResetToken([REDACTED])"

end ResetToken

end Signon
