import Signon.Client.World
import Signon.Account.Email
import Signon.Account.Username
import Signon.Account.VerificationCode
import Signon.Password.Policy

namespace Signon

/-- What an action that may start a session brings back. -/
structure Grant where
  /-- Credentials the server issued. -/
  credentials : Option Credentials
  /-- The user the server named. -/
  user : Option User
  /-- A message for the user. -/
  message : Option String
  deriving DecidableEq

/-- A checked request for an account. -/
structure Registration where
  email : Email
  username : Username
  password : Password.Chosen

/-- A checked request to set a password with a reset token. -/
structure PasswordReset where
  email : Email
  resetToken : ResetToken
  newPassword : Password.Chosen

/-- The round trips to the server, each an operation over the client's world. -/
structure Gateway (γ : Type) where
  login : Email → Password.Login → Op γ Grant
  register : Registration → Op γ Grant
  verifyEmail : Email → VerificationCode → Op γ Grant
  resendVerification : Email → Op γ (Option String)
  forgotPassword : Email → Op γ (Option String)
  resetPassword : PasswordReset → Op γ (Option String)
  /-- Ends the session the credentials belong to; never retried. -/
  logout : Credentials → Op γ Unit
  /-- Exchanges the held refresh credential and commits the result. -/
  refresh : Op γ Session
  changePassword : Password.Login → Password.Chosen → Op γ (Option String)
  fetchUser : Op γ User

end Signon
