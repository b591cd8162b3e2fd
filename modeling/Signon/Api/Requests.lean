import Signon.Gateway.Basic

namespace Signon.Api

def loginBody (email : Email) (password : Password.Login) : Json :=
  .obj [("email", .str email.text), ("password", .str password.secret.text)]

def registerBody (r : Registration) : Json :=
  .obj [("email", .str r.email.text), ("username", .str r.username.text),
    ("password", .str r.password.secret.text)]

def verifyEmailBody (email : Email) (code : VerificationCode) : Json :=
  .obj [("email", .str email.text), ("verificationCode", .str code.text)]

def emailBody (email : Email) : Json := .obj [("email", .str email.text)]

def resetPasswordBody (r : PasswordReset) : Json :=
  .obj [("email", .str r.email.text), ("resetToken", .str r.resetToken.text),
    ("newPassword", .str r.newPassword.secret.text)]

def changePasswordBody (current : Password.Login) (fresh : Password.Chosen) : Json :=
  .obj [("currentPassword", .str current.secret.text), ("newPassword", .str fresh.secret.text)]

end Signon.Api
