import Signon.Gateway.Basic

namespace Signon

/-- A call a gateway received, with the checked values it carried. -/
inductive Call where
  | login (email : Email) (password : String)
  | register (email : Email) (username : Username) (password : String)
  | verifyEmail (email : Email) (code : String)
  | resendVerification (email : Email)
  | forgotPassword (email : Email)
  | resetPassword (email : Email) (resetToken : String) (newPassword : String)
  | logout (credentials : Credentials)
  | refresh
  | fetchUser
  | changePassword (current newPassword : String)

/-- One entry of a script: its answer to each kind of call. -/
structure Reply where
  /-- To signing in, registering and verifying. -/
  grant : Except Failure Grant
  /-- To the calls that answer with a message. -/
  message : Except Failure (Option String)
  /-- To signing out. -/
  done : Except Failure Unit
  /-- To refreshing. -/
  session : Except Failure Session
  /-- To loading the profile. -/
  user : Except Failure User

/-- The state of a gateway that plays back a script. -/
structure Replay where
  /-- The entries not yet used. -/
  script : List Reply
  /-- How a call fails once the script is used up. -/
  exhausted : Failure
  /-- The calls received, oldest first. -/
  calls : List Call

namespace Replay

/-- Records a call and answers it with the next entry. -/
def answer {α : Type} (call : Call) (pick : Reply → Except Failure α) : Op Replay α := do
  let r ← Op.gateway
  match r.script with
  | [] =>
    Op.setGateway { r with calls := r.calls ++ [call] }
    throw r.exhausted
  | e :: rest =>
    Op.setGateway { r with script := rest, calls := r.calls ++ [call] }
    Op.lift (pick e)

/-- The gateway that plays back its script. -/
def gateway : Gateway Replay where
  login e p := answer (.login e p.secret.text) Reply.grant
  register r := answer (.register r.email r.username r.password.secret.text) Reply.grant
  verifyEmail e c := answer (.verifyEmail e c.text) Reply.grant
  resendVerification e := answer (.resendVerification e) Reply.message
  forgotPassword e := answer (.forgotPassword e) Reply.message
  resetPassword r :=
    answer (.resetPassword r.email r.resetToken.text r.newPassword.secret.text) Reply.message
  logout c := answer (.logout c) Reply.done
  refresh := answer .refresh Reply.session
  changePassword c p := answer (.changePassword c.secret.text p.secret.text) Reply.message
  fetchUser := answer .fetchUser Reply.user

end Replay

end Signon
