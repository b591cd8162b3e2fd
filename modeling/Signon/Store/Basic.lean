import Signon.Gateway.Basic

/-!
What a client does for its user, each in one round trip through a gateway followed by a local
update: restoring a kept session, signing in, registering, verifying an address, the password
flows, refreshing, loading the profile and signing out.
-/

namespace Signon.Store

variable {γ : Type}

def checked {α : Type} (r : Except Report α) : Op γ α := Op.lift (r.mapError Failure.ofReport)

def checkedPassword {α : Type} (r : Except Password.Rejection α) : Op γ α :=
  Op.lift (r.mapError .passwordRejected)

/-- Loads the kept session into the shared one; false when nothing was kept. A kept session that
no longer passes the checks is a storage failure and leaves the client signed out. -/
def restore : Op γ Bool := do
  match ← Op.load with
  | none =>
    Op.note .debug "auth::application::store" "No stored session"
    return false
  | some stored =>
    let s ← Op.lift stored.toSession
    match s.credentials with
    | none => return false
    | some c =>
      Op.modifyState (·.establish c s.user)
      Op.note .debug "auth::application::store" "Stored session restored"
      return true

/-- What signing in brings back. -/
structure SignIn where
  session : Session
  message : Option String

/-- What registering or verifying an address brings back: the session, when the server signed
the user in at once. -/
structure Enrolment where
  session : Option Session
  message : Option String

/-- Commits the session of a grant that holds credentials. -/
def adopt (grant : Grant) : Op γ Enrolment := do
  match grant.credentials with
  | some c =>
    let s := Session.signedIn c grant.user
    Op.commit s
    return ⟨some s, grant.message⟩
  | none => return ⟨none, grant.message⟩

variable (g : Gateway γ)

/-- Signs in with an address and a password; the server must issue credentials. -/
def login (email password : String) : Op γ SignIn := do
  let e ← checked (Email.make email)
  let p ← checkedPassword (Password.Login.make password)
  let grant ← g.login e p
  match grant.credentials with
  | none => throw (.unexpectedResponse "Login response did not include credentials")
  | some c =>
    let s := Session.signedIn c grant.user
    Op.commit s
    Op.note .info "auth::application::login" "Logged in"
    return ⟨s, grant.message⟩

/-- Creates an account; the address, then the name, then the password are checked. -/
def register (email username password confirmation : String) : Op γ Enrolment := do
  let e ← checked (Email.make email)
  let u ← checked (Username.make username)
  let p ← checkedPassword (Password.Chosen.make password confirmation)
  let r ← adopt (← g.register ⟨e, u, p⟩)
  Op.note .info "auth::application::register" "Registered"
  return r

/-- Confirms an address with the code mailed to it. -/
def verifyEmail (email code : String) : Op γ Enrolment := do
  let e ← checked (Email.make email)
  let c ← checked (VerificationCode.make code)
  let r ← adopt (← g.verifyEmail e c)
  Op.note .info "auth::application::verify_email" "Email verified"
  return r

/-- Asks for a fresh verification code. -/
def resendVerification (email : String) : Op γ (Option String) := do
  let m ← g.resendVerification (← checked (Email.make email))
  Op.note .info "auth::application::verify_email" "Verification code resent"
  return m

/-- Asks for a password reset mail. -/
def forgotPassword (email : String) : Op γ (Option String) := do
  let m ← g.forgotPassword (← checked (Email.make email))
  Op.note .info "auth::application::password" "Password reset requested"
  return m

/-- Sets a new password with a mailed reset token. -/
def resetPassword (email token newPassword confirmation : String) : Op γ (Option String) := do
  let e ← checked (Email.make email)
  let t ← checked (ResetToken.make token)
  let p ← checkedPassword (Password.Chosen.make newPassword confirmation)
  let m ← g.resetPassword ⟨e, t, p⟩
  Op.note .info "auth::application::password" "Password reset"
  return m

/-- Changes the password of the signed-in user, who must be known. -/
def changePassword (current newPassword confirmation : String) : Op γ (Option String) := do
  let s := (← Op.state).session
  match s.credentials, s.user with
  | some _, some _ => pure ()
  | _, _ => throw .notAuthenticated
  let c ← checkedPassword (Password.Login.make current)
  let p ← checkedPassword (Password.Chosen.make newPassword confirmation)
  let m ← g.changePassword c p
  Op.note .info "auth::application::password" "Password changed"
  return m

/-- Refreshes ahead of time; the session must hold credentials that can be refreshed. -/
def refresh : Op γ Session := do
  match (← Op.state).credentials with
  | none => throw .notAuthenticated
  | some c =>
    if !c.canRefresh then throw (.invalidInput "Session has no refresh token")
    g.refresh

/-- Loads the user's profile into the session and keeps it. The user stays set even when the
vault refuses. -/
def fetchUser : Op γ User := do
  if !(← Op.state).isAuthenticated then throw .notAuthenticated
  let u ← g.fetchUser
  Op.modifyState (·.setUser u)
  Op.persist (← Op.state).session
  Op.note .debug "auth::application::fetch_user" "Profile loaded"
  return u

/-- Signs out: tells the server when credentials are held, then forgets the session and empties
the vault whatever happened, reporting the server's failure first. -/
def logout : Op γ Unit := do
  let remote ← match (← Op.state).credentials with
    | some c => Op.attempt (g.logout c)
    | none => do
      Op.note .debug "auth::application::logout" "No credentials held, skipping logout request"
      pure (.ok ())
  Op.modifyState SessionState.clear
  let kept ← Op.attempt Op.clearVault
  match remote with
  | .error e =>
    Op.note .warn "auth::application::logout" "Logout request failed, local session cleared anyway"
    throw e
  | .ok () =>
    Op.note .info "auth::application::logout" "Logged out"
    Op.lift kept

end Signon.Store
