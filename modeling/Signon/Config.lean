import Signon.Failure
import Signon.Text.Blank
import Signon.Numeric.Integer

/-!
Settings of the client: the API's base address, how the session is carried (a bearer token, or a
session cookie of a given name), timeouts, where the session is stored, and the paths of the
endpoints. Settings start from defaults and may be overridden by named variables; a variable
that is blank counts as unset.
-/

namespace Signon

/-- How the session is carried to the server. -/
inductive SessionMode where
  /-- An access token in the authorization header. -/
  | bearer
  /-- A session cookie. -/
  | cookie
  deriving DecidableEq, Repr

namespace SessionMode

def name : SessionMode → String
  | .bearer => "bearer"
  | .cookie => "cookie"

/-- Reads a mode, ignoring blanks around it and ASCII case; `token` and `session` name the two
modes too. -/
def parse (s : String) : Except Failure SessionMode :=
  let m := String.ofList ((Text.trim s).toList.map Char.toLower)
  if m = "bearer" ∨ m = "token" then .ok .bearer
  else if m = "cookie" ∨ m = "session" then .ok .cookie
  else .error (.config ("Unknown session mode '" ++ m ++ "', expected 'bearer' or 'cookie'"))

end SessionMode

/-- The paths of the API's endpoints, relative to its base address. -/
structure Endpoints where
  login : String := "/auth/login"
  register : String := "/auth/register"
  verifyEmail : String := "/auth/verify-email"
  resendVerification : String := "/auth/resend-verification"
  logout : String := "/auth/logout"
  refresh : String := "/auth/refresh-token"
  forgotPassword : String := "/auth/forgot-password"
  resetPassword : String := "/auth/reset-password"
  changePassword : String := "/auth/change-password"
  profile : String := "/user/profile"
  deriving DecidableEq, Repr

/-- The endpoints of the API. -/
inductive Endpoint where
  | login
  | register
  | verifyEmail
  | resendVerification
  | logout
  | refresh
  | forgotPassword
  | resetPassword
  | changePassword
  | profile
  deriving DecidableEq, Repr

namespace Endpoint

def all : List Endpoint :=
  [.login, .register, .verifyEmail, .resendVerification, .logout, .refresh, .forgotPassword,
    .resetPassword, .changePassword, .profile]

/-- The name of an endpoint among the settings. -/
def name : Endpoint → String
  | .login => "login"
  | .register => "register"
  | .verifyEmail => "verify_email"
  | .resendVerification => "resend_verification"
  | .logout => "logout"
  | .refresh => "refresh"
  | .forgotPassword => "forgot_password"
  | .resetPassword => "reset_password"
  | .changePassword => "change_password"
  | .profile => "profile"

end Endpoint

namespace Endpoints

/-- The path of an endpoint. -/
def get (e : Endpoints) : Endpoint → String
  | .login => e.login
  | .register => e.register
  | .verifyEmail => e.verifyEmail
  | .resendVerification => e.resendVerification
  | .logout => e.logout
  | .refresh => e.refresh
  | .forgotPassword => e.forgotPassword
  | .resetPassword => e.resetPassword
  | .changePassword => e.changePassword
  | .profile => e.profile

/-- The paths with the path of one endpoint replaced. -/
def set (e : Endpoints) (k : Endpoint) (path : String) : Endpoints :=
  match k with
  | .login => { e with login := path }
  | .register => { e with register := path }
  | .verifyEmail => { e with verifyEmail := path }
  | .resendVerification => { e with resendVerification := path }
  | .logout => { e with logout := path }
  | .refresh => { e with refresh := path }
  | .forgotPassword => { e with forgotPassword := path }
  | .resetPassword => { e with resetPassword := path }
  | .changePassword => { e with changePassword := path }
  | .profile => { e with profile := path }

end Endpoints

/-- Settings of the client. Timeouts are in seconds. -/
structure Config where
  apiBaseUrl : String := "http://localhost:8080/api/v1"
  sessionMode : SessionMode := .bearer
  sessionCookieName : String := "JSESSIONID"
  requestTimeout : Nat := 30
  connectTimeout : Nat := 10
  userAgent : Option String := none
  storagePath : Option String := none
  endpoints : Endpoints := {}
  deriving DecidableEq, Repr

namespace Config

def development : Config := { requestTimeout := 10, connectTimeout := 3 }

def withBaseUrl (url : String) : Config := { apiBaseUrl := url }

def isCookieMode (c : Config) : Bool := c.sessionMode = .cookie

/-- Settings from named variables, applied in a fixed order: base address, mode, cookie name,
timeout, storage path. -/
def ofLookup (lookup : String → Option String) : Except Failure Config := do
  let get (key : String) : Option String := (lookup key).filter fun v => !Text.isBlankText v
  let c : Config := {}
  let c := match get "AUTH_API_BASE" with
    | some base => { c with apiBaseUrl := Text.trim base }
    | none => c
  let c ← match get "AUTH_SESSION_MODE" with
    | some m => do pure { c with sessionMode := ← SessionMode.parse m }
    | none => pure c
  let c := match get "AUTH_COOKIE_NAME" with
    | some n => { c with sessionCookieName := Text.trim n }
    | none => c
  let c ← match get "AUTH_TIMEOUT_SECS" with
    | some secs =>
      match Numeric.readU64 (Text.trim secs) with
      | .error _ => throw (.config ("AUTH_TIMEOUT_SECS must be a number, got '" ++ secs ++ "'"))
      | .ok 0 => throw (.config "AUTH_TIMEOUT_SECS must be greater than zero")
      | .ok n => pure { c with requestTimeout := n.toNat }
    | none => pure c
  let c := match get "AUTH_STORAGE_PATH" with
    | some p => { c with storagePath := some p }
    | none => c
  pure c

end Config

end Signon
