import Signon.Report.Basic
import Signon.Password.Rejection
import Signon.Http.Fault

/-!
Why an operation of the client failed, and how each failure is reported. The class of a failure
follows its cause: bad input and refused passwords are bad requests, a missing or expired session
is unauthorized, a server's refusal keeps the class of its status, a transport failure is a
gateway timeout, a bad gateway (when the body did not decode) or an unavailable service. The
report adds an action: log in again for session failures, check the address for transport
failures, try again later for anything transient.
-/

namespace Signon

/-- Why an operation of the client failed. -/
inductive Failure where
  /-- Input refused before any request. -/
  | invalidInput (message : String)
  /-- A password refused by the policy or its confirmation. -/
  | passwordRejected (r : Password.Rejection)
  /-- The operation needs a session and there is none. -/
  | notAuthenticated
  /-- Refreshing the session failed and it was cleared. -/
  | sessionExpired
  /-- The server refused the request with a status and a message. -/
  | api (status : Nat) (message : String)
  /-- The server answered with something the client cannot use. -/
  | unexpectedResponse (message : String)
  /-- The request could not be carried. -/
  | transport (e : Http.TransportError)
  /-- The client or the request could not be set up. -/
  | setup (e : Http.SetupError)
  /-- The stored session could not be read or written. -/
  | storage (message : String)
  /-- The settings are invalid. -/
  | config (message : String)
  /-- Anything else. -/
  | internal (message : String)
  deriving DecidableEq, Repr

/-- The report of a transport failure: a refused status keeps the class of the status; a timeout
is a gateway timeout; a failed connection an unavailable service with advice; a body that did not
decode a bad gateway; an unbuildable request an internal failure. -/
def Http.TransportError.report : Http.TransportError → Report
  | .status code _ => { Report.ofStatus code ("Server responded with " ++ Http.statusText code) with caused := true }
  | .timeout _ => { cls := .gatewayTimeout, message := "API server did not respond in time", caused := true }
  | .connect _ =>
    { Report.serviceUnavailable "Could not connect to the API server" with
      action := some "Check the API base URL and your network connection", caused := true }
  | .decode => { Report.badGateway "Could not decode the API response" with caused := true }
  | .builder _ => { Report.internal "Could not build the HTTP request" with caused := true }
  | .broken _ => { Report.serviceUnavailable "HTTP request failed" with caused := true }

namespace Failure

/-- How a failure reads. -/
def message : Failure → String
  | .invalidInput m => "Invalid input: " ++ m
  | .passwordRejected r => "Password validation failed: " ++ r.message
  | .notAuthenticated => "Not authenticated"
  | .sessionExpired => "Session expired"
  | .api status m => "API error (" ++ toString status ++ "): " ++ m
  | .unexpectedResponse m => "Unexpected response: " ++ m
  | .transport e => "HTTP error: " ++ e.message
  | .setup e => "HTTP client error: " ++ e.message
  | .storage m => "Storage error: " ++ m
  | .config m => "Configuration error: " ++ m
  | .internal m => "Internal error: " ++ m

/-- The class of a failure. -/
def cls : Failure → ErrorClass
  | .invalidInput _ | .passwordRejected _ | .config _ => .badRequest
  | .notAuthenticated | .sessionExpired => .unauthorized
  | .api status _ => ErrorClass.ofStatus status
  | .unexpectedResponse _ => .badGateway
  | .transport e => if e.isTimeout then .gatewayTimeout else if e.isDecode then .badGateway
    else .serviceUnavailable
  | .setup _ | .storage _ | .internal _ => .internalServerError

def isUnauthorized : Failure → Bool
  | .api 401 _ => true
  | _ => false

/-- The name of a failure's cause. -/
def name : Failure → String
  | .invalidInput _ => "InvalidInput"
  | .passwordRejected _ => "PasswordValidation"
  | .notAuthenticated => "NotAuthenticated"
  | .sessionExpired => "SessionExpired"
  | .api .. => "Api"
  | .unexpectedResponse _ => "UnexpectedResponse"
  | .transport _ => "Http"
  | .setup _ => "Client"
  | .storage _ => "Storage"
  | .config _ => "Config"
  | .internal _ => "Internal"

/-- The report of a failure as the client shows it: its class and message, with advice. -/
def report (f : Failure) : Report :=
  let r : Report := { cls := f.cls, message := f.message }
  match f with
  | .notAuthenticated | .sessionExpired => r.withAction "Please log in again"
  | .transport _ => r.withAction "Check the API base URL and your network connection"
  | _ => if f.cls.isTransient then r.withAction "Try again in a moment" else r

def toReport : Failure → Report
  | .transport e => e.report
  | f => f.report

/-- The failure a report becomes: bad requests and unprocessable entities are bad input, a bad
gateway an unexpected response, anything else an internal failure quoting the whole report. -/
def ofReport (r : Report) : Failure :=
  match r.cls with
  | .badRequest | .unprocessableEntity => .invalidInput r.message
  | .badGateway => .unexpectedResponse r.message
  | _ => .internal r.display

/-- Whether a failure is worth logging above the debug level, and at which level: 2 for errors,
1 for warnings, 0 for debug notes. -/
def logLevel (f : Failure) : Nat :=
  match f with
  | .storage _ | .internal _ => 2
  | .transport _ | .sessionExpired => 1
  | .api .. => if f.cls.isServerError then 2 else 0
  | _ => 0

end Failure

end Signon
