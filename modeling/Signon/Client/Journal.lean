import Signon.Failure

namespace Signon

/-- How serious a record is, from the most serious. -/
inductive Level where
  | error
  | warn
  | info
  | debug
  | trace
  deriving DecidableEq, Repr

/-- The rank of a level: 1 for errors up to 5 for traces, so that a filter admitting a rank
admits every lower one. -/
def Level.rank : Level → Nat
  | .error => 1
  | .warn => 2
  | .info => 3
  | .debug => 4
  | .trace => 5

/-- A diagnostic record. -/
structure Record where
  level : Level
  /-- The module the record is filed under. -/
  target : String
  message : String
  deriving DecidableEq, Repr

/-- The record a failure leaves when it is reported: failures of storage and internal ones as
errors, as are refusals by a failing server; transport failures and expired sessions as
warnings; everything else, the caller's own mistakes, for debugging only. -/
def Failure.record (f : Failure) : Record :=
  let filed (level : Level) (message : String) : Record := ⟨level, "auth::error", message⟩
  match f with
  | .storage _ => filed .error "Token storage error"
  | .internal _ => filed .error "Auth internal error"
  | .transport _ => filed .warn "Auth request failed"
  | .api .. => if f.cls.isServerError then filed .error "API server error" else filed .debug "Auth error"
  | .sessionExpired => filed .warn "Session expired, local credentials cleared"
  | _ => filed .debug "Auth error"

end Signon
