import Signon.Report.Class
import Signon.Json.Error

namespace Signon

/-- A failure as a person sees it. -/
structure Report where
  cls : ErrorClass
  message : String
  action : Option String := none
  /-- The reading failure behind the report, kept for diagnostics. -/
  cause : Option Json.Error := none
  /-- Whether some other failure lies behind the report. -/
  caused : Bool := false

namespace Report

def ofStatus (code : Nat) (message : String) : Report := ⟨ErrorClass.ofStatus code, message, none, none, false⟩

def badRequest (message : String) : Report := ⟨.badRequest, message, none, none, false⟩

def unauthorized (message : String) : Report := ⟨.unauthorized, message, none, none, false⟩

def internal (message : String) : Report := ⟨.internalServerError, message, none, none, false⟩

def badGateway (message : String) : Report := ⟨.badGateway, message, none, none, false⟩

def serviceUnavailable (message : String) : Report := ⟨.serviceUnavailable, message, none, none, false⟩

def withAction (r : Report) (action : String) : Report := { r with action := some action }

def status (r : Report) : Nat := r.cls.status

/-- How the report reads: `[class] message`, then the action in parentheses. -/
def display (r : Report) : String :=
  "[" ++ r.cls.title ++ "] " ++ r.message ++
    match r.action with
    | some a => " (Action: " ++ a ++ ")"
    | none => ""

/-- The report as a diagnostic record, its cause included. -/
def debug (r : Report) : String :=
  "AppError \x7b kind: " ++ r.cls.name ++ ", message: " ++ Text.quoteText r.message ++
    (match r.action with
     | some a => ", action: " ++ Text.quoteText a
     | none => "") ++
    (match r.cause with
     | some e => ", source: " ++ e.debug
     | none => "") ++ " \x7d"

def hasSource (r : Report) : Bool := r.cause.isSome || r.caused

def ofJson (e : Json.Error) : Report :=
  if e.isIo then { internal "JSON serialization error" with cause := some e }
  else { badGateway ("Unexpected JSON payload: " ++ e.message) with cause := some e }

end Report

end Signon
