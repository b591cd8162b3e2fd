import Signon.Url.Parse
import Signon.Http.Fault
import Signon.Text.Blank

namespace Signon.Http

/-- The settings of the HTTP client. -/
structure ClientSettings where
  userAgent : String := "auth-client/0.1.0"
  timeoutSecs : Nat := 30
  connectTimeoutSecs : Nat := 10
  hasCookieJar : Bool := false
  deriving DecidableEq, Repr

/-- Reads a base URL: trimmed, parsed, `http` or `https` only, its path ending in `/`. -/
def parseBaseUrl (raw : String) : Except SetupError Url := do
  let u ← (Url.parse (Text.trim raw)).mapError .invalidBaseUrl
  if u.scheme != "http" && u.scheme != "https" then throw (.unsupportedScheme u.scheme)
  match u.path with
  | .segments parts =>
    if u.pathText.endsWith "/" then pure u else pure { u with path := .segments (parts ++ [""]) }
  | .plain _ => pure u

def endpointUrl (base : Url) (path : String) : Except SetupError Url :=
  (base.join (String.ofList (path.toList.dropWhile (· = '/')))).mapError .invalidBaseUrl

/-- Checks the address of a request as the client does before sending it: it must parse and
have a host. -/
def requestUrl (raw : String) : Except TransportError Url :=
  match Url.parse raw with
  | .error _ => .error (.builder none)
  | .ok u => if u.hasHost then .ok u else .error (.builder (some u.render))

def refuseStatus (code : Nat) (url : String) : Option TransportError :=
  if 400 ≤ code ∧ code < 600 then some (.status code url) else none

end Signon.Http
