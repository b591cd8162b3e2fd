import Signon.Url.Error
import Signon.Http.Status

namespace Signon.Http

/-- A failure to set up a client or a request. -/
inductive SetupError where
  | invalidBaseUrl (e : Url.ParseError)
  | unsupportedScheme (scheme : String)
  | invalidHeader
  | build
  deriving DecidableEq, Repr

/-- How a setup failure reads. -/
def SetupError.message : SetupError → String
  | .invalidBaseUrl e => "Invalid base URL: " ++ e.message
  | .unsupportedScheme s => "Unsupported URL scheme: " ++ s
  | .invalidHeader => "Invalid header value: failed to parse header value"
  | .build => "Failed to build HTTP client: builder error"

/-- The name of a setup failure. -/
def SetupError.name : SetupError → String
  | .invalidBaseUrl _ => "InvalidBaseUrl"
  | .unsupportedScheme _ => "UnsupportedScheme"
  | .invalidHeader => "InvalidHeader"
  | .build => "Build"

/-- A failure to carry a request. `url` is the address the request went to. -/
inductive TransportError where
  /-- A status the caller refused. -/
  | status (code : Nat) (url : String)
  /-- No answer in time. -/
  | timeout (url : String)
  /-- No connection could be made. -/
  | connect (url : String)
  /-- The connection broke before an answer. -/
  | broken (url : String)
  /-- The body could not be decoded. -/
  | decode
  /-- The request could not be built; `url` is the address when it parsed but cannot be
  requested. -/
  | builder (url : Option String)
  deriving DecidableEq, Repr

namespace TransportError

/-- How a transport failure reads. -/
def message : TransportError → String
  | .status code url =>
    "HTTP status " ++ (if isClientError code then "client" else "server") ++ " error (" ++
      statusText code ++ ") for url (" ++ url ++ ")"
  | .timeout url | .connect url | .broken url => "error sending request for url (" ++ url ++ ")"
  | .decode => "error decoding response body"
  | .builder url =>
    "builder error" ++
      match url with
      | some u => " for url (" ++ u ++ ")"
      | none => ""

def status? : TransportError → Option Nat
  | .status code _ => some code
  | _ => none

def isTimeout : TransportError → Bool
  | .timeout _ => true
  | _ => false

def isDecode : TransportError → Bool
  | .decode => true
  | _ => false

end TransportError

end Signon.Http
