import Signon.Http.Jar
import Signon.Http.Header

namespace Signon.Http

/-- The methods the client sends. -/
inductive Method where
  | get
  | post
  deriving DecidableEq, Repr

def Method.name : Method → String
  | .get => "GET"
  | .post => "POST"

/-- A request as the client sends it. -/
structure Request where
  method : Method
  url : Url
  /-- The body, when there is one. -/
  body : Option (List UInt8)
  /-- The `Authorization` value, when there is one. -/
  authorization : Option HeaderValue

/-- A response as the client receives it. Reading the body may fail, as when the connection
closes before the length the response declared. -/
structure Response where
  status : Nat
  headers : List (String × HeaderValue)
  body : Except TransportError (List UInt8)

def Response.values (r : Response) (name : String) : List HeaderValue :=
  r.headers.filterMap fun (k, v) => if k.toLower == name.toLower then some v else none

/-- What carries requests: one exchange takes a request, the cookie jar when the client keeps
one, and the state of the network, and gives the outcome with the jar and network it leaves. -/
structure Transport (ν : Type) where
  exchange : Request → Option Jar → ν → Except TransportError Response × Option Jar × ν

end Signon.Http
