/-!
The class of a failure, named after the HTTP status that stands for it. A status maps to its class
when the class has that status; any other 4xx status is a bad request and every other status an
internal server error. The classes whose failures may pass by themselves are the transient ones.
-/

namespace Signon

/-- The class of a failure. -/
inductive ErrorClass where
  | badRequest
  | unauthorized
  | forbidden
  | notFound
  | requestTimeout
  | conflict
  | gone
  | unprocessableEntity
  | tooManyRequests
  | internalServerError
  | badGateway
  | serviceUnavailable
  | gatewayTimeout
  deriving DecidableEq, Repr

namespace ErrorClass

/-- The HTTP status of a class. -/
def status : ErrorClass → Nat
  | .badRequest => 400
  | .unauthorized => 401
  | .forbidden => 403
  | .notFound => 404
  | .requestTimeout => 408
  | .conflict => 409
  | .gone => 410
  | .unprocessableEntity => 422
  | .tooManyRequests => 429
  | .internalServerError => 500
  | .badGateway => 502
  | .serviceUnavailable => 503
  | .gatewayTimeout => 504

/-- The class of an HTTP status. -/
def ofStatus (code : Nat) : ErrorClass :=
  if code = 400 then .badRequest
  else if code = 401 then .unauthorized
  else if code = 403 then .forbidden
  else if code = 404 then .notFound
  else if code = 408 then .requestTimeout
  else if code = 409 then .conflict
  else if code = 410 then .gone
  else if code = 422 then .unprocessableEntity
  else if code = 429 then .tooManyRequests
  else if code = 502 then .badGateway
  else if code = 503 then .serviceUnavailable
  else if code = 504 then .gatewayTimeout
  else if 400 ≤ code ∧ code ≤ 499 then .badRequest
  else .internalServerError

/-- How a class reads to a person. -/
def title : ErrorClass → String
  | .badRequest => "Bad Request"
  | .unauthorized => "Unauthorized"
  | .forbidden => "Forbidden"
  | .notFound => "Not Found"
  | .requestTimeout => "Request Timeout"
  | .conflict => "Conflict"
  | .gone => "Gone"
  | .unprocessableEntity => "Unprocessable Entity"
  | .tooManyRequests => "Too Many Requests"
  | .internalServerError => "Internal Server Error"
  | .badGateway => "Bad Gateway"
  | .serviceUnavailable => "Service Unavailable"
  | .gatewayTimeout => "Gateway Timeout"

/-- The name of a class in diagnostics. -/
def name : ErrorClass → String
  | .badRequest => "BadRequest"
  | .unauthorized => "Unauthorized"
  | .forbidden => "Forbidden"
  | .notFound => "NotFound"
  | .requestTimeout => "RequestTimeout"
  | .conflict => "Conflict"
  | .gone => "Gone"
  | .unprocessableEntity => "UnprocessableEntity"
  | .tooManyRequests => "TooManyRequests"
  | .internalServerError => "InternalServerError"
  | .badGateway => "BadGateway"
  | .serviceUnavailable => "ServiceUnavailable"
  | .gatewayTimeout => "GatewayTimeout"

/-- The name of a class in JSON: upper case with underscores. -/
def wireName : ErrorClass → String
  | .badRequest => "BAD_REQUEST"
  | .unauthorized => "UNAUTHORIZED"
  | .forbidden => "FORBIDDEN"
  | .notFound => "NOT_FOUND"
  | .requestTimeout => "REQUEST_TIMEOUT"
  | .conflict => "CONFLICT"
  | .gone => "GONE"
  | .unprocessableEntity => "UNPROCESSABLE_ENTITY"
  | .tooManyRequests => "TOO_MANY_REQUESTS"
  | .internalServerError => "INTERNAL_SERVER_ERROR"
  | .badGateway => "BAD_GATEWAY"
  | .serviceUnavailable => "SERVICE_UNAVAILABLE"
  | .gatewayTimeout => "GATEWAY_TIMEOUT"

def isServerError (c : ErrorClass) : Bool := c.status ≥ 500

def isTransient : ErrorClass → Bool
  | .requestTimeout | .tooManyRequests | .badGateway | .serviceUnavailable | .gatewayTimeout => true
  | _ => false

end ErrorClass

end Signon
