import Signon.Token.Basic
import Signon.Json.Stream
import Signon.Encoding.Base64Url
import Signon.Text.Split
import Signon.Time.Instant

namespace Signon

/-- The claims of a JWT payload that the client reads. -/
structure Claims where
  /-- Whom the token was issued to. -/
  subject : Option String
  /-- When it expires, in seconds since 1970. -/
  expiry : Option Int
  /-- When it was issued, in seconds since 1970. -/
  issuedAt : Option Int
  deriving DecidableEq, Repr

namespace Claims

/-- The shape of a payload: an object with an optional string `sub` and optional 64-bit
integers `exp` and `iat`. -/
def shape : Json.Shape Unit :=
  .record "struct TokenClaims"
    [(⟨"sub", [], .optional⟩, .option .text),
     (⟨"exp", [], .optional⟩, .option .int64),
     (⟨"iat", [], .optional⟩, .option .int64)]

/-- The claims of a decoded payload. -/
def ofDatum : Json.Datum Unit → Option Claims
  | .record [s, e, i] => do
    pure ⟨← s.optional? Json.Datum.text?, ← e.optional? Json.Datum.int?,
      ← i.optional? Json.Datum.int?⟩
  | _ => none

/-- The claims of a payload's bytes, if they are a well-formed object of the claims. -/
def ofPayload (bytes : List UInt8) : Option Claims :=
  match Json.decodeBytes shape bytes with
  | .ok d => ofDatum d
  | .error _ => none

def expiresAt (c : Claims) : Option Time.Instant :=
  c.expiry.bind Time.Instant.ofSeconds?

end Claims

namespace AccessToken

/-- The claims of the token: it must have exactly three dot-separated parts, the middle one
decoding to the payload. -/
def claims (t : AccessToken) : Option Claims :=
  match Text.pieces '.' t.text.toList with
  | [_, payload, _] =>
    match Base64Url.decode (String.ofList payload) with
    | .ok bytes => Claims.ofPayload bytes
    | .error _ => none
  | _ => none

def expiresAt (t : AccessToken) : Option Time.Instant :=
  t.claims.bind Claims.expiresAt

/-- Whether the token's expiry is at or before `now`, in seconds since 1970; a token without an
expiry never is. -/
def isExpiredAt (t : AccessToken) (now : Int) : Bool :=
  match t.expiresAt with
  | some e => decide (e.seconds ≤ now)
  | none => false

end AccessToken

end Signon
