import Signon.Token.Claims
import Signon.Text.Escape

namespace Signon

/-- The proof of a session that the client holds. -/
inductive Credentials where
  /-- An access token sent with each request, and perhaps a token to renew it. -/
  | bearer (access : AccessToken) (refresh : Option RefreshToken)
  /-- The session cookie the server set: its name and value. -/
  | cookie (name value : String)
  deriving DecidableEq

namespace Credentials

def accessToken? : Credentials → Option AccessToken
  | .bearer access _ => some access
  | .cookie .. => none

def refreshToken? : Credentials → Option RefreshToken
  | .bearer _ refresh => refresh
  | .cookie .. => none

def canRefresh : Credentials → Bool
  | .bearer _ refresh => refresh.isSome
  | .cookie .. => true

/-- The credentials after a refresh that returned `fresh`: a bearer result without a refresh
token keeps the current one, any other result replaces the credentials. -/
def mergeRefreshed (current fresh : Credentials) : Credentials :=
  match current, fresh with
  | .bearer _ kept, .bearer access none => .bearer access kept
  | _, fresh => fresh

/-- The credentials in diagnostics, secrets hidden. -/
def debug : Credentials → String
  | .bearer access refresh =>
    "Bearer \x7b access: " ++ access.debug ++ ", refresh: " ++
      (match refresh with
       | some r => "Some(" ++ r.debug ++ ")"
       | none => "None") ++ " \x7d"
  | .cookie name _ => "Cookie \x7b name: " ++ Text.quoteText name ++ ", value: \"[REDACTED]\" \x7d"

end Credentials

end Signon
