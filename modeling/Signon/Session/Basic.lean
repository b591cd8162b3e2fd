import Signon.Session.Credentials
import Signon.Account.User

namespace Signon

/-- What the client knows about its sign-in. -/
structure Session where
  credentials : Option Credentials
  user : Option User
  deriving DecidableEq

namespace Session

def anonymous : Session := ⟨none, none⟩

def signedIn (c : Credentials) (user : Option User) : Session := ⟨some c, user⟩

def isAuthenticated (s : Session) : Bool := s.credentials.isSome

/-- Whether the session's user holds a role. -/
def hasRole (s : Session) (r : Role) : Bool :=
  match s.user with
  | some u => u.hasRole r
  | none => false

def primaryRole (s : Session) : Option Role := s.user.bind User.primaryRole

def accessToken? (s : Session) : Option AccessToken := s.credentials.bind Credentials.accessToken?

def accessExpiresAt (s : Session) : Option Time.Instant := s.accessToken?.bind AccessToken.expiresAt

end Session

end Signon
