import Signon.Session.Basic

namespace Signon

/-- A path without its query and fragment and without trailing slashes; the root stays `/`. -/
def normalizePath (path : String) : String :=
  let cs := path.toList.takeWhile fun c => c ≠ '?' ∧ c ≠ '#'
  match (cs.reverse.dropWhile (· = '/')).reverse with
  | [] => "/"
  | trimmed => String.ofList trimmed

/-- Whether a path is the prefix or below it: `/admin` covers `/admin/users` but not
`/administrator`; `/` covers everything. -/
def pathHasPrefix (path pre : String) : Bool :=
  if pre = "/" then true
  else match path.toList.splitAt pre.length with
    | (head, rest) => head == pre.toList && (rest.isEmpty || rest.head? == some '/')

/-- Views that need one of a set of roles. -/
structure RoleRule where
  /-- The normalized prefix of the covered paths. -/
  pre : String
  allowed : RoleSet
  deriving DecidableEq

def RoleRule.make (pre : String) (allowed : List Role) : RoleRule :=
  ⟨normalizePath pre, RoleSet.ofList allowed⟩

/-- The settings of the guard. -/
structure GuardConfig where
  publicRoutes : List String := ["/auth/login", "/auth/register", "/auth/forgot-password", "/auth/verify-email"]
  loginPath : String := "/auth/login"
  homePath : String := "/dashboard"
  unauthorizedPath : String := "/unauthorized"
  roleRules : List RoleRule := [RoleRule.make "/admin" [.admin], RoleRule.make "/employee" [.employee, .admin]]

/-- Why a view was refused. -/
inductive RedirectReason where
  | unauthenticated
  | alreadyAuthenticated
  | forbidden
  deriving DecidableEq, Repr

/-- How a reason reads. -/
def RedirectReason.text : RedirectReason → String
  | .unauthenticated => "unauthenticated"
  | .alreadyAuthenticated => "already authenticated"
  | .forbidden => "forbidden"

/-- What the guard decides. -/
inductive GuardDecision where
  | allow
  | redirect (target : String) (reason : RedirectReason)
  deriving DecidableEq, Repr

def GuardDecision.isAllowed : GuardDecision → Bool
  | .allow => true
  | .redirect .. => false

namespace GuardConfig

def isPublic (c : GuardConfig) (path : String) : Bool :=
  let p := normalizePath path
  c.publicRoutes.any fun r => normalizePath r == p

def isForbidden (c : GuardConfig) (path : String) (s : Session) : Bool :=
  c.roleRules.any fun r => pathHasPrefix path r.pre && !(r.allowed.toList.any s.hasRole)

/-- Decides whether a view may be shown in a session. -/
def check (c : GuardConfig) (path : String) (s : Session) : GuardDecision :=
  let p := normalizePath path
  let isPub := c.isPublic p
  if !s.isAuthenticated then
    if isPub then .allow else .redirect c.loginPath .unauthenticated
  else if isPub then .redirect c.homePath .alreadyAuthenticated
  else if p == normalizePath c.unauthorizedPath then .allow
  else if c.isForbidden p s then .redirect c.unauthorizedPath .forbidden
  else .allow

end GuardConfig

end Signon
