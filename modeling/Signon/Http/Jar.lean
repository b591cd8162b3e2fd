import Signon.Http.Cookie
import Signon.Url.Basic

namespace Signon.Http

/-- A cookie in a jar. -/
structure JarCookie where
  name : String
  value : String
  host : String
  path : String
  secure : Bool
  deriving DecidableEq

/-- The cookies a client keeps, oldest first. -/
structure Jar where
  cookies : List JarCookie
  deriving DecidableEq

namespace Jar

def empty : Jar := ⟨[]⟩

def hostOf (u : Url) : String := (u.host.map Url.Host.render).getD ""

/-- The path a cookie without one is kept under: the request path up to its last `/`, or `/`
when that is the first. -/
def defaultPath (p : String) : String :=
  if !p.startsWith "/" then "/"
  else match p.toList.reverse.dropWhile (· ≠ '/') with
    | [] | ['/'] => "/"
    | _ :: rest => String.ofList rest.reverse

/-- Whether a cookie path covers a request path: it is the path, or a prefix of it ending at a
`/`. -/
def pathMatches (request cookie : String) : Bool :=
  request == cookie ||
    (cookie.isPrefixOf request &&
      (cookie.endsWith "/" || (request.drop cookie.length).startsWith "/"))

/-- Keeps a cookie a response to a URL set, or removes the one it names. -/
def store (j : Jar) (c : SetCookie) (u : Url) : Jar :=
  let path := match c.path with
    | some p => if p.startsWith "/" then p else defaultPath u.pathText
    | none => defaultPath u.pathText
  let host := hostOf u
  let rest := j.cookies.filter fun k => !(k.name == c.name && k.host == host && k.path == path)
  if c.maxAge.any (· ≤ 0) then ⟨rest⟩ else ⟨rest ++ [⟨c.name, c.value, host, path, c.secure⟩]⟩

/-- Keeps the cookie of a `Set-Cookie` value; a value that is no cookie changes nothing. -/
def add (j : Jar) (header : String) (u : Url) : Jar :=
  match SetCookie.parse header with
  | some c => j.store c u
  | none => j

/-- The `Cookie` value a request to a URL carries, if any cookie applies. -/
def header? (j : Jar) (u : Url) : Option String :=
  let host := hostOf u
  let hits := j.cookies.filter fun k =>
    k.host == host && pathMatches u.pathText k.path && (!k.secure || u.scheme == "https")
  if hits.isEmpty then none else some ("; ".intercalate (hits.map fun k => k.name ++ "=" ++ k.value))

end Jar

end Signon.Http
