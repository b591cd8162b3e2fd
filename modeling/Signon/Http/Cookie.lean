import Signon.Http.Header
import Signon.Numeric.Integer
import Signon.Text.Split

/-!
Cookies set by a server. A `Set-Cookie` value is split at `;`: the first part is `name=value`,
the rest are attributes, whose names are matched ignoring ASCII case and of which the last one of
a name counts. Blanks around names and values are dropped, and quotes around the value. A cookie
removes the one it names when its value is empty or its lifetime is not positive.
-/

namespace Signon.Http

/-- When a browser sends a cookie with requests from other sites. -/
inductive SameSite where
  | strict
  | lax
  | none
  deriving DecidableEq, Repr

namespace SameSite

/-- The attribute value of a policy. -/
def name : SameSite → String
  | .strict => "Strict"
  | .lax => "Lax"
  | .none => "None"

/-- Reads a policy, ignoring blanks around it and ASCII case. -/
def parse (s : String) : Option SameSite :=
  match (Text.trim s).toList.map Char.toLower with
  | ['s', 't', 'r', 'i', 'c', 't'] => some .strict
  | ['l', 'a', 'x'] => some .lax
  | ['n', 'o', 'n', 'e'] => some .none
  | _ => Option.none

end SameSite

/-- A cookie as a server sets it. -/
structure SetCookie where
  name : String
  value : String
  path : Option String := none
  domain : Option String := none
  maxAge : Option Int := none
  httpOnly : Bool := false
  secure : Bool := false
  sameSite : Option SameSite := none
  deriving DecidableEq, Repr

namespace SetCookie

def trimmed (cs : List Char) : List Char := Text.dropTrailingBlanks (Text.dropBlanks cs)

def unquoted (cs : List Char) : List Char :=
  ((cs.dropWhile (· = '"')).reverse.dropWhile (· = '"')).reverse

/-- Applies one attribute, given as the text between two `;`. -/
def applyAttribute (c : SetCookie) (attr : List Char) : SetCookie :=
  let (key, val) : List Char × Option String :=
    match Text.splitFirst? '=' (trimmed attr) with
    | some (k, v) => (trimmed k, some (String.ofList (trimmed v)))
    | none => (trimmed attr, none)
  match String.ofList (key.map Char.toLower), val with
  | "path", some v => { c with path := some v }
  | "domain", some v => { c with domain := some v }
  | "max-age", some v => { c with maxAge := (Numeric.readI64 v).toOption }
  | "samesite", some v => { c with sameSite := SameSite.parse v }
  | "httponly", _ => { c with httpOnly := true }
  | "secure", _ => { c with secure := true }
  | _, _ => c

/-- Reads a `Set-Cookie` value: a first part with `=` and a name that is not blank, then the
attributes in order. -/
def parse (raw : String) : Option SetCookie :=
  match Text.pieces ';' raw.toList with
  | first :: attrs => do
    let (name, value) ← Text.splitFirst? '=' (trimmed first)
    let name := trimmed name
    if name.isEmpty then Option.none
    else
      let c : SetCookie := { name := String.ofList name, value := String.ofList (unquoted (trimmed value)) }
      some (attrs.foldl applyAttribute c)
  | [] => Option.none

def isRemoval (c : SetCookie) : Bool :=
  c.value.isEmpty || c.maxAge.any (· ≤ 0)

/-- The `Set-Cookie` value that sets the cookie. -/
def header (c : SetCookie) : String :=
  c.name ++ "=" ++ c.value ++
    (c.path.map ("; Path=" ++ ·)).getD "" ++
    (c.domain.map ("; Domain=" ++ ·)).getD "" ++
    (c.maxAge.map (fun a => "; Max-Age=" ++ toString a)).getD "" ++
    (if c.httpOnly then "; HttpOnly" else "") ++
    (if c.secure then "; Secure" else "") ++
    (c.sameSite.map (fun s => "; SameSite=" ++ s.name)).getD ""

end SetCookie

def findSetCookie (values : List HeaderValue) (name : String) : Option SetCookie :=
  ((values.filterMap HeaderValue.text?).filterMap SetCookie.parse).reverse.find? (·.name = name)

end Signon.Http
