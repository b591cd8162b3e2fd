import Signon.Url.Host

namespace Signon.Url

/-- The path of a URL. -/
inductive Path where
  /-- Text that is not cut into segments. -/
  | plain (text : String)
  /-- Segments, each written after a `/`. -/
  | segments (parts : List String)
  deriving DecidableEq, Repr

def Path.render : Path → String
  | .plain t => t
  | .segments parts => String.join (parts.map ("/" ++ ·))

end Signon.Url

namespace Signon

/-- A parsed URL. -/
structure Url where
  scheme : String
  username : String
  password : String
  host : Option Url.Host
  port : Option Nat
  path : Url.Path
  query : Option String
  fragment : Option String
  deriving DecidableEq, Repr

end Signon

namespace Signon.Url

def specialSchemes : List (String × Option Nat) :=
  [("ftp", some 21), ("file", none), ("http", some 80), ("https", some 443), ("ws", some 80),
   ("wss", some 443)]

def isSpecialScheme (scheme : String) : Bool := specialSchemes.any (·.1 == scheme)

/-- The default port of a scheme. -/
def defaultPort (scheme : String) : Option Nat :=
  match specialSchemes.find? (·.1 == scheme) with
  | some (_, p) => p
  | none => none

def isSpecial (u : Url) : Bool := isSpecialScheme u.scheme

def userinfoText (u : Url) : String :=
  if u.username.isEmpty && u.password.isEmpty then ""
  else u.username ++ (if u.password.isEmpty then "" else ":" ++ u.password) ++ "@"

/-- The authority as written after `//`: user name and password, host and port. -/
def authorityText (u : Url) : String :=
  match u.host with
  | some h =>
    "//" ++ u.userinfoText ++ h.render ++
      match u.port with
      | some p => ":" ++ toString p
      | none => ""
  | none => ""

def pathText (u : Url) : String := u.path.render

/-- The URL as written. -/
def render (u : Url) : String :=
  u.scheme ++ ":" ++ u.authorityText ++ u.pathText ++
    (match u.query with
     | some q => "?" ++ q
     | none => "") ++
    match u.fragment with
    | some f => "#" ++ f
    | none => ""

/-- Whether the URL has a host that is not empty. -/
def hasHost (u : Url) : Bool :=
  match u.host with
  | some (.domain "") | none => false
  | some _ => true

end Signon.Url
