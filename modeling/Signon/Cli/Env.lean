namespace Signon.Cli

/-- Environment variables by name. -/
abbrev Env := List (String × String)

namespace Env

def get? (e : Env) (name : String) : Option String := (e.find? (·.1 == name)).map (·.2)

def has (e : Env) (name : String) : Bool := (e.get? name).isSome

def set (e : Env) (name value : String) : Env := e.filter (·.1 != name) ++ [(name, value)]

def setIfAbsent (e : Env) (name value : String) : Env :=
  if e.has name then e else e ++ [(name, value)]

end Env

end Signon.Cli
