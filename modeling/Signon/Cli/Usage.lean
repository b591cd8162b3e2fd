import Signon.Cli.Param
import Signon.Cli.Similar

namespace Signon.Cli

namespace Command

def optionItems (c : Command) (ids : List String) : List String :=
  ((ids.filterMap c.param?).filter (!·.positional)).map (·.shown true) |>.eraseDups

def requiredIds (c : Command) : List String := (c.params.filter (·.required)).map (·.id)

def hasOptionalOptions (c : Command) : Bool :=
  c.options.any fun p => (p.action == .set || p.action == .count) && !p.required

/-- The usage shown in help. -/
def helpUsage (c : Command) : String :=
  let opts := c.optionItems c.requiredIds
  let pos := c.positionals.map fun p => p.shown p.required
  let items := (if c.hasOptionalOptions then ["[OPTIONS]"] else []) ++ opts ++ pos ++
    (if c.needsSubcommand then ["<COMMAND>"] else [])
  " ".intercalate (c.path :: items)

/-- The usage of an error after the parameters `used` were given. -/
def usageAfter (c : Command) (used : List String) : String :=
  if used.isEmpty then c.helpUsage
  else
    let ids := c.requiredIds ++ used
    let pos := (c.positionals.filter fun p => ids.contains p.id).map (·.shown true)
    " ".intercalate (c.path :: c.optionItems ids ++ pos ++
      (if c.needsSubcommand then ["<COMMAND>"] else []))

def usageLine (c : Command) (used : List String) : String := "Usage: " ++ c.usageAfter used

end Command

/-- An error of the command line. -/
structure Complaint where
  message : String
  /-- What kind of name was mistyped and the known names similar to it. -/
  similar : Option (String × List String) := none
  /-- Further advice, a line each. -/
  tips : List String := []
  usage : Option String := none
  /-- Whether the command answers `--help`, so that the text can point there. -/
  pointsToHelp : Bool := true
  deriving DecidableEq, Repr

namespace Complaint

def quoted (names : List String) : String := ", ".intercalate (names.map fun n => "'" ++ n ++ "'")

/-- The text of an error, as printed. -/
def render (c : Complaint) : String :=
  let similar := match c.similar with
    | some (kind, [n]) => "\n\n  tip: a similar " ++ kind ++ " exists: '" ++ n ++ "'"
    | some (kind, ns) => "\n\n  tip: some similar " ++ kind ++ "s exist: " ++ quoted ns
    | none => ""
  let tips := if c.tips.isEmpty then ""
    else (if c.similar.isSome then "" else "\n") ++ String.join (c.tips.map ("\n  tip: " ++ ·))
  let usage := match c.usage with
    | some u => "\n\n" ++ u
    | none => ""
  let close := if c.pointsToHelp then "\n\nFor more information, try '--help'.\n" else "\n"
  "error: " ++ c.message ++ similar ++ tips ++ usage ++ close

end Complaint

def choicesNote (choices : List String) : String :=
  if choices.isEmpty then "" else "\n  [possible values: " ++ ", ".intercalate choices ++ "]"

/-- A value that is not among the accepted ones; an empty one counts as missing. -/
def badValue (c : Command) (p : Param) (v : String) : Complaint :=
  { message := (if v.isEmpty then "a value is required for '" ++ p.text ++ "' but none was supplied"
      else "invalid value '" ++ v ++ "' for '" ++ p.text ++ "'") ++ choicesNote p.choices,
    similar := (closestName? v p.choices).map fun n => ("value", [n]),
    pointsToHelp := c.helpFlag }

end Signon.Cli
