import Signon.Text.Utf8

/-!
The shape of a command line: commands, each with parameters named by long and short flags or
given by position, and a program of one root command with subcommands under it.
-/

namespace Signon.Cli

/-- What a parameter does each time it is given. -/
inductive Action where
  /-- Takes one value; a second occurrence is an error. -/
  | set
  /-- Counts its occurrences. -/
  | count
  /-- Prints help and stops. -/
  | help
  /-- Prints the version and stops. -/
  | version
  deriving DecidableEq, Repr

/-- A parameter of a command. -/
structure Param where
  id : String
  long : Option String := none
  short : Option Char := none
  help : String := ""
  /-- The help shown by `--help`, when it differs. -/
  longHelp : Option String := none
  /-- The environment variable that supplies a value the command line does not. -/
  env : Option String := none
  /-- Whether help hides the value of the variable. -/
  hideEnvValue : Bool := false
  required : Bool := false
  action : Action := .set
  /-- The values accepted, when only some are. -/
  choices : List String := []
  /-- Whether it is given by position rather than by a flag. -/
  positional : Bool := false
  /-- For a positional: whether it takes any number of values, none included. -/
  variadic : Bool := false
  /-- The name of the value in help, the id unless given. -/
  valueName : Option String := none
  /-- Where it sorts in help: parameters of lower order first. -/
  order : Nat := 999
  /-- Whether subcommands take it too, its value shared with the command above. -/
  global : Bool := false
  deriving DecidableEq, Repr

namespace Param

def takesValue (p : Param) : Bool := p.positional || p.action == .set

def value (p : Param) : String := p.valueName.getD p.id

def positionalText (p : Param) (required : Bool) : String :=
  let name := if p.variadic || !required then "[" ++ p.value ++ "]" else "<" ++ p.value ++ ">"
  if p.variadic then name ++ "..." else name

/-- What follows the flag: the value of an option, `...` for a counted flag. -/
def suffix (p : Param) (required : Bool) : String :=
  if p.positional then p.positionalText required
  else match p.action with
    | .set => " <" ++ p.value ++ ">"
    | .count => "..."
    | _ => ""

/-- The flag a parameter is named by: its long name, else its short one. -/
def flag (p : Param) : String :=
  match p.long, p.short with
  | some l, _ => "--" ++ l
  | none, some s => "-" ++ s.toString
  | none, none => ""

def shown (p : Param) (required : Bool) : String := p.flag ++ p.suffix required

def text (p : Param) : String := p.shown p.required

/-- The key options sort by within one display order: a short name, lower case first, before
long names. -/
def sortKey (p : Param) : String :=
  match p.short, p.long with
  | some c, _ => c.toLower.toString ++ (if c.isLower then "0" else "1")
  | none, some l => l
  | none, none => "\x7b" ++ p.id

def hasLongHelp (p : Param) : Bool := p.longHelp.isSome

end Param

/-- A command with its parameters, the generated help flag among them. -/
structure Command where
  name : String
  /-- The program and subcommand names the command is invoked by, as usage shows them. -/
  path : String
  about : String
  params : List Param
  /-- Whether it answers `-h` and `--help`. -/
  helpFlag : Bool := true
  /-- Whether its subcommand must be given. -/
  needsSubcommand : Bool := false
  /-- Whether it answers with help on standard error when given nothing at all. -/
  helpWhenBare : Bool := false
  deriving DecidableEq, Repr

namespace Command

def positionals (c : Command) : List Param := c.params.filter (·.positional)

def options (c : Command) : List Param := c.params.filter (!·.positional)

def param? (c : Command) (id : String) : Option Param := c.params.find? (·.id == id)

def byLong? (c : Command) (name : String) : Option Param :=
  c.options.find? (·.long == some name)

def byShort? (c : Command) (ch : Char) : Option Param :=
  c.options.find? (·.short == some ch)

def longNames (c : Command) : List String := c.options.filterMap (·.long)

def hasLongHelp (c : Command) : Bool := c.params.any Param.hasLongHelp

end Command

/-- A program: a root command and the subcommands under it, the generated `help` last. -/
structure Program where
  root : Command
  version : String
  commands : List Command
  deriving DecidableEq, Repr

namespace Program

def command? (p : Program) (name : String) : Option Command :=
  p.commands.find? (·.name == name)

def names (p : Program) : List String := p.commands.map (·.name)

end Program

/-- The generated help flag; when `--help` shows more than `-h`, each says so. -/
def helpParam (long : Bool) : Param :=
  if long then
    { id := "help", long := some "help", short := some 'h', action := .help,
      help := "Print help (see more with '--help')", longHelp := some "Print help (see a summary with '-h')" }
  else { id := "help", long := some "help", short := some 'h', action := .help, help := "Print help" }

def versionParam : Param :=
  { id := "version", long := some "version", short := some 'V', action := .version, help := "Print version" }

/-- A subcommand with its own parameters, the global ones of its program and a help flag. -/
def subcommand (program name about : String) (own globals : List Param) : Command :=
  let params := own ++ globals
  { name, path := program ++ " " ++ name, about,
    params := params ++ [helpParam (params.any Param.hasLongHelp)] }

def commandsParam : Param :=
  { id := "subcommand", positional := true, variadic := true, valueName := some "COMMAND",
    help := "Print help for the subcommand(s)" }

/-- The generated `help` subcommand, which names the subcommand to explain. -/
def helpCommand (program : String) : Command :=
  { name := "help", path := program ++ " help",
    about := "Print this message or the help of the given subcommand(s)",
    params := [commandsParam],
    helpFlag := false }

end Signon.Cli
