import Signon.Cli.Usage
import Signon.Cli.Env
import Signon.Text.Blank

/-!
Help texts. A help text is the command's description, its usage, and sections listing the
subcommands, the positionals and the options, each entry with its help and notes on the variable
that supplies it and the values it accepts.
-/

namespace Signon.Cli

def width (s : String) : Nat := s.utf8ByteSize

def spaces (n : Nat) : String := String.ofList (List.replicate n ' ')

def indentLines (n : Nat) (s : String) : String := ("\n" ++ spaces n).intercalate (s.splitOn "\n")

namespace Param

/-- The notes of an entry: the variable that supplies it, with its value unless hidden, and the
values it accepts. Long help puts each on a line of its own. -/
def notes (p : Param) (env : Env) (long : Bool) : String :=
  let envNote := match p.env with
    | some name =>
      ["[env: " ++ name ++ (if p.hideEnvValue then "" else "=" ++ (env.get? name).getD "") ++ "]"]
    | none => []
  let choiceNote := if p.choices.isEmpty then [] else ["[possible values: " ++ ", ".intercalate p.choices ++ "]"]
  (if long then "\n" else " ").intercalate (envNote ++ choiceNote)

def entryWidth (p : Param) : Nat := width p.text + (if p.positional then 0 else 4)

def widens (p : Param) : Bool := p.takesValue || p.long.isSome || p.short.isNone

def about (p : Param) (long : Bool) : String :=
  if long then p.longHelp.getD p.help
  else if p.help.isEmpty then p.longHelp.getD "" else p.help

/-- The flags of an entry: a short name or room for one, then the long name. -/
def head (p : Param) : String :=
  let short := match p.short with
    | some c => "-" ++ c.toString
    | none => if p.long.isSome then "    " else ""
  let long := match p.long with
    | some l => (if p.short.isSome then ", " else "") ++ "--" ++ l
    | none => ""
  short ++ long ++ p.suffix p.required

end Param

def columnWidth (ps : List Param) : Nat :=
  (ps.filter Param.widens).foldl (fun m p => max m p.entryWidth) 2

/-- Whether a section of entries uses the layout with help under each entry. -/
def helpBelow (env : Env) (long : Bool) (ps : List Param) (column : Nat) : Bool :=
  long || ps.any fun p =>
    let taken := column + 4
    taken ≤ 100 && 40 < taken && 100 - taken < width p.help + width (p.notes env false)

/-- One entry of a section. -/
def entry (env : Env) (long below : Bool) (column : Nat) (p : Param) : String :=
  let pad := if below then 0
    else if p.positional then column + 2 - width p.text
    else column + (if p.long.isSome then 2 else 6) - (width p.text + 4)
  let about := p.about long
  let notes := p.notes env long
  let body := if notes.isEmpty then about else if about.isEmpty then notes
    else about ++ (if long then "\n\n" else " ") ++ notes
  let lead := if below then "\n" ++ spaces 10 else ""
  "  " ++ p.head ++ spaces pad ++ lead ++ indentLines (if below then 10 else column + 4) body

/-- A section of entries, in the given order. -/
def entries (env : Env) (long : Bool) (ps : List Param) : String :=
  let column := columnWidth ps
  let below := helpBelow env long ps column
  (if below && long then "\n\n" else "\n").intercalate (ps.map (entry env long below column))

/-- Inserts an option after every option that sorts no later. -/
def insertOption (p : Param) : List Param → List Param
  | [] => [p]
  | q :: qs =>
    if p.order < q.order || (p.order = q.order && p.sortKey < q.sortKey) then p :: q :: qs
    else q :: insertOption p qs

def sortOptions (ps : List Param) : List Param := ps.foldl (fun acc p => insertOption p acc) []

def commandList (cs : List Command) : String :=
  let column := cs.foldl (fun m c => max m (width c.name)) 2
  "\n".intercalate (cs.map fun c => "  " ++ c.name ++ spaces (column + 2 - width c.name) ++ c.about)

/-- The help text of a command with subcommands `subs`; `long` asks for long help, which a
command without long texts answers with short help. -/
def helpText (c : Command) (subs : List Command) (env : Env) (long : Bool) : String :=
  let long := long && c.hasLongHelp
  let sections :=
    (if subs.isEmpty then [] else ["Commands:\n" ++ commandList subs]) ++
    (if c.positionals.isEmpty then [] else ["Arguments:\n" ++ entries env long c.positionals]) ++
    (if c.options.isEmpty then [] else ["Options:\n" ++ entries env long (sortOptions c.options)])
  Text.trimEnd (c.about ++ "\n\nUsage: " ++ c.helpUsage ++ "\n\n" ++ "\n\n".intercalate sections) ++ "\n"

end Signon.Cli
