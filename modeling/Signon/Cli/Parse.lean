import Signon.Cli.Help
import Signon.Text.Split

/-!
Matching a command line against a program.
-/

namespace Signon.Cli

/-- Where a matched parameter got its value, from the weakest. -/
inductive Source where
  | default
  | environment
  | commandLine
  deriving DecidableEq, Repr

/-- The strength of a source. -/
def Source.rank : Source → Nat
  | .default => 0
  | .environment => 1
  | .commandLine => 2

/-- A parameter as matched. -/
structure Match where
  id : String
  source : Source
  values : List String := []
  /-- How often a counted flag was given. -/
  count : Nat := 0
  deriving DecidableEq, Repr

/-- What ends a reading early: help or the version for standard output, or a text for standard
error with a usage failure. -/
inductive Halt where
  | help (text : String)
  | version (text : String)
  | usage (text : String)
  deriving DecidableEq, Repr

/-- The command being read and the subcommands a word may start. -/
structure Scope where
  cmd : Command
  subs : List Command
  env : Env
  version : String

/-- The state of reading a command's words. -/
structure Scan where
  found : List Match := []
  /-- The parameter whose values are being gathered, and the values so far. -/
  pending : Option (String × List String) := none
  /-- The option waiting for its value. -/
  awaiting : Option String := none
  /-- How many positionals were filled. -/
  filled : Nat := 0
  /-- Whether `--` was passed. -/
  trailing : Bool := false
  deriving DecidableEq, Repr

namespace Scan

def has (st : Scan) (id : String) : Bool := st.found.any (·.id == id)

def given (st : Scan) : List String := (st.found.filter (·.source != .default)).map (·.id)

end Scan

def position? (w : String) : List String → Option Nat
  | [] => none
  | x :: xs => if x == w then some 0 else (position? w xs).map (· + 1)

namespace Scope

def fail {α : Type} (sc : Scope) (c : Complaint) : Except Halt α :=
  .error (.usage { c with pointsToHelp := sc.cmd.helpFlag }.render)

/-- Takes a parameter in with its values. -/
def take (sc : Scope) (p : Param) (source : Source) (vals : List String) (longName : Bool)
    (st : Scan) : Except Halt Scan :=
  match p.action with
  | .help => .error (.help (helpText sc.cmd sc.subs sc.env longName))
  | .version => .error (.version (sc.cmd.path ++ " " ++ sc.version ++ "\n"))
  | .count =>
    let n := ((st.found.find? (·.id == p.id)).map (·.count)).getD 0
    .ok { st with found := st.found.filter (·.id != p.id) ++ [{ id := p.id, source, count := min 255 (n + 1) }] }
  | .set =>
    if source == .commandLine && vals.isEmpty then sc.fail (badValue sc.cmd p "")
    else if st.has p.id then
      sc.fail { message := "the argument '" ++ p.text ++ "' cannot be used multiple times",
                usage := some (sc.cmd.usageLine []) }
    else match vals.find? fun v => !p.choices.isEmpty && !p.choices.contains v with
      | some v => sc.fail (badValue sc.cmd p v)
      | none => .ok { st with found := st.found ++ [{ id := p.id, source, values := vals }] }

/-- Takes in the parameter whose values were being gathered. -/
def settle (sc : Scope) (st : Scan) : Except Halt Scan :=
  match st.pending with
  | none => .ok st
  | some (id, vals) =>
    let st := { st with pending := none }
    match sc.cmd.param? id with
    | some p => sc.take p .commandLine vals false st
    | none => .ok st

def react (sc : Scope) (p : Param) (source : Source) (vals : List String) (longName : Bool)
    (st : Scan) : Except Halt Scan := do
  sc.take p source vals longName (← sc.settle st)

/-- Settles what was pending before reporting a failure, which it cannot change; what it fails at
is dropped. -/
def settleQuietly (sc : Scope) (st : Scan) : Scan :=
  match sc.settle st with
  | .ok st => st
  | .error _ => { st with pending := none }

/-- The tip for a word that looks like a flag but may be meant as a positional value. -/
def valueTip (sc : Scope) (st : Scan) (word : String) : List String :=
  if !st.trailing && !sc.cmd.positionals.isEmpty then
    ["to pass '" ++ word ++ "' as a value, use '-- " ++ word ++ "'"]
  else []

/-- A long name that names no option: the most similar long name of this command is suggested,
else one of a subcommand named later on the line. -/
def unknownLong (sc : Scope) (name : String) (rest : List String) (st : Scan) : Complaint :=
  match closestName? name sc.cmd.longNames with
  | some n =>
    let extra := match sc.cmd.byLong? n with
      | some p => if st.has p.id then [] else [p.id]
      | none => []
    { message := "unexpected argument '--" ++ name ++ "' found", similar := some ("argument", ["--" ++ n]),
      usage := some (sc.cmd.usageLine (st.given ++ extra)) }
  | none =>
    let elsewhere := sc.subs.filterMap fun c =>
      match closestName? name c.longNames, position? c.name rest with
      | some n, some i => some (i, "'" ++ c.name ++ " --" ++ n ++ "' exists")
      | _, _ => none
    let best := elsewhere.foldl (fun acc x =>
      match acc with
      | some a => if x.1 < a.1 then some x else some a
      | none => some x) none
    { message := "unexpected argument '--" ++ name ++ "' found",
      tips := match best with
        | some (_, tip) => [tip]
        | none => sc.valueTip st ("--" ++ name),
      usage := some (sc.cmd.usageLine st.given) }

/-- A positional word with no place: a mistyped subcommand, a word where a subcommand must stand,
or one word too many. -/
def unplaced (sc : Scope) (word : String) (st : Scan) : Complaint :=
  let usage := some (sc.cmd.usageLine [])
  if st.trailing && sc.subs.any (·.name == word) then
    { message := "unexpected argument '--' found",
      tips := ["subcommand '" ++ word ++ "' exists; to use it, remove the '--' before it"], usage }
  else
    let looksLikeFlag := word.startsWith "-" && word != "-" && word != "--"
    let tip := if !st.trailing && !sc.cmd.positionals.isEmpty && looksLikeFlag then
        ["to pass '" ++ word ++ "' as a value, use '" ++ sc.cmd.path ++ " -- " ++ word ++ "'"]
      else []
    let candidates := similarNames word (sc.subs.map (·.name))
    if !sc.subs.isEmpty && !candidates.isEmpty then
      { message := "unrecognized subcommand '" ++ word ++ "'", similar := some ("subcommand", candidates),
        tips := tip, usage }
    else if !sc.subs.isEmpty && sc.cmd.positionals.isEmpty then
      { message := "unrecognized subcommand '" ++ word ++ "'", usage }
    else
      { message := "unexpected argument '" ++ word ++ "' found",
        tips := if looksLikeFlag then sc.valueTip st word else [], usage }

/-- Reads a positional word. -/
def positional (sc : Scope) (word : String) (st : Scan) : Except Halt Scan :=
  match sc.cmd.positionals[st.filled]? with
  | some p => do
    let st ← match st.pending with
      | some (id, _) => if id == p.id then pure st else sc.settle st
      | none => pure st
    let before := match st.pending with
      | some (_, vals) => vals
      | none => []
    pure { st with
      pending := some (p.id, before ++ [word]), awaiting := none,
      filled := if p.variadic then st.filled else st.filled + 1 }
  | none => sc.fail (sc.unplaced word (sc.settleQuietly st))

def await (sc : Scope) (p : Param) (st : Scan) : Except Halt Scan := do
  let st ← sc.settle st
  pure { st with pending := some (p.id, []), awaiting := some p.id }

/-- Reads `--name` or `--name=value`. -/
def longFlag (sc : Scope) (body : List Char) (rest : List String) (st : Scan) : Except Halt Scan :=
  let (name, attached) := match Text.splitFirst? '=' body with
    | some (n, v) => (String.ofList n, some (String.ofList v))
    | none => (String.ofList body, none)
  match sc.cmd.byLong? name with
  | some p =>
    if p.takesValue then
      match attached with
      | some v => do
        let st ← sc.react p .commandLine [v] true st
        pure { st with awaiting := none }
      | none => sc.await p st
    else
      match attached with
      | some v =>
        let used := st.given ++ [p.id]
        sc.fail { message := "unexpected value '" ++ v ++ "' for '" ++ p.text ++ "' found; no more were expected",
                  usage := some (sc.cmd.usageLine used) }
      | none => do
        let st ← sc.react p .commandLine [] true st
        pure { st with awaiting := none }
  | none => sc.fail (sc.unknownLong name rest (sc.settleQuietly st))

/-- Reads a run of short names. -/
def shortFlags (sc : Scope) : List Char → Scan → Except Halt Scan
  | [], st => .ok st
  | c :: more, st =>
    match sc.cmd.byShort? c with
    | some p =>
      if !p.takesValue then do
        let st ← sc.react p .commandLine [] false st
        shortFlags sc more { st with awaiting := none }
      else if more.isEmpty then sc.await p st
      else do
        let v := String.ofList (if more.head? == some '=' then more.drop 1 else more)
        let st ← sc.react p .commandLine [v] false st
        pure { st with awaiting := none }
    | none =>
      let st := sc.settleQuietly st
      let word := "-" ++ c.toString
      sc.fail { message := "unexpected argument '" ++ word ++ "' found", tips := sc.valueTip st word,
                usage := some (sc.cmd.usageLine []) }

end Scope

/-- What a word leads to: the next state, a subcommand to read the rest with, or help on the
subcommands named by the rest. -/
inductive Step where
  | next (st : Scan)
  | enter (c : Command)
  | explain

namespace Scope

/-- Reads one word. -/
def step (sc : Scope) (word : String) (rest : List String) (st : Scan) : Except Halt Step :=
  if st.trailing then Step.next <$> sc.positional word st
  else match sc.subs.find? (·.name == word) with
    | some c => .ok (if c.name == "help" then .explain else .enter c)
    | none =>
      let cs := word.toList
      if word == "--" then .ok (.next { st with trailing := true })
      else if cs.take 2 == ['-', '-'] then Step.next <$> sc.longFlag (cs.drop 2) rest st
      else if cs.head? == some '-' && cs.length > 1 then Step.next <$> sc.shortFlags (cs.drop 1) st
      else match st.awaiting with
        | some id =>
          let vals := match st.pending with
            | some (_, vals) => vals
            | none => []
          .ok (.next { st with pending := some (id, vals ++ [word]), awaiting := none })
        | none => Step.next <$> sc.positional word st

/-- Reads words until they run out or a subcommand starts. -/
def scan (sc : Scope) : List String → Scan → Except Halt (Scan × Option (Step × List String))
  | [], st => .ok (st, none)
  | word :: rest, st => do
    match ← sc.step word rest st with
    | .next st => sc.scan rest st
    | s => pure (st, some (s, rest))

/-- Lets variables supply the parameters the line left out, in the order of the parameters. -/
def fromEnv (sc : Scope) (st : Scan) : Except Halt Scan :=
  sc.cmd.params.foldlM (fun st p =>
    match p.env.bind sc.env.get? with
    | some v => if st.has p.id then pure st else sc.react p .environment [v] false st
    | none => pure st) st

/-- Gives counted flags left out the count zero. -/
def withDefaults (sc : Scope) (st : Scan) : Scan :=
  sc.cmd.params.foldl (fun st p =>
    if p.action == .count && !st.has p.id then
      { st with found := st.found ++ [{ id := p.id, source := .default }] }
    else st) st

/-- Fails when a required parameter is missing, listing the missing ones. -/
def checkRequired (sc : Scope) (st : Scan) : Except Halt Unit :=
  let missing := sc.cmd.requiredIds.filter fun id => !st.given.contains id
  if missing.isEmpty then .ok ()
  else
    let ids := (sc.cmd.requiredIds ++ missing).filter fun id => !st.given.contains id
    let pos := (sc.cmd.positionals.filter fun p => ids.contains p.id).map (·.shown true)
    let items := sc.cmd.optionItems ids ++ pos
    sc.fail
      { message := "the following required arguments were not provided:" ++
          String.join (items.map ("\n  " ++ ·)),
        usage := some (sc.cmd.usageLine (st.given ++ missing)) }

/-- Finishes reading a command: settles what is pending, lets variables supply the rest and
gives counted flags their default. -/
def finish (sc : Scope) (st : Scan) : Except Halt Scan := do
  let st ← sc.settle st
  let st ← sc.fromEnv st
  pure (sc.withDefaults st)

end Scope

/-- The help asked for by `help` and the subcommand names after it. -/
def explain (root : Command) (subs : List Command) (env : Env) : List String → Halt
  | [] => .help (helpText root subs env true)
  | n :: more =>
    match subs.find? (·.name == n) with
    | some c =>
      match more with
      | [] => .help (helpText c [] env true)
      | m :: _ =>
        .usage { message := "unrecognized subcommand '" ++ m ++ "'", usage := some (c.usageLine []),
                 pointsToHelp := c.helpFlag : Complaint }.render
    | none =>
      .usage { message := "unrecognized subcommand '" ++ n ++ "'", usage := some (root.usageLine []),
               pointsToHelp := root.helpFlag : Complaint }.render

/-- A command line as matched: the program's parameters and the subcommand's. -/
structure Matches where
  root : List Match
  command : Command
  sub : List Match
  deriving DecidableEq, Repr

def valueOf? (ms : List Match) (id : String) : Option String :=
  (ms.find? (·.id == id)).bind (·.values.head?)

def countOf (ms : List Match) (id : String) : Nat :=
  ((ms.find? (·.id == id)).map (·.count)).getD 0

def putMatch (ms : List Match) (m : Match) : List Match :=
  if ms.any (·.id == m.id) then ms.map fun x => if x.id == m.id then m else x else ms ++ [m]

/-- Shares the values of global parameters between the program and the subcommand: the stronger
source wins, the subcommand on a tie. -/
def shareGlobals (globals : List String) (root sub : List Match) : List Match × List Match :=
  globals.foldl (fun (r, s) id =>
    let chosen := match r.find? (·.id == id), s.find? (·.id == id) with
      | some a, some b => some (if a.source.rank > b.source.rank then a else b)
      | some a, none => some a
      | none, some b => some b
      | none, none => none
    match chosen with
    | some m => (putMatch r m, putMatch s m)
    | none => (r, s)) (root, sub)

/-- Matches the words of a command line, the program name left out, against a program. -/
def Program.read (prog : Program) (env : Env) (words : List String) : Except Halt Matches := do
  let top : Scope := ⟨prog.root, prog.commands, env, prog.version⟩
  let (st, next) ← top.scan words {}
  let sub ← match next with
    | some (.explain, rest) => throw (explain prog.root prog.commands env rest)
    | some (.enter c, rest) => do
      let inner : Scope := ⟨c, [], env, prog.version⟩
      let (st, _) ← inner.scan rest {}
      let st ← inner.finish st
      inner.checkRequired st
      pure (some (c, st))
    | _ => pure none
  let st ← top.finish st
  match sub with
  | none =>
    if prog.root.helpWhenBare && st.given.isEmpty then
      throw (.usage (helpText prog.root prog.commands env false))
    top.fail
      { message := "'" ++ prog.root.path ++ "' requires a subcommand but one was not provided" ++
          "\n  [subcommands: " ++ ", ".intercalate prog.names ++ "]",
        usage := some (prog.root.usageLine []) }
  | some (c, subSt) =>
    top.checkRequired st
    let globals := (prog.root.params.filter (·.global)).map (·.id)
    let (r, s) := shareGlobals globals st.found subSt.found
    pure ⟨r, c, s⟩

end Signon.Cli
