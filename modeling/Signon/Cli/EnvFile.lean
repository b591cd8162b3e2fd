import Signon.Cli.Env
import Signon.Text.Utf8
import Signon.Text.Blank
import Signon.Text.Letters

/-!
Variables from a `.env` file: `KEY=value` lines, optionally after `export`, with comments, quotes
and `$NAME` substitution. A variable already set keeps its value.
-/

namespace Signon.Cli.EnvFile

/-- Where the reading of a line stands. -/
inductive Mark where
  | complete
  | escape
  | strong
  | weak
  | weakEscape
  | blank
  | comment
  deriving DecidableEq, Repr

/-- The mark after one more character. -/
def Mark.next : Mark → Char → Mark
  | .blank, c => if c == '\\' then .escape else if c == '"' then .weak else if c == '\'' then .strong
    else .complete
  | .escape, _ => .complete
  | .complete, c =>
    if Text.isBlank c && c != '\n' && c != '\r' then .blank
    else if c == '\\' then .escape else if c == '"' then .weak else if c == '\'' then .strong
    else .complete
  | .weak, c => if c == '\\' then .weakEscape else if c == '"' then .complete else .weak
  | .weakEscape, _ => .weak
  | .strong, c => if c == '\'' then .complete else .strong
  | .comment, _ => .comment

/-- The mark after a line, and where a comment after a blank starts. -/
def settle : Mark → List Char → Nat → Mark × Nat
  | m, [], n => (m, n)
  | .blank, '#' :: _, n => (.comment, n)
  | m, c :: cs, n => settle (m.next c) cs (n + 1)

def dropBreak (cs : List Char) : List Char :=
  let cs := if cs.getLast? == some '\n' then cs.dropLast else cs
  if cs.getLast? == some '\r' then cs.dropLast else cs

/-- The raw lines of a file, each with its line break. -/
def rawLines (bytes : List UInt8) : List (List UInt8) :=
  let (done, cur) := bytes.foldl (fun (done, cur) b =>
    if b == 10 then (done ++ [cur ++ [b]], []) else (done, cur ++ [b])) ([], [])
  if cur.isEmpty then done else done ++ [cur]

/-- The logical lines of a file, as far as they can be read: a line that is not UTF-8 or a quote
open at the end stops the reading. A comment line reads as an empty line. -/
def logicalLines : List Char → Mark → List (List UInt8) → List (List Char)
  | _, _, [] => []
  | buf, mark, l :: ls =>
    match Text.Utf8.decode? l with
    | none => []
    | some cs =>
      let whole := buf ++ cs
      if (Text.dropBlanks whole).head? == some '#' then [] :: logicalLines [] .complete ls
      else
        match settle mark cs 0 with
        | (.complete, _) => dropBreak whole :: logicalLines [] .complete ls
        | (.comment, k) => (buf ++ cs.take k) :: logicalLines [] .complete ls
        | (m, _) => logicalLines whole m ls

def isKeyChar (c : Char) : Bool := (c.isAlphanum && c.toNat < 128) || c == '_' || c == '.'

/-- The key at the start of a line, and the rest. -/
def key? (cs : List Char) : Option (String × List Char) :=
  match cs with
  | c :: _ =>
    if (c.isAlpha && c.toNat < 128) || c == '_' then
      some (String.ofList (cs.takeWhile isKeyChar), cs.dropWhile isKeyChar)
    else none
  | [] => none

/-- How a substitution is being read. -/
inductive Subst where
  | off
  | name
  | braced
  deriving DecidableEq, Repr

/-- The state of reading a value. -/
structure ValueState where
  out : String := ""
  strong : Bool := false
  weak : Bool := false
  escaped : Bool := false
  ending : Bool := false
  subst : Subst := .off
  name : String := ""
  /-- Whether a comment cut the value short. -/
  cut : Bool := false

/-- The value of a name: the variable's, else the one the file gave it, else nothing. -/
def lookup (env : Env) (known : List (String × Option String)) (name : String) : String :=
  match env.get? name with
  | some v => v
  | none => ((known.find? (·.1 == name)).bind (·.2)).getD ""

/-- Reads one more character of a value. -/
def valueStep (env : Env) (known : List (String × Option String)) (st : ValueState) (c : Char) :
    Option ValueState :=
  let subst (st : ValueState) : ValueState := { st with out := st.out ++ lookup env known st.name, name := "" }
  if st.cut then some st
  else if st.ending then
    if c == ' ' || c == '\t' then some st else if c == '#' then some { st with cut := true } else none
  else if st.escaped then
    if c == '\\' || c == '\'' || c == '"' || c == '$' || c == ' ' then
      some { st with out := st.out.push c, escaped := false }
    else if c == 'n' then some { st with out := st.out.push '\n', escaped := false }
    else none
  else if st.strong then
    if c == '\'' then some { st with strong := false } else some { st with out := st.out.push c }
  else if st.subst != .off then
    if Text.isAlphanumeric c then some { st with name := st.name.push c }
    else if st.subst == .name then
      if c == '{' && st.name.isEmpty then some { st with subst := .braced }
      else
        let st := subst st
        if c == '$' then some { st with subst := .name }
        else some { st with subst := .off, out := st.out.push c }
    else if c == '}' then some { subst st with subst := .off }
    else some { st with name := st.name.push c }
  else if c == '$' then some { st with subst := .name }
  else if st.weak then
    if c == '"' then some { st with weak := false }
    else if c == '\\' then some { st with escaped := true }
    else some { st with out := st.out.push c }
  else if c == '\'' then some { st with strong := true }
  else if c == '"' then some { st with weak := true }
  else if c == '\\' then some { st with escaped := true }
  else if c == ' ' || c == '\t' then some { st with ending := true }
  else some { st with out := st.out.push c }

/-- Reads a value; quotes or a brace left open fail. -/
def value? (env : Env) (known : List (String × Option String)) (cs : List Char) : Option String := do
  let st ← cs.foldlM (valueStep env known) {}
  if st.subst == .braced || st.strong || st.weak then none
  else pure (st.out ++ lookup env known st.name)

def afterEquals? : List Char → Option (List Char)
  | '=' :: rest => some rest
  | _ => none

/-- Reads a logical line: nothing for a blank or comment line, else the key, its value, and what
the file gives the key for later substitutions. -/
def entry? (env : Env) (known : List (String × Option String)) (line : List Char) :
    Option (Option (String × String × Option String)) := do
  let cs := Text.dropBlanks (Text.dropTrailingBlanks line)
  if cs.isEmpty || cs.head? == some '#' then return none
  let (k, rest) ← key? cs
  let rest := Text.dropBlanks rest
  let (k, rest) ← if k == "export" then
      match afterEquals? rest with
      | some r => pure (k, r)
      | none => do
        let (k, r) ← key? rest
        pure (k, ← afterEquals? (Text.dropBlanks r))
    else pure (k, ← afterEquals? rest)
  let rest := Text.dropBlanks rest
  if rest.isEmpty || rest.head? == some '#' then return some (k, "", none)
  let v ← value? env known rest
  return some (k, v, some v)

/-- Applies the lines of a file to an environment, stopping at the first it cannot read. -/
def applyLines (lines : List (List Char)) (env : Env) : Env :=
  let step (acc : Env × List (String × Option String) × Bool) (line : List Char) :=
    let (env, known, stopped) := acc
    if stopped then acc
    else match entry? env known line with
      | none => (env, known, true)
      | some none => (env, known, false)
      | some (some (k, v, kept)) =>
        (env.setIfAbsent k v, (known.filter (·.1 != k)) ++ [(k, kept)], false)
  (lines.foldl step (env, [], false)).1

/-- Applies a `.env` file to an environment; variables already set keep their values. -/
def apply (bytes : List UInt8) (env : Env) : Env :=
  let bytes := match bytes with
    | 0xEF :: 0xBB :: 0xBF :: rest => rest
    | _ => bytes
  applyLines (logicalLines [] .complete (rawLines bytes)) env

end Signon.Cli.EnvFile
