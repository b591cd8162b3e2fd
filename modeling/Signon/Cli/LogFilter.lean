import Signon.Client.Journal
import Signon.Text.Letters

/-!
Which diagnostic records a run shows: a filter of comma-separated directives, each a level, a
module path, or `path=level`. A path alone admits every level under it; `off` or `0` admits none.
A record is judged by the directive with the longest path that starts its module's name, a
directive without a path coming last; a later directive for the same path replaces an earlier
one. A record no directive covers is not shown.
-/

namespace Signon.Cli

/-- A directive: the module path it covers, or every module, and the highest rank it admits. -/
structure Directive where
  target : Option String
  upTo : Nat
  /-- Whether it only applies inside spans. -/
  inSpans : Bool := false
  deriving DecidableEq, Repr

/-- The rank a level name stands for: `off` 0 up to `trace` 5, by name in any case or by digit. -/
def levelRank? (s : String) : Option Nat :=
  match s.toLower with
  | "off" | "0" => some 0
  | "error" | "1" => some 1
  | "warn" | "2" => some 2
  | "info" | "3" => some 3
  | "debug" | "4" => some 4
  | "trace" | "5" => some 5
  | _ => none

def isPathChar (c : Char) : Bool := Text.isAlphanumeric c || c == '_' || c == ':' || c == '-'

/-- How far the reading of a directive got. -/
inductive Reading where
  | start
  | path (cs : List Char)
  | span (cs : List Char)
  | level (cs : List Char)
  | broken
  deriving DecidableEq, Repr

/-- The parts read so far, a span part marked, and the reading. -/
abbrev Parts := List (Bool × List Char) × Reading

/-- Reads one more character of a directive. -/
def readChar : Parts → Char → Parts
  | (ps, .start), c =>
    if isPathChar c then (ps, .path [c])
    else if c == '[' then (ps, .span [])
    else if c == '=' && !ps.isEmpty then (ps, .level [])
    else (ps, .broken)
  | (ps, .path cs), c =>
    if isPathChar c then (ps, .path (cs ++ [c]))
    else if c == '[' then (ps ++ [(false, cs)], .span [])
    else if c == '=' then (ps ++ [(false, cs)], .level [])
    else (ps, .broken)
  | (ps, .span cs), c => if c == ']' then (ps ++ [(true, cs)], .start) else (ps, .span (cs ++ [c]))
  | (ps, .level cs), c => (ps, .level (cs ++ [c]))
  | (ps, .broken), _ => (ps, .broken)

/-- Reads a directive. -/
def Directive.read? (s : String) : Option Directive :=
  match levelRank? s with
  | some r => some ⟨none, r, false⟩
  | none =>
    let (ps, end_) := s.toList.foldl readChar ([], .start)
    let finished : Option (List (Bool × List Char) × Option String) := match end_ with
      | .start => some (ps, none)
      | .path cs => some (ps ++ [(false, cs)], none)
      | .level cs => some (ps, some (String.ofList cs))
      | _ => none
    match finished with
    | none => none
    | some (parts, level) =>
      if parts.isEmpty || parts.length > 2 then none
      else
        let rank? := match level with
          | none | some "" => some 5
          | some l => levelRank? l
        rank?.map fun rank =>
          let target := (parts.find? (!·.1)).map (String.ofList ·.2) |>.filter fun t => (levelRank? t).isNone
          ⟨target, rank, parts.any fun (isSpan, cs) => isSpan && !cs.isEmpty⟩

/-- A filter: its directives in the order given. -/
abbrev LogFilter := List Directive

def LogFilter.read? (s : String) : Option LogFilter :=
  ((s.splitOn ",").filter (!·.isEmpty)).mapM Directive.read?

def LogFilter.ofVerbosity (n : Nat) : LogFilter :=
  let rank := if n = 0 then 3 else if n = 1 then 4 else 5
  ["authctl", "auth", "platform"].map fun t => ⟨some t, rank, false⟩

/-- Whether a directive covers a record's module. -/
def Directive.covers (d : Directive) (r : Record) : Bool :=
  match d.target with
  | some t => t.isPrefixOf r.target
  | none => true

/-- How specific a directive is: the length of its path, one more than none. -/
def Directive.weight (d : Directive) : Nat :=
  match d.target with
  | some t => t.length + 1
  | none => 0

/-- Whether a filter shows a record: the most specific directive covering it decides. -/
def LogFilter.admits (f : LogFilter) (r : Record) : Bool :=
  let best := (f.filter fun d => !d.inSpans && d.covers r).foldl (fun acc d =>
    match acc with
    | some b => if d.weight ≥ b.weight then some d else some b
    | none => some d) none
  match best with
  | some d => r.level.rank ≤ d.upTo
  | none => false

end Signon.Cli
