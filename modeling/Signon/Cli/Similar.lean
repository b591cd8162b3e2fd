namespace Signon.Cli

/-- Marks, for each character of `xs` in turn, the first unmarked equal character of `ys` within
`range` places; the marks on both sides. -/
def jaroMarks (xs ys : List Char) (range : Nat) : List Bool × List Bool :=
  let step (acc : List Bool × List Bool × Nat) (c : Char) : List Bool × List Bool × Nat :=
    let (am, bm, i) := acc
    let lo := i - range
    let hi := min ys.length (i + range + 1)
    let hit := (List.range ys.length).find? fun j =>
      lo ≤ j && j < hi && ys.getD j ' ' == c && !bm.getD j true
    match hit with
    | some j => (am ++ [true], bm.set j true, i + 1)
    | none => (am ++ [false], bm, i + 1)
  let (am, bm, _) := xs.foldl step ([], ys.map fun _ => false, 0)
  (am, bm)

def marked (cs : List Char) (marks : List Bool) : List Char :=
  (cs.zip marks).filterMap fun (c, m) => if m then some c else none

/-- The Jaro similarity of two texts, from 0 for nothing shared to 1 for equal texts. -/
def jaro (a b : String) : Float :=
  let xs := a.toList
  let ys := b.toList
  if xs.isEmpty && ys.isEmpty then 1.0
  else if xs.isEmpty || ys.isEmpty then 0.0
  else
    let range := max xs.length ys.length / 2 - 1
    let (am, bm) := jaroMarks xs ys range
    let ma := marked xs am
    let mb := marked ys bm
    let m := ma.length
    let t := ((ma.zip mb).filter fun (c, d) => c != d).length / 2
    if m = 0 then 0.0
    else (m.toFloat / xs.length.toFloat + m.toFloat / ys.length.toFloat +
      (m - t).toFloat / m.toFloat) / 3.0

def insertByScore (x : Float × String) : List (Float × String) → List (Float × String)
  | [] => [x]
  | y :: ys => if x.1 < y.1 then x :: y :: ys else y :: insertByScore x ys

/-- The names similar enough to `v`, from the least to the most similar; names equally similar
keep their order. -/
def similarNames (v : String) (names : List String) : List String :=
  let scored := names.filterMap fun n =>
    let s := jaro v n
    if 0.7 < s then some (s, n) else none
  (scored.foldl (fun acc x => insertByScore x acc) []).map (·.2)

def closestName? (v : String) (names : List String) : Option String :=
  (similarNames v names).getLast?

end Signon.Cli
