namespace Signon.Text

/-- The pieces between occurrences of `sep`; a list without `sep` is one piece. -/
def pieces (sep : Char) : List Char → List (List Char)
  | [] => [[]]
  | c :: cs =>
    if c = sep then [] :: pieces sep cs
    else match pieces sep cs with
      | p :: ps => (c :: p) :: ps
      | [] => [[c]]

/-- The parts before and after the first `sep`, if there is one. -/
def splitFirst? (sep : Char) : List Char → Option (List Char × List Char)
  | [] => none
  | c :: cs =>
    if c = sep then some ([], cs)
    else (splitFirst? sep cs).map fun (a, b) => (c :: a, b)

def splitLast? (sep : Char) (cs : List Char) : Option (List Char × List Char) :=
  (splitFirst? sep cs.reverse).map fun (a, b) => (b.reverse, a.reverse)

def byteLength (cs : List Char) : Nat :=
  cs.foldl (fun n c => n + c.utf8Size) 0

end Signon.Text
