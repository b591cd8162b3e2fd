namespace Signon.Text

/-- Value of a hexadecimal digit. -/
def hexValue? (c : Char) : Option Nat :=
  if '0' ≤ c ∧ c ≤ '9' then some (c.toNat - '0'.toNat)
  else if 'A' ≤ c ∧ c ≤ 'F' then some (c.toNat - 'A'.toNat + 10)
  else if 'a' ≤ c ∧ c ≤ 'f' then some (c.toNat - 'a'.toNat + 10)
  else none

/-- The number written in hexadecimal by the digits of `cs`, ignoring anything else. -/
def readHex (cs : List Char) : Nat :=
  cs.foldl (fun n c => match hexValue? c with
    | some d => 16 * n + d
    | none => n) 0

def readHexList (s : String) : List Nat :=
  ((s.splitOn " ").filter (· ≠ "")).map (fun w => readHex w.toList)

/-- One decoded entry: the first and last key and the payload. -/
structure Entry where
  lo : Nat
  hi : Nat
  payload : List Nat

/-- Decodes one entry of a table. A key `a b` is stored as `a * 0x110000 + b`. -/
def Entry.decode (s : String) : Entry :=
  let (key, payload) := match s.splitOn ":" with
    | [k, p] => (k, readHexList p)
    | _ => (s, [])
  match key.splitOn "-" with
  | [a, b] => ⟨readHex a.toList, readHex b.toList, payload⟩
  | _ => match readHexList key with
    | [a, b] => ⟨a * 0x110000 + b, a * 0x110000 + b, payload⟩
    | [a] => ⟨a, a, payload⟩
    | _ => ⟨0, 0, payload⟩

def decodeTable (s : String) : Array Entry :=
  ((s.splitOn ",").filter (· ≠ "")).toArray.map Entry.decode

/-- Binary search for the entry whose key range holds `k`, among entries `lo` to `hi - 1`. -/
def findEntry (t : Array Entry) (k : Nat) (lo hi : Nat) : Option Entry :=
  if lo < hi then
    let mid := (lo + hi) / 2
    match t[mid]? with
    | none => none
    | some e =>
      if k < e.lo then findEntry t k lo mid
      else if e.hi < k then findEntry t k (mid + 1) hi
      else some e
  else none
termination_by hi - lo

def lookup (t : Array Entry) (k : Nat) : Option Entry :=
  findEntry t k 0 t.size

def member (t : Array Entry) (k : Nat) : Bool :=
  (lookup t k).isSome

end Signon.Text
