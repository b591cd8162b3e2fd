/-!
Punycode (RFC 3492), the encoding of a Unicode label as letters, digits and hyphens. The ASCII
characters of a label come first, then a hyphen if there were any, then the other code points as
a sequence of variable-length base-36 numbers, each the distance to the next insertion.
-/

namespace Signon.Url.Punycode

def digitChar (d : Nat) : Char :=
  if d < 26 then Char.ofNat (97 + d) else Char.ofNat (22 + d)

/-- The value of a digit, letters in either case. -/
def digitValue? (c : Char) : Option Nat :=
  if 'a' ≤ c ∧ c ≤ 'z' then some (c.toNat - 97)
  else if 'A' ≤ c ∧ c ≤ 'Z' then some (c.toNat - 65)
  else if '0' ≤ c ∧ c ≤ '9' then some (c.toNat - 22)
  else none

def threshold (k bias : Nat) : Nat :=
  if k ≤ bias then 1 else if bias + 26 ≤ k then 26 else k - bias

def adaptSteps : Nat → Nat → Nat → Nat × Nat
  | 0, delta, k => (delta, k)
  | fuel + 1, delta, k => if 455 < delta then adaptSteps fuel (delta / 35) (k + 36) else (delta, k)

/-- The bias after a number, from the number, the length so far and whether it was the first. -/
def adapt (delta count : Nat) (first : Bool) : Nat :=
  let d := if first then delta / 700 else delta / 2
  let d := d + d / count
  let (d, k) := adaptSteps d d 0
  k + 36 * d / (d + 38)

/-- The digits of the number `q`, least significant first, from position `k`. -/
def numberDigits (bias : Nat) : Nat → Nat → Nat → List Char
  | 0, _, q => [digitChar (q % 36)]
  | fuel + 1, k, q =>
    let t := threshold k bias
    if q < t then [digitChar q]
    else digitChar (t + (q - t) % (36 - t)) :: numberDigits bias fuel (k + 36) ((q - t) / (36 - t))

/-- The state of encoding: digits written, the running distance, the bias and how many code
points are placed. -/
structure Encoder where
  out : List Char
  delta : Nat
  bias : Nat
  placed : Nat

/-- Passes one code point of the label while placing the code point `m`. -/
def Encoder.visit (basic m : Nat) (e : Encoder) (c : Nat) : Encoder :=
  if c < m then { e with delta := e.delta + 1 }
  else if c = m then
    { out := e.out ++ numberDigits e.bias e.delta 36 e.delta, delta := 0,
      bias := adapt e.delta (e.placed + 1) (e.placed == basic), placed := e.placed + 1 }
  else e

/-- Places the code points `ms`, in increasing order, each after the previous value `n`. -/
def encodeFrom (label : List Nat) (basic : Nat) : List Nat → Nat → Encoder → Encoder
  | [], _, e => e
  | m :: ms, n, e =>
    let e := { e with delta := e.delta + (m - n) * (e.placed + 1) }
    let e := label.foldl (Encoder.visit basic m) e
    encodeFrom label basic ms (m + 1) { e with delta := e.delta + 1 }

def insertOrdered (x : Nat) : List Nat → List Nat
  | [] => [x]
  | y :: ys => if x < y then x :: y :: ys else if x = y then y :: ys else y :: insertOrdered x ys

/-- The encoding of a label, without the `xn--` prefix. -/
def encode (label : List Char) : String :=
  let codes := label.map Char.toNat
  let basic := label.filter (·.toNat < 0x80)
  let others := (codes.filter (0x80 ≤ ·)).foldr insertOrdered []
  let e := encodeFrom codes basic.length others 0x80 ⟨[], 0, 72, basic.length⟩
  String.ofList (basic ++ (if basic.isEmpty then [] else ['-']) ++ e.out)

/-- Reads one number from position `k` with weight `w`, adding it to `i`. -/
def readNumber (bias : Nat) : List Char → Nat → Nat → Nat → Option (Nat × List Char)
  | [], _, _, _ => none
  | c :: rest, k, w, i => do
    let d ← digitValue? c
    let i := i + d * w
    if i ≥ Nat.pow 2 32 then none
    let t := threshold k bias
    if d < t then some (i, rest)
    else
      let w := w * (36 - t)
      if w ≥ Nat.pow 2 32 then none else readNumber bias rest (k + 36) w i

def isCharCode (n : Nat) : Bool := n < 0xD800 || (0xDFFF < n && n ≤ 0x10FFFF)

/-- Decodes the numbers after the basic code points: `n` is the last code point value, `i` the
insertion point and `out` the code points so far. -/
def decodeFrom : Nat → List Char → Nat → Nat → Nat → List Nat → Option (List Nat)
  | 0, _, _, _, _, _ => none
  | _ + 1, [], _, _, _, out => some out
  | fuel + 1, input, n, i, bias, out => do
    let (i', rest) ← readNumber bias input 36 1 i
    let len := out.length + 1
    let bias := adapt (i' - i) len (i == 0)
    let n := n + i' / len
    if n ≥ Nat.pow 2 32 ∨ !isCharCode n then none
    let pos := i' % len
    decodeFrom fuel rest n (pos + 1) bias (out.take pos ++ n :: out.drop pos)

/-- The code points a label encodes, without the `xn--` prefix. -/
def decode (label : List Char) : Option (List Char) := do
  let (basic, rest) := match label.reverse.findIdx? (· = '-') with
    | some j => (label.take (label.length - 1 - j), label.drop (label.length - j))
    | none => ([], label)
  if basic.any (·.toNat ≥ 0x80) then none
  let out ← decodeFrom (rest.length + 1) rest 0x80 0 72 (basic.map Char.toNat)
  pure (out.map Char.ofNat)

end Signon.Url.Punycode
