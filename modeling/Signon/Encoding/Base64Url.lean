import Signon.Text.Utf8

/-!
Base64 with the URL-safe alphabet and no padding. Three bytes are written as four symbols of six
bits each; a final one or two bytes as two or three symbols. Reading drops trailing `=` and then
accepts only what writing produces: every symbol in the alphabet, never a lone final symbol, and
no bits set beyond the last byte. A refusal names the first fault in the order in which the
symbols are checked.
-/

namespace Signon.Base64Url

/-- The symbol for six bits. -/
def symbol (n : Nat) : UInt8 :=
  if n < 26 then (65 + n).toUInt8
  else if n < 52 then (97 + n - 26).toUInt8
  else if n < 62 then (48 + n - 52).toUInt8
  else if n = 62 then 45
  else 95

/-- The six bits of a symbol, if it is one. -/
def symbolValue? (b : UInt8) : Option Nat :=
  let n := b.toNat
  if 65 ≤ n ∧ n ≤ 90 then some (n - 65)
  else if 97 ≤ n ∧ n ≤ 122 then some (n - 97 + 26)
  else if 48 ≤ n ∧ n ≤ 57 then some (n - 48 + 52)
  else if n = 45 then some 62
  else if n = 95 then some 63
  else none

/-- The symbols for some bytes. -/
def encodeBytes : List UInt8 → List UInt8
  | [] => []
  | [a] =>
    let n := a.toNat
    [symbol (n / 4), symbol (n % 4 * 16)]
  | [a, b] =>
    let n := a.toNat * 256 + b.toNat
    [symbol (n / 1024), symbol (n / 16 % 64), symbol (n % 16 * 4)]
  | a :: b :: c :: rest =>
    let n := (a.toNat * 256 + b.toNat) * 256 + c.toNat
    symbol (n / 262144) :: symbol (n / 4096 % 64) :: symbol (n / 64 % 64) :: symbol (n % 64) ::
      encodeBytes rest

def encode (bs : List UInt8) : String :=
  String.ofList ((encodeBytes bs).map fun b => Char.ofNat b.toNat)

/-- Why a text is not base64url. -/
inductive Fault where
  /-- A byte that is not a symbol, at an offset. -/
  | invalidSymbol (offset : Nat) (b : UInt8)
  /-- A last symbol that sets bits beyond the last byte. -/
  | invalidLastSymbol (offset : Nat) (b : UInt8)
  /-- A lone final symbol, which gives no byte. -/
  | invalidLength (n : Nat)
  deriving DecidableEq, Repr

/-- How a fault reads. -/
def Fault.message : Fault → String
  | .invalidSymbol i b => "Invalid symbol " ++ toString b.toNat ++ ", offset " ++ toString i ++ "."
  | .invalidLastSymbol i b =>
    "Invalid last symbol " ++ toString b.toNat ++ ", offset " ++ toString i ++ "."
  | .invalidLength n => "Invalid input length: " ++ toString n

/-- The six-bit values of some symbols starting at `offset`, or the first byte that is none. -/
def values (offset : Nat) : List UInt8 → Except Fault (List Nat)
  | [] => .ok []
  | b :: rest =>
    match symbolValue? b with
    | some v => (values (offset + 1) rest).map (v :: ·)
    | none => .error (.invalidSymbol offset b)

/-- The bytes of the last group of at most four symbols, at `offset`: one symbol gives no byte,
and the bits beyond the last byte must be clear. -/
def lastGroup (offset : Nat) (group : List UInt8) : Except Fault (List UInt8) := do
  let vs ← values offset group
  match vs, group.getLast? with
  | [], _ => pure []
  | [_], _ => throw (.invalidLength (offset + 1))
  | [a, b], some s =>
    if b % 16 ≠ 0 then throw (.invalidLastSymbol (offset + 1) s)
    else pure [(a * 4 + b / 16).toUInt8]
  | [a, b, c], some s =>
    if c % 4 ≠ 0 then throw (.invalidLastSymbol (offset + 2) s)
    else
      let n := (a * 64 + b) * 64 + c
      pure [(n / 1024).toUInt8, (n / 4 % 256).toUInt8]
  | [a, b, c, d], _ =>
    let n := ((a * 64 + b) * 64 + c) * 64 + d
    pure [(n / 65536).toUInt8, (n / 256 % 256).toUInt8, (n % 256).toUInt8]
  | _, _ => pure []

/-- The bytes of the symbols at `offset`: groups of four, the last group, complete or not,
read by `lastGroup`. -/
def decodeGroups (offset : Nat) : List UInt8 → Except Fault (List UInt8)
  | a :: b :: c :: d :: e :: rest => do
    let vs ← values offset [a, b, c, d]
    let n := vs.foldl (fun acc v => acc * 64 + v) 0
    let tail ← decodeGroups (offset + 4) (e :: rest)
    pure ((n / 65536).toUInt8 :: (n / 256 % 256).toUInt8 :: (n % 256).toUInt8 :: tail)
  | group => lastGroup offset group

def dropPadding (bs : List UInt8) : List UInt8 :=
  (bs.reverse.dropWhile (· = 61)).reverse

/-- The bytes of some symbols. A text whose length leaves one symbol over is first checked at
that symbol. -/
def decodeSymbols (bs : List UInt8) : Except Fault (List UInt8) :=
  match bs.getLast? with
  | some b =>
    if bs.length % 4 = 1 ∧ b ≠ 61 ∧ (symbolValue? b).isNone then
      .error (.invalidSymbol (bs.length - 1) b)
    else decodeGroups 0 bs
  | none => .ok []

def decode (s : String) : Except Fault (List UInt8) :=
  decodeSymbols (dropPadding (Text.Utf8.ofString s))

end Signon.Base64Url
