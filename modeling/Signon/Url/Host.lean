import Signon.Url.Error
import Signon.Url.Percent
import Signon.Url.Idna

/-!
Hosts of URLs. The host of a special URL (`http`, `https`, `ws`, `wss`, `ftp`, `file`) is an IPv6
address in brackets, or else a domain name: percent escapes are decoded, the name is written in
ASCII, and a name whose last label is a number is read as an IPv4 address. The host of any
other URL is an IPv6 address or an opaque text that may not hold certain characters.
-/

namespace Signon.Url

/-- The host of a URL. -/
inductive Host where
  /-- A domain name, or an opaque host; empty when the URL has an empty host. -/
  | domain (name : String)
  /-- An IPv4 address, as a 32-bit number. -/
  | ipv4 (address : Nat)
  /-- An IPv6 address, as its eight pieces. -/
  | ipv6 (pieces : List Nat)
  deriving DecidableEq, Repr

/-- One IPv4 number: `none` when it is not one, `some none` when it does not fit 32 bits. -/
def ipv4Number? (s : List Char) : Option (Option Nat) :=
  if s.isEmpty then none
  else
    let (radix, digits) :=
      match s with
      | '0' :: 'x' :: rest | '0' :: 'X' :: rest => (16, rest)
      | '0' :: rest@(_ :: _) => (8, rest)
      | _ => (10, s)
    let value? (c : Char) : Option Nat :=
      match Text.hexValue? c with
      | some d => if d < radix then some d else none
      | none => none
    if digits.isEmpty then some (some 0)
    else match digits.mapM value? with
      | none => none
      | some ds =>
        let n := ds.foldl (fun acc d => acc * radix + d) 0
        if n < Nat.pow 2 32 then some (some n) else some none

/-- Whether the last label of a name, a final empty label aside, is a number. -/
def endsInNumber (name : List Char) : Bool :=
  let labels := (Text.pieces '.' name).reverse
  let last? := match labels with
    | [] :: prev :: _ => some prev
    | [] :: [] => none
    | l :: _ => some l
    | [] => none
  match last? with
  | none => false
  | some last =>
    (!last.isEmpty && last.all fun c => '0' ≤ c && c ≤ '9') || (ipv4Number? last).isSome

/-- Reads an IPv4 address from a name that ends in a number. -/
def parseIpv4 (name : List Char) : Except ParseError Nat := do
  let parts := Text.pieces '.' name
  let parts := if parts.getLast? == some [] then parts.dropLast else parts
  if parts.length > 4 then throw .invalidIpv4
  let numbers ← parts.mapM fun p =>
    match ipv4Number? p with
    | some (some n) => pure n
    | _ => throw .invalidIpv4
  match numbers.reverse with
  | [] => throw .invalidIpv4
  | last :: firstsRev =>
    let firsts := firstsRev.reverse
    if last ≥ Nat.pow 256 (4 - firsts.length) then throw .invalidIpv4
    if firsts.any (· > 255) then throw .invalidIpv4
    pure (firsts.zipIdx.foldl (fun acc (n, i) => acc + n * Nat.pow 256 (3 - i)) last)

/-- Up to four hexadecimal digits: the value, how many were read and what follows. -/
def hexPiece : Nat → Nat → List Char → Nat × Nat × List Char
  | count, v, c :: rest =>
    if count < 4 then
      match Text.hexValue? c with
      | some d => hexPiece (count + 1) (v * 16 + d) rest
      | none => (v, count, c :: rest)
    else (v, count, c :: rest)
  | count, v, [] => (v, count, [])
termination_by count _ input => 4 - count + input.length

/-- Decimal digits of one number of an embedded IPv4 address: its value, refusing a leading
zero and a value past 255. -/
def decimalPiece : Option Nat → List Char → Except ParseError (Option Nat × List Char)
  | acc, c :: rest =>
    if '0' ≤ c ∧ c ≤ '9' then
      let d := c.toNat - 48
      match acc with
      | none => decimalPiece (some d) rest
      | some 0 => throw .invalidIpv6
      | some v => if v * 10 + d > 255 then throw .invalidIpv6 else decimalPiece (some (v * 10 + d)) rest
    else pure (acc, c :: rest)
  | acc, [] => pure (acc, [])

def setPiece (pieces : List Nat) (i v : Nat) : List Nat := pieces.set i v

/-- Reads the embedded IPv4 address at the end of an IPv6 address into the pieces from `slot`. -/
def ipv4Tail : Nat → Nat → List Nat → Nat → List Char → Except ParseError (List Nat × Nat)
  | 0, _, _, _, _ => throw .invalidIpv6
  | _ + 1, seen, pieces, slot, [] =>
    if seen = 4 then pure (pieces, slot) else throw .invalidIpv6
  | fuel + 1, seen, pieces, slot, input => do
    let input ← if seen > 0 then
        match input with
        | '.' :: rest => if seen < 4 then pure rest else throw .invalidIpv6
        | _ => throw .invalidIpv6
      else pure input
    let (v?, rest) ← decimalPiece none input
    let v ← match v? with
      | some v => pure v
      | none => throw .invalidIpv6
    let pieces := setPiece pieces slot (pieces.getD slot 0 * 0x100 + v)
    let seen := seen + 1
    let slot := if seen = 2 ∨ seen = 4 then slot + 1 else slot
    ipv4Tail fuel seen pieces slot rest

/-- Reads the pieces of an IPv6 address: `slot` is the next piece, `compress` where `::` stood. -/
def ipv6Pieces : Nat → List Nat → Nat → Option Nat → List Char →
    Except ParseError (List Nat × Nat × Option Nat)
  | 0, _, _, _, _ => throw .invalidIpv6
  | _ + 1, pieces, slot, compress, [] => pure (pieces, slot, compress)
  | fuel + 1, pieces, slot, compress, input@(c :: rest) => do
    if slot = 8 then throw .invalidIpv6
    if c = ':' then
      if compress.isSome then throw .invalidIpv6
      ipv6Pieces fuel pieces (slot + 1) (some (slot + 1)) rest
    else
      let (v, count, after) := hexPiece 0 0 input
      match after with
      | '.' :: _ =>
        if count = 0 ∨ slot > 6 then throw .invalidIpv6
        let (pieces, slot) ← ipv4Tail (input.length + 1) 0 pieces slot input
        pure (pieces, slot, compress)
      | ':' :: more =>
        if more.isEmpty then throw .invalidIpv6
        ipv6Pieces fuel (setPiece pieces slot v) (slot + 1) compress more
      | [] => pure (setPiece pieces slot v, slot + 1, compress)
      | _ => throw .invalidIpv6

/-- Moves the pieces after `::` to the end of the address. -/
def expand (pieces : List Nat) (slot compress : Nat) : List Nat :=
  let before := pieces.take compress
  let after := (pieces.drop compress).take (slot - compress)
  before ++ List.replicate (8 - before.length - after.length) 0 ++ after

/-- Reads an IPv6 address, the text between the brackets. -/
def parseIpv6 (input : List Char) : Except ParseError (List Nat) := do
  if input.length < 2 then throw .invalidIpv6
  let (start, slot, compress) ← match input with
    | ':' :: ':' :: rest => pure (rest, 1, some 1)
    | ':' :: _ => throw .invalidIpv6
    | _ => pure (input, 0, none)
  let (pieces, slot, compress) ← ipv6Pieces (start.length + 1) (List.replicate 8 0) slot compress start
  match compress with
  | some c => pure (expand pieces slot c)
  | none => if slot = 8 then pure pieces else throw .invalidIpv6

def parseBracketed (s : List Char) : Except ParseError Host :=
  if s.getLast? != some ']' then throw .invalidIpv6
  else (parseIpv6 ((s.drop 1).dropLast)).map .ipv6

/-- Reads the host of a special URL. -/
def parseSpecialHost (s : List Char) : Except ParseError Host :=
  if s.head? = some '[' then parseBracketed s
  else
    match Idna.toAscii (decodeBytes (Text.Utf8.encode s)) with
    | none => throw .invalidDomainName
    | some name =>
      if name.isEmpty then throw .emptyHost
      else if endsInNumber name.toList then (parseIpv4 name.toList).map .ipv4
      else pure (.domain name)

def isForbiddenHostChar (c : Char) : Bool :=
  "\x00\t\n\r #/:<>?@[\\]^|".toList.contains c

/-- Reads the host of a URL that is not special. -/
def parseOpaqueHost (s : List Char) : Except ParseError Host :=
  if s.head? = some '[' then parseBracketed s
  else if s.any isForbiddenHostChar then throw .invalidDomainCharacter
  else pure (.domain (String.ofList (encode .controls s)))

def hexLower (n : Nat) : Char :=
  if n < 10 then Char.ofNat (48 + n) else Char.ofNat (87 + n)

/-- The lowercase hexadecimal digits of a number. -/
def hexText (n : Nat) : String :=
  if n < 16 then String.singleton (hexLower n) else hexText (n / 16) ++ String.singleton (hexLower (n % 16))
termination_by n
decreasing_by omega

/-- Where the longest run of at least two zero pieces starts and how long it is, the first such
run when two are equally long. -/
def longestZeros (pieces : List Nat) : Option (Nat × Nat) :=
  let step (acc : Option (Nat × Nat) × Option Nat × Nat) (p : Nat) :=
    let (best, start, i) := acc
    if p = 0 then
      let s := start.getD i
      let len := i + 1 - s
      let best := match best with
        | some (_, l) => if len > l then some (s, len) else best
        | none => some (s, len)
      (best, some s, i + 1)
    else (best, none, i + 1)
  match (pieces.foldl step (none, none, 0)).1 with
  | some (s, l) => if l ≥ 2 then some (s, l) else none
  | none => none

/-- An IPv6 address as a URL writes it, without brackets. -/
def ipv6Text (pieces : List Nat) : String :=
  let hex := pieces.map hexText
  match longestZeros pieces with
  | some (s, l) => ":".intercalate (hex.take s) ++ "::" ++ ":".intercalate (hex.drop (s + l))
  | none => ":".intercalate hex

/-- A host as a URL writes it. -/
def Host.render : Host → String
  | .domain name => name
  | .ipv4 a => ".".intercalate ([3, 2, 1, 0].map fun i => toString (a / Nat.pow 256 i % 256))
  | .ipv6 pieces => "[" ++ ipv6Text pieces ++ "]"

end Signon.Url
