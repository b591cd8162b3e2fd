import Signon.Text.Utf8

namespace Signon.Url

/-- The sets of characters that parts of a URL escape. -/
inductive EncodeSet where
  /-- Controls, delete and non-ASCII: an opaque path and an opaque host. -/
  | controls
  /-- A fragment: also space, `"`, `<`, `>` and the backquote. -/
  | fragment
  /-- The query of a URL that is not special: also space, `"`, `#`, `<` and `>`. -/
  | query
  /-- The query of a special URL: also the apostrophe. -/
  | specialQuery
  /-- A path: the query set and `?`, the backquote, `{` and `}`. -/
  | path
  /-- User name and password: the path set and `/ : ; = @ [ \ ] ^ |`. -/
  | userinfo
  deriving DecidableEq

/-- The printable ASCII characters a set holds. -/
def EncodeSet.printable : EncodeSet → List Char
  | .controls => []
  | .fragment => " \"<>`".toList
  | .query => " \"#<>".toList
  | .specialQuery => " \"#<>'".toList
  | .path => " \"#<>?`\x7b\x7d".toList
  | .userinfo => " \"#<>?`\x7b\x7d/:;=@[\\]^|".toList

def EncodeSet.holds (set : EncodeSet) (c : Char) : Bool :=
  c.toNat < 0x20 || c.toNat = 0x7F || set.printable.contains c

def hexUpper (n : Nat) : Char :=
  if n < 10 then Char.ofNat (48 + n) else Char.ofNat (55 + n)

def escapeByte (b : UInt8) : List Char :=
  ['%', hexUpper (b.toNat / 16), hexUpper (b.toNat % 16)]

def encodeChar (set : EncodeSet) (c : Char) : List Char :=
  if c.toNat < 0x80 && !set.holds c then [c] else (Text.Utf8.encodeChar c).flatMap escapeByte

def encode (set : EncodeSet) (cs : List Char) : List Char := cs.flatMap (encodeChar set)

/-- The value of a hexadecimal digit byte. -/
def hexByteValue? (b : UInt8) : Option Nat :=
  if 48 ≤ b.toNat ∧ b.toNat ≤ 57 then some (b.toNat - 48)
  else if 65 ≤ b.toNat ∧ b.toNat ≤ 70 then some (b.toNat - 55)
  else if 97 ≤ b.toNat ∧ b.toNat ≤ 102 then some (b.toNat - 87)
  else none

/-- Bytes with every `%` that two hexadecimal digits follow replaced by the byte they write. -/
def decodeBytes : List UInt8 → List UInt8
  | 37 :: h :: l :: rest =>
    match hexByteValue? h, hexByteValue? l with
    | some a, some b => UInt8.ofNat (16 * a + b) :: decodeBytes rest
    | _, _ => 37 :: decodeBytes (h :: l :: rest)
  | b :: rest => b :: decodeBytes rest
  | [] => []

end Signon.Url
