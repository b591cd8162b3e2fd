import Signon.Url.Punycode
import Signon.Text.Utf8
import Signon.Text.Lowercase
import Signon.Text.Normalize
import Signon.Text.Split

namespace Signon.Url.Idna

/-- Characters that vanish from a domain name: the soft hyphen, the grapheme joiner, Mongolian
variation selectors, the zero-width space, the word joiner, variation selectors and the byte
order mark. -/
def isIgnored (n : Nat) : Bool :=
  n = 0xAD || n = 0x34F || (0x180B ≤ n && n ≤ 0x180F) || n = 0x200B || n = 0x2060 ||
    (0xFE00 ≤ n && n ≤ 0xFE0F) || n = 0xFEFF || (0xE0100 ≤ n && n ≤ 0xE01EF) ||
    (0x1BCA0 ≤ n && n ≤ 0x1BCA3)

/-- Characters refused in a domain name: controls beyond ASCII, direction marks and overrides,
line and paragraph separators, interlinear annotations, the replacement character, private-use
characters, noncharacters and tags. -/
def isRefused (n : Nat) : Bool :=
  (0x80 ≤ n && n ≤ 0x9F) || n = 0x200E || n = 0x200F || (0x2028 ≤ n && n ≤ 0x202E) ||
    (0x2066 ≤ n && n ≤ 0x2069) || (0xFFF9 ≤ n && n ≤ 0xFFFD) || (0xE000 ≤ n && n ≤ 0xF8FF) ||
    (0xFDD0 ≤ n && n ≤ 0xFDEF) || n % 0x10000 ≥ 0xFFFE || (0xE0000 ≤ n && n ≤ 0xE007F) ||
    0xF0000 ≤ n

def isDenied (c : Char) : Bool :=
  c.toNat ≤ 0x20 || c.toNat = 0x7F || "%#/:<>?@[\\]^|".toList.contains c

/-- The code points one character maps to, or nothing when it is refused. -/
def mapChar (c : Char) : Option (List Nat) :=
  let n := c.toNat
  if n < 0x80 then some (Text.lowercaseChar c |>.map Char.toNat)
  else if isIgnored n then some []
  else if isRefused n then none
  else
    let once := (Text.lowercaseChar c).flatMap fun d => Text.decomposeCode d.toNat
    let twice := once.flatMap fun d => (Text.lowercaseChar (Char.ofNat d)).map Char.toNat
    some (twice.map fun d => if d = 0x3002 then 0x2E else d)

def mapAll (cs : List Char) : Option (List Char) := do
  let mapped ← cs.mapM mapChar
  pure ((Text.compose (Text.canonicalOrder [] mapped.flatten)).map Char.ofNat)

def isValidChar (c : Char) : Bool :=
  if c.toNat < 0x80 then !isDenied c && c.toNat != 0x2E && !('A' ≤ c && c ≤ 'Z')
  else mapAll [c] == some [c]

/-- Whether a zero-width joiner or non-joiner stands right after a virama. -/
def joinersAllowed : List Char → Bool
  | a :: b :: rest =>
    (if b.toNat = 0x200C || b.toNat = 0x200D then Text.combiningClass a.toNat = 9 else true) &&
      joinersAllowed (b :: rest)
  | [c] => !(c.toNat = 0x200C || c.toNat = 0x200D)
  | [] => true

/-- Whether a label in Unicode is well formed: it does not begin with a combining mark, its
joiners follow viramas, and no character in it is denied. -/
def isValidLabel (label : List Char) : Bool :=
  (match label.head? with
   | some c => Text.combiningClass c.toNat = 0
   | none => true) &&
    joinersAllowed label && label.all fun c => c.toNat ≥ 0x80 || !isDenied c

/-- One mapped label in ASCII form. -/
def labelToAscii (label : List Char) : Option String :=
  if label.take 4 == ['x', 'n', '-', '-'] then do
    if label.any (·.toNat ≥ 0x80) then none
    let decoded ← Punycode.decode (label.drop 4)
    if decoded.all (·.toNat < 0x80) then none
    if !decoded.all isValidChar || !isValidLabel decoded then none
    if mapAll decoded != some decoded then none
    pure (String.ofList label)
  else if label.all (·.toNat < 0x80) then
    if isValidLabel label then some (String.ofList label) else none
  else if isValidLabel label then some ("xn--" ++ Punycode.encode label)
  else none

/-- A domain name in ASCII form, from its UTF-8 bytes; nothing when it is not a valid name. -/
def toAscii (bytes : List UInt8) : Option String := do
  let cs ← Text.Utf8.decode? bytes
  let mapped ← mapAll cs
  let labels ← (Text.pieces '.' mapped).mapM labelToAscii
  pure (".".intercalate labels)

end Signon.Url.Idna
