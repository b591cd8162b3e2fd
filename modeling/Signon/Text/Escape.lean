import Signon.Text.Printable

namespace Signon.Text

def hexLower (n : Nat) : String :=
  String.ofList (Nat.toDigits 16 n)

/-- The escape of one character inside quotes. `single` and `double` say which quote is in use. -/
def escapeChar (single double : Bool) (c : Char) : String :=
  if c = '\x00' then "\\0"
  else if c = '\t' then "\\t"
  else if c = '\r' then "\\r"
  else if c = '\n' then "\\n"
  else if c = '\\' then "\\\\"
  else if c = '"' ∧ double then "\\\""
  else if c = '\'' ∧ single then "\\'"
  else if isGraphemeExtend c || !isPrintable c then "\\u\x7b" ++ hexLower c.toNat ++ "\x7d"
  else String.singleton c

def quoteChar (c : Char) : String :=
  "'" ++ escapeChar true false c ++ "'"

def quoteText (s : String) : String :=
  "\"" ++ String.join (s.toList.map (escapeChar false true)) ++ "\""

end Signon.Text
