namespace Signon.Text

/-- A code point with the property White_Space. -/
def isBlank (c : Char) : Bool :=
  let n := c.toNat
  (0x09 ≤ n && n ≤ 0x0d) || n == 0x20 || n == 0x85 || n == 0xa0 || n == 0x1680 ||
    (0x2000 ≤ n && n ≤ 0x200a) || n == 0x2028 || n == 0x2029 || n == 0x202f || n == 0x205f ||
    n == 0x3000

def isAsciiBlank (c : Char) : Bool :=
  c == ' ' || c == '\t' || c == '\n' || c == '\x0c' || c == '\r'

def dropBlanks (cs : List Char) : List Char :=
  cs.dropWhile isBlank

def dropTrailingBlanks (cs : List Char) : List Char :=
  (dropBlanks cs.reverse).reverse

def trim (s : String) : String :=
  String.ofList (dropTrailingBlanks (dropBlanks s.toList))

def trimStart (s : String) : String :=
  String.ofList (dropBlanks s.toList)

def trimEnd (s : String) : String :=
  String.ofList (dropTrailingBlanks s.toList)

def isBlankText (s : String) : Bool :=
  s.toList.all isBlank

end Signon.Text
