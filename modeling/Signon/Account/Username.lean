import Signon.Report.Basic
import Signon.Text.Blank
import Signon.Text.Letters
import Signon.Text.Escape

namespace Signon

/-- A user name. -/
structure Username where
  text : String
  deriving DecidableEq

namespace Username

def minLength : Nat := 3

def maxLength : Nat := 50

def isNameChar (c : Char) : Bool :=
  Text.isAlphanumeric c || c == '.' || c == '_' || c == '-'

/-- Reads a name typed by a user: the length first, then the first character not allowed. -/
def make (raw : String) : Except Report Username :=
  let name := Text.trim raw
  if name.length < minLength then
    .error (Report.badRequest ("Username must be at least " ++ toString minLength ++ " characters"))
  else if maxLength < name.length then
    .error (Report.badRequest ("Username must be at most " ++ toString maxLength ++ " characters"))
  else match name.toList.find? (fun c => !isNameChar c) with
    | some c =>
      .error ((Report.badRequest ("Username contains an invalid character: " ++ Text.quoteChar c)).withAction
        "Use letters, digits, '.', '_' or '-'")
    | none => .ok ⟨name⟩

end Username

end Signon
