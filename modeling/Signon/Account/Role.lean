import Signon.Report.Basic
import Signon.Text.Blank

namespace Signon

/-- What a user may do. -/
inductive Role where
  | employee
  | admin
  deriving DecidableEq, Repr

namespace Role

def all : List Role := [.employee, .admin]

def code : Role → String
  | .employee => "EMPLOYEE"
  | .admin => "ADMIN"

def debugName : Role → String
  | .employee => "Employee"
  | .admin => "Admin"

def rank : Role → Nat
  | .employee => 0
  | .admin => 1

def isAdmin : Role → Bool
  | .admin => true
  | .employee => false

def sameIgnoringCase (a b : List Char) : Bool :=
  a.map Char.toLower == b.map Char.toLower

def dropPrefix (cs : List Char) : List Char :=
  if sameIgnoringCase (cs.take 5) "ROLE_".toList then cs.drop 5 else cs

def ofCode? (s : String) : Option Role :=
  let bare := dropPrefix (Text.trim s).toList
  all.find? fun r => sameIgnoringCase r.code.toList bare

/-- Reads a role code, refusing an unknown one. -/
def parse (s : String) : Except Report Role :=
  match ofCode? s with
  | some r => .ok r
  | none => .error (Report.badRequest ("Unknown role: " ++ s))

end Role

end Signon
