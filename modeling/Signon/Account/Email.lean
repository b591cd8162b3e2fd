import Signon.Report.Basic
import Signon.Text.Blank
import Signon.Text.Lowercase
import Signon.Text.Split

namespace Signon

/-- An email address. -/
structure Email where
  text : String
  deriving DecidableEq

namespace Email

def maxLength : Nat := 254

def maxNameLength : Nat := 64

/-- What is wrong with the shape of an address. -/
inductive Flaw where
  | noAt
  | noName
  | nameTooLong
  | secondAt
  | noDot
  | badDomain
  deriving DecidableEq, Repr

/-- How a flaw reads. -/
def Flaw.message : Flaw → String
  | .noAt => "missing '@'"
  | .noName => "missing name before '@'"
  | .nameTooLong => "name before '@' is too long"
  | .secondAt => "more than one '@'"
  | .noDot => "domain needs a dot"
  | .badDomain => "malformed domain"

def isLabel (label : List Char) : Bool :=
  !label.isEmpty && label.head? != some '-' && label.getLast? != some '-' &&
    label.all fun c => c.isAlphanum || c == '-'

/-- The first flaw of an address's shape, checked in a fixed order. -/
def shapeFlaw (e : List Char) : Option Flaw :=
  match Text.splitFirst? '@' e with
  | none => some .noAt
  | some (name, domain) =>
    if name.isEmpty then some .noName
    else if maxNameLength < Text.byteLength name then some .nameTooLong
    else if domain.contains '@' then some .secondAt
    else if !domain.contains '.' then some .noDot
    else if !(Text.pieces '.' domain).all isLabel then some .badDomain
    else none

/-- Reads an address typed by a user. -/
def make (raw : String) : Except Report Email :=
  let e := Text.lowercase (Text.trim raw)
  if e.isEmpty then
    .error ((Report.badRequest "Email is required").withAction "Please enter your email address")
  else if maxLength < e.utf8ByteSize then
    .error (Report.badRequest ("Email must be at most " ++ toString maxLength ++ " characters"))
  else match shapeFlaw e.toList with
    | some f => .error (Report.badRequest ("Invalid email address: " ++ f.message))
    | none => .ok ⟨e⟩

/-- The domain: what follows the last `@`, or nothing. -/
def domain (e : Email) : String :=
  match Text.splitLast? '@' e.text.toList with
  | some (_, d) => String.ofList d
  | none => ""

/-- The address with its name hidden but for the first character. -/
def masked (e : Email) : String :=
  match Text.splitLast? '@' e.text.toList with
  | some (name, d) => String.ofList ((name.headD '*') :: "***@".toList ++ d)
  | none => "***"

end Email

end Signon
