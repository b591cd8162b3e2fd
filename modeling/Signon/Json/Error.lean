import Signon.Text.Escape
import Signon.Json.Value

/-!
Why a text is not the JSON that was wanted. A failure is either a fault of the text itself, found
at a line and column (lines from 1, columns counting bytes since the start of the line), or a value
of the wrong shape, which is placed at the point where reading stopped when the text is at hand and
carries no place when a value was decoded.
-/

namespace Signon.Json

/-- A fault of the text itself. -/
inductive TextFault where
  | eofList
  | eofObject
  | eofString
  | eofValue
  | expectedColon
  | expectedListCommaOrEnd
  | expectedObjectCommaOrEnd
  | expectedIdent
  | expectedValue
  | invalidEscape
  | invalidNumber
  | numberOutOfRange
  | invalidCodePoint
  | controlCharacter
  | keyMustBeString
  | loneLeadingSurrogate
  | trailingComma
  | trailingCharacters
  | unexpectedEndOfHexEscape
  | recursionLimit
  deriving DecidableEq, Repr

/-- How a fault of the text reads. -/
def TextFault.message : TextFault → String
  | .eofList => "EOF while parsing a list"
  | .eofObject => "EOF while parsing an object"
  | .eofString => "EOF while parsing a string"
  | .eofValue => "EOF while parsing a value"
  | .expectedColon => "expected `:`"
  | .expectedListCommaOrEnd => "expected `,` or `]`"
  | .expectedObjectCommaOrEnd => "expected `,` or `\x7d`"
  | .expectedIdent => "expected ident"
  | .expectedValue => "expected value"
  | .invalidEscape => "invalid escape"
  | .invalidNumber => "invalid number"
  | .numberOutOfRange => "number out of range"
  | .invalidCodePoint => "invalid unicode code point"
  | .controlCharacter => "control character (\\u0000-\\u001F) found while parsing a string"
  | .keyMustBeString => "key must be a string"
  | .loneLeadingSurrogate => "lone leading surrogate in hex escape"
  | .trailingComma => "trailing comma"
  | .trailingCharacters => "trailing characters"
  | .unexpectedEndOfHexEscape => "unexpected end of hex escape"
  | .recursionLimit => "recursion limit exceeded"

def TextFault.isEof : TextFault → Bool
  | .eofList | .eofObject | .eofString | .eofValue => true
  | _ => false

/-- What was found where something else was wanted. -/
inductive Unexpected where
  | bool (b : Bool)
  | unsigned (n : Nat)
  | signed (n : Int)
  | float (text : String)
  | str (s : String)
  | null
  | seq
  | map
  deriving DecidableEq, Repr

/-- How a found value reads in a message. -/
def Unexpected.describe : Unexpected → String
  | .bool b => "boolean `" ++ (if b then "true" else "false") ++ "`"
  | .unsigned n => "integer `" ++ toString n ++ "`"
  | .signed n => "integer `" ++ toString n ++ "`"
  | .float t => "floating point `" ++ t ++ "`"
  | .str s => "string " ++ Text.quoteText s
  | .null => "null"
  | .seq => "sequence"
  | .map => "map"

/-- Why reading or decoding failed. -/
inductive Problem where
  | malformed (code : TextFault)
  | invalidType (found : Unexpected) (expected : String)
  | invalidValue (found : Unexpected) (expected : String)
  | invalidLength (n : Nat) (expected : String)
  | missingField (name : String)
  | duplicateField (name : String)
  | unknownVariant (name : String) (expected : List String)
  | custom (message : String)
  | io (message : String)
  deriving DecidableEq, Repr

/-- Names in backquotes: one, two joined by "or", more as "one of" a list. -/
def oneOf : List String → String
  | [a] => "`" ++ a ++ "`"
  | [a, b] => "`" ++ a ++ "` or `" ++ b ++ "`"
  | names => "one of " ++ ", ".intercalate (names.map fun n => "`" ++ n ++ "`")

/-- How a problem reads. -/
def Problem.message : Problem → String
  | .malformed code => code.message
  | .invalidType found expected => "invalid type: " ++ found.describe ++ ", expected " ++ expected
  | .invalidValue found expected => "invalid value: " ++ found.describe ++ ", expected " ++ expected
  | .invalidLength n expected => "invalid length " ++ toString n ++ ", expected " ++ expected
  | .missingField name => "missing field `" ++ name ++ "`"
  | .duplicateField name => "duplicate field `" ++ name ++ "`"
  | .unknownVariant name [] => "unknown variant `" ++ name ++ "`, there are no variants"
  | .unknownVariant name expected => "unknown variant `" ++ name ++ "`, expected " ++ oneOf expected
  | .custom message => message
  | .io message => message

/-- A failure with its place; line 0 means no place. -/
structure Error where
  problem : Problem
  line : Nat := 0
  column : Nat := 0
  deriving DecidableEq, Repr

def Error.message (e : Error) : String :=
  if e.line = 0 then e.problem.message
  else e.problem.message ++ " at line " ++ toString e.line ++ " column " ++ toString e.column

def Error.debug (e : Error) : String :=
  "Error(" ++ Text.quoteText e.problem.message ++ ", line: " ++ toString e.line ++ ", column: " ++
    toString e.column ++ ")"

/-- Whether the failure came from the source of the text rather than the text. -/
def Error.isIo (e : Error) : Bool :=
  match e.problem with
  | .io _ => true
  | _ => false

def Error.placeAt (e : Error) (line column : Nat) : Error :=
  if e.line = 0 then { e with line, column } else e

end Signon.Json
