import Signon.Http.Fault
import Signon.Text.Utf8

namespace Signon.Http

def isValueByte (b : UInt8) : Bool :=
  (b ≥ 32 && b != 127) || b == 9

def isVisibleByte (b : UInt8) : Bool :=
  (b ≥ 32 && b < 127) || b == 9

/-- A header value. -/
structure HeaderValue where
  bytes : List UInt8
  deriving DecidableEq

namespace HeaderValue

def ofBytes? (bs : List UInt8) : Option HeaderValue :=
  if bs.all isValueByte then some ⟨bs⟩ else none

/-- A header value of a text. -/
def ofText (s : String) : Except SetupError HeaderValue :=
  match ofBytes? (Text.Utf8.ofString s) with
  | some v => .ok v
  | none => .error .invalidHeader

def text? (v : HeaderValue) : Option String :=
  if v.bytes.all isVisibleByte then Text.Utf8.toString? v.bytes else none

def bearer (token : String) : Except SetupError HeaderValue :=
  ofText ("Bearer " ++ token)

end HeaderValue

end Signon.Http
