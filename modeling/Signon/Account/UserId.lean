import Signon.Numeric.Integer

namespace Signon

/-- A user's identifier. -/
structure UserId where
  value : Int
  deriving DecidableEq, Repr

namespace UserId

def parse (s : String) : Except Numeric.IntError UserId :=
  (Numeric.readI64 (Text.trim s)).map UserId.mk

def render (id : UserId) : String := toString id.value

def debug (id : UserId) : String := "Id(" ++ toString id.value ++ ")"

end UserId

end Signon
