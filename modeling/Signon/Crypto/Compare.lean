namespace Signon.Crypto

def foldDifference (acc : UInt8) : List UInt8 → List UInt8 → UInt8
  | x :: xs, y :: ys => foldDifference (acc ||| (x ^^^ y)) xs ys
  | _, _ => acc

def bytesMatch (a b : List UInt8) : Bool :=
  a.length == b.length && foldDifference 0 a b == 0

def textsMatch (a b : String) : Bool :=
  bytesMatch a.toUTF8.toList b.toUTF8.toList

end Signon.Crypto
