namespace Signon.Text.Utf8

/-- The bytes of one character. -/
def encodeChar (c : Char) : List UInt8 :=
  let n := c.toNat
  if n < 0x80 then [n.toUInt8]
  else if n < 0x800 then [(0xC0 + n / 64).toUInt8, (0x80 + n % 64).toUInt8]
  else if n < 0x10000 then
    [(0xE0 + n / 4096).toUInt8, (0x80 + n / 64 % 64).toUInt8, (0x80 + n % 64).toUInt8]
  else
    [(0xF0 + n / 262144).toUInt8, (0x80 + n / 4096 % 64).toUInt8, (0x80 + n / 64 % 64).toUInt8,
      (0x80 + n % 64).toUInt8]

def encode (cs : List Char) : List UInt8 :=
  cs.flatMap encodeChar

def ofString (s : String) : List UInt8 :=
  encode s.toList

def isContinuation (b : UInt8) : Bool :=
  0x80 ≤ b.toNat && b.toNat < 0xC0

def payload (b : UInt8) : Nat := b.toNat - 0x80

/-- The characters of a well-formed byte string. -/
def decode? : List UInt8 → Option (List Char)
  | [] => some []
  | b :: rest =>
    let n := b.toNat
    if n < 0x80 then (decode? rest).map (Char.ofNat n :: ·)
    else if n < 0xC2 then none
    else if n < 0xE0 then
      match rest with
      | b1 :: rest' =>
        if isContinuation b1 then (decode? rest').map (Char.ofNat ((n - 0xC0) * 64 + payload b1) :: ·)
        else none
      | [] => none
    else if n < 0xF0 then
      match rest with
      | b1 :: b2 :: rest' =>
        let m := (n - 0xE0) * 4096 + payload b1 * 64 + payload b2
        if isContinuation b1 && isContinuation b2 && 0x800 ≤ m && !(0xD800 ≤ m && m < 0xE000) then
          (decode? rest').map (Char.ofNat m :: ·)
        else none
      | _ => none
    else if n < 0xF5 then
      match rest with
      | b1 :: b2 :: b3 :: rest' =>
        let m := (n - 0xF0) * 262144 + payload b1 * 4096 + payload b2 * 64 + payload b3
        if isContinuation b1 && isContinuation b2 && isContinuation b3 && 0x10000 ≤ m &&
            m < 0x110000 then
          (decode? rest').map (Char.ofNat m :: ·)
        else none
      | _ => none
    else none

def toString? (bs : List UInt8) : Option String :=
  (decode? bs).map String.ofList

end Signon.Text.Utf8
