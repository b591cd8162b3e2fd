/-!
Binary64 numbers as JSON text meets them. Reading builds a double from a decimal significand and
exponent the fast way: the significand is converted once, then multiplied or divided by one power
of ten (by `1e308` repeatedly past the table), and a product that overflows means the number is
out of range. Writing gives the fewest significant digits that read back, the nearer of two
candidates and an exact tie to the even one, laid out positionally for decimal exponents from -5
to 15 and with an exponent otherwise.
-/

namespace Signon.Numeric

/-- The doubles nearest to `10 ^ k` for `k` from 0 to 308, as bit patterns. -/
def powerOfTenBits : Array UInt64 := #[
  0x3FF0000000000000, 0x4024000000000000, 0x4059000000000000, 0x408F400000000000,
  0x40C3880000000000, 0x40F86A0000000000, 0x412E848000000000, 0x416312D000000000,
  0x4197D78400000000, 0x41CDCD6500000000, 0x4202A05F20000000, 0x42374876E8000000,
  0x426D1A94A2000000, 0x42A2309CE5400000, 0x42D6BCC41E900000, 0x430C6BF526340000,
  0x4341C37937E08000, 0x4376345785D8A000, 0x43ABC16D674EC800, 0x43E158E460913D00,
  0x4415AF1D78B58C40, 0x444B1AE4D6E2EF50, 0x4480F0CF064DD592, 0x44B52D02C7E14AF6,
  0x44EA784379D99DB4, 0x45208B2A2C280291, 0x4554ADF4B7320335, 0x4589D971E4FE8402,
  0x45C027E72F1F1281, 0x45F431E0FAE6D721, 0x46293E5939A08CEA, 0x465F8DEF8808B024,
  0x4693B8B5B5056E17, 0x46C8A6E32246C99C, 0x46FED09BEAD87C03, 0x4733426172C74D82,
  0x476812F9CF7920E3, 0x479E17B84357691B, 0x47D2CED32A16A1B1, 0x48078287F49C4A1D,
  0x483D6329F1C35CA5, 0x48725DFA371A19E7, 0x48A6F578C4E0A061, 0x48DCB2D6F618C879,
  0x4911EFC659CF7D4C, 0x49466BB7F0435C9E, 0x497C06A5EC5433C6, 0x49B18427B3B4A05C,
  0x49E5E531A0A1C873, 0x4A1B5E7E08CA3A8F, 0x4A511B0EC57E649A, 0x4A8561D276DDFDC0,
  0x4ABABA4714957D30, 0x4AF0B46C6CDD6E3E, 0x4B24E1878814C9CE, 0x4B5A19E96A19FC41,
  0x4B905031E2503DA9, 0x4BC4643E5AE44D13, 0x4BF97D4DF19D6057, 0x4C2FDCA16E04B86D,
  0x4C63E9E4E4C2F344, 0x4C98E45E1DF3B015, 0x4CCF1D75A5709C1B, 0x4D03726987666191,
  0x4D384F03E93FF9F5, 0x4D6E62C4E38FF872, 0x4DA2FDBB0E39FB47, 0x4DD7BD29D1C87A19,
  0x4E0DAC74463A989F, 0x4E428BC8ABE49F64, 0x4E772EBAD6DDC73D, 0x4EACFA698C95390C,
  0x4EE21C81F7DD43A7, 0x4F16A3A275D49491, 0x4F4C4C8B1349B9B5, 0x4F81AFD6EC0E1411,
  0x4FB61BCCA7119916, 0x4FEBA2BFD0D5FF5B, 0x502145B7E285BF99, 0x50559725DB272F7F,
  0x508AFCEF51F0FB5F, 0x50C0DE1593369D1B, 0x50F5159AF8044462, 0x512A5B01B605557B,
  0x516078E111C3556D, 0x5194971956342AC8, 0x51C9BCDFABC1357A, 0x5200160BCB58C16C,
  0x52341B8EBE2EF1C7, 0x526922726DBAAE39, 0x529F6B0F092959C7, 0x52D3A2E965B9D81D,
  0x53088BA3BF284E24, 0x533EAE8CAEF261AD, 0x53732D17ED577D0C, 0x53A7F85DE8AD5C4F,
  0x53DDF67562D8B363, 0x5412BA095DC7701E, 0x5447688BB5394C25, 0x547D42AEA2879F2E,
  0x54B249AD2594C37D, 0x54E6DC186EF9F45C, 0x551C931E8AB87173, 0x5551DBF316B346E8,
  0x558652EFDC6018A2, 0x55BBE7ABD3781ECA, 0x55F170CB642B133F, 0x5625CCFE3D35D80E,
  0x565B403DCC834E12, 0x569108269FD210CB, 0x56C54A3047C694FE, 0x56FA9CBC59B83A3D,
  0x5730A1F5B8132466, 0x5764CA732617ED80, 0x5799FD0FEF9DE8E0, 0x57D03E29F5C2B18C,
  0x58044DB473335DEF, 0x583961219000356B, 0x586FB969F40042C5, 0x58A3D3E2388029BB,
  0x58D8C8DAC6A0342A, 0x590EFB1178484135, 0x59435CEAEB2D28C1, 0x59783425A5F872F1,
  0x59AE412F0F768FAD, 0x59E2E8BD69AA19CC, 0x5A17A2ECC414A03F, 0x5A4D8BA7F519C84F,
  0x5A827748F9301D32, 0x5AB7151B377C247E, 0x5AECDA62055B2D9E, 0x5B22087D4358FC82,
  0x5B568A9C942F3BA3, 0x5B8C2D43B93B0A8C, 0x5BC19C4A53C4E697, 0x5BF6035CE8B6203D,
  0x5C2B843422E3A84D, 0x5C6132A095CE4930, 0x5C957F48BB41DB7C, 0x5CCADF1AEA12525B,
  0x5D00CB70D24B7379, 0x5D34FE4D06DE5057, 0x5D6A3DE04895E46D, 0x5DA066AC2D5DAEC4,
  0x5DD4805738B51A75, 0x5E09A06D06E26112, 0x5E400444244D7CAB, 0x5E7405552D60DBD6,
  0x5EA906AA78B912CC, 0x5EDF485516E7577F, 0x5F138D352E5096AF, 0x5F48708279E4BC5B,
  0x5F7E8CA3185DEB72, 0x5FB317E5EF3AB327, 0x5FE7DDDF6B095FF1, 0x601DD55745CBB7ED,
  0x6052A5568B9F52F4, 0x60874EAC2E8727B1, 0x60BD22573A28F19D, 0x60F2357684599702,
  0x6126C2D4256FFCC3, 0x615C73892ECBFBF4, 0x6191C835BD3F7D78, 0x61C63A432C8F5CD6,
  0x61FBC8D3F7B3340C, 0x62315D847AD00087, 0x6265B4E5998400A9, 0x629B221EFFE500D4,
  0x62D0F5535FEF2084, 0x630532A837EAE8A5, 0x633A7F5245E5A2CF, 0x63708F936BAF85C1,
  0x63A4B378469B6732, 0x63D9E056584240FE, 0x64102C35F729689F, 0x6444374374F3C2C6,
  0x647945145230B378, 0x64AF965966BCE056, 0x64E3BDF7E0360C36, 0x6518AD75D8438F43,
  0x654ED8D34E547314, 0x6583478410F4C7EC, 0x65B819651531F9E8, 0x65EE1FBE5A7E7861,
  0x6622D3D6F88F0B3D, 0x665788CCB6B2CE0C, 0x668D6AFFE45F818F, 0x66C262DFEEBBB0F9,
  0x66F6FB97EA6A9D38, 0x672CBA7DE5054486, 0x6761F48EAF234AD4, 0x679671B25AEC1D89,
  0x67CC0E1EF1A724EB, 0x680188D357087713, 0x6835EB082CCA94D7, 0x686B65CA37FD3A0D,
  0x68A11F9E62FE4448, 0x68D56785FBBDD55A, 0x690AC1677AAD4AB1, 0x6940B8E0ACAC4EAF,
  0x6974E718D7D7625A, 0x69AA20DF0DCD3AF1, 0x69E0548B68A044D6, 0x6A1469AE42C8560C,
  0x6A498419D37A6B8F, 0x6A7FE52048590673, 0x6AB3EF342D37A408, 0x6AE8EB0138858D0A,
  0x6B1F25C186A6F04C, 0x6B537798F4285630, 0x6B88557F31326BBB, 0x6BBE6ADEFD7F06AA,
  0x6BF302CB5E6F642A, 0x6C27C37E360B3D35, 0x6C5DB45DC38E0C82, 0x6C9290BA9A38C7D1,
  0x6CC734E940C6F9C6, 0x6CFD022390F8B837, 0x6D3221563A9B7323, 0x6D66A9ABC9424FEB,
  0x6D9C5416BB92E3E6, 0x6DD1B48E353BCE70, 0x6E0621B1C28AC20C, 0x6E3BAA1E332D728F,
  0x6E714A52DFFC6799, 0x6EA59CE797FB817F, 0x6EDB04217DFA61DF, 0x6F10E294EEBC7D2C,
  0x6F451B3A2A6B9C76, 0x6F7A6208B5068394, 0x6FB07D457124123D, 0x6FE49C96CD6D16CC,
  0x7019C3BC80C85C7F, 0x70501A55D07D39CF, 0x708420EB449C8843, 0x70B9292615C3AA54,
  0x70EF736F9B3494E9, 0x7123A825C100DD11, 0x7158922F31411456, 0x718EB6BAFD91596B,
  0x71C33234DE7AD7E3, 0x71F7FEC216198DDC, 0x722DFE729B9FF153, 0x7262BF07A143F6D4,
  0x72976EC98994F489, 0x72CD4A7BEBFA31AB, 0x73024E8D737C5F0B, 0x7336E230D05B76CD,
  0x736C9ABD04725481, 0x73A1E0B622C774D0, 0x73D658E3AB795204, 0x740BEF1C9657A686,
  0x74417571DDF6C814, 0x7475D2CE55747A18, 0x74AB4781EAD1989E, 0x74E10CB132C2FF63,
  0x75154FDD7F73BF3C, 0x754AA3D4DF50AF0B, 0x7580A6650B926D67, 0x75B4CFFE4E7708C0,
  0x75EA03FDE214CAF1, 0x7620427EAD4CFED6, 0x7654531E58A03E8C, 0x768967E5EEC84E2F,
  0x76BFC1DF6A7A61BB, 0x76F3D92BA28C7D15, 0x7728CF768B2F9C5A, 0x775F03542DFB8370,
  0x779362149CBD3226, 0x77C83A99C3EC7EB0, 0x77FE494034E79E5C, 0x7832EDC82110C2F9,
  0x7867A93A2954F3B8, 0x789D9388B3AA30A5, 0x78D27C35704A5E67, 0x79071B42CC5CF601,
  0x793CE2137F743382, 0x79720D4C2FA8A031, 0x79A6909F3B92C83D, 0x79DC34C70A777A4D,
  0x7A11A0FC668AAC70, 0x7A46093B802D578C, 0x7A7B8B8A6038AD6F, 0x7AB137367C236C65,
  0x7AE585041B2C477F, 0x7B1AE64521F7595E, 0x7B50CFEB353A97DB, 0x7B8503E602893DD2,
  0x7BBA44DF832B8D46, 0x7BF06B0BB1FB384C, 0x7C2485CE9E7A065F, 0x7C59A742461887F6,
  0x7C9008896BCF54FA, 0x7CC40AABC6C32A38, 0x7CF90D56B873F4C7, 0x7D2F50AC6690F1F8,
  0x7D63926BC01A973B, 0x7D987706B0213D0A, 0x7DCE94C85C298C4C, 0x7E031CFD3999F7B0,
  0x7E37E43C8800759C, 0x7E6DDD4BAA009303, 0x7EA2AA4F4A405BE2, 0x7ED754E31CD072DA,
  0x7F0D2A1BE4048F90, 0x7F423A516E82D9BA, 0x7F76C8E5CA239029, 0x7FAC7B1F3CAC7433,
  0x7FE1CCF385EBC8A0]

def powerOfTen? (k : Nat) : Option Float :=
  (powerOfTenBits[k]?).map Float.ofBits

/-- Scales `f` by `10 ^ e`; `none` when the product overflows. `fuel` bounds the repeated
division by `1e308`. -/
def scaleByTen (f : Float) (e : Int) : Nat → Option Float
  | 0 => some f
  | fuel + 1 =>
    match powerOfTen? e.natAbs with
    | some p =>
      if e ≥ 0 then
        let g := f * p
        if g.isInf then none else some g
      else some (f / p)
    | none =>
      if f == 0 then some f
      else if e ≥ 0 then none
      else scaleByTen (f / 1e308) (e + 308) fuel

def ofDecimal (positive : Bool) (significand : Nat) (exponent : Int) : Option Float :=
  (scaleByTen significand.toUInt64.toFloat exponent (exponent.natAbs / 308 + 2)).map
    fun f => if positive then f else -f

def decimalDigits (n : Nat) : List Char := Nat.toDigits 10 n

def digitCount (n : Nat) : Nat := (decimalDigits n).length

/-- `⌊log₁₀ (num / den)⌋` for positive `num` and `den`. -/
def floorLog10 (num den : Nat) : Int :=
  let guess : Int := (digitCount num : Int) - digitCount den
  let fits := if guess ≥ 0 then den * Nat.pow 10 guess.toNat ≤ num else den ≤ num * Nat.pow 10 guess.natAbs
  if fits then guess else guess - 1

def gridBounds (num den : Nat) (k : Int) : Nat × Nat :=
  let (n, d) := if k ≥ 0 then (num, den * Nat.pow 10 k.toNat) else (num * Nat.pow 10 k.natAbs, den)
  ((n + d - 1) / d, n / d)

/-- The shortest digits `c` and exponent `k` with `c · 10 ^ k` reading back as the positive value
`m · 2 ^ e`, whose neighbours lie `lowGap` and one unit away in units of `2 ^ (e - 2)`. -/
def shortestDigits (m : Nat) (e : Int) (lowGap : Nat) (closed : Bool) : Nat × Int :=
  let v := 4 * m
  let lo := v - lowGap
  let hi := v + 2
  let (scale, den) := if e - 2 ≥ 0 then (Nat.pow 2 (e - 2).toNat, 1) else (1, Nat.pow 2 (e - 2).natAbs)
  let vN := v * scale
  let loN := lo * scale
  let hiN := hi * scale
  let top := floorLog10 vN den
  let rec search : Nat → Nat → Nat × Int
    | 0, _ => (m, e)
    | fuel + 1, n =>
      let k := top - n + 1
      let (up, down) := gridBounds vN den k
      let inside (c : Nat) : Bool :=
        let (a, b) := if k ≥ 0 then (c * Nat.pow 10 k.toNat, 1) else (c, Nat.pow 10 k.natAbs)
        if closed then loN * b ≤ a * den ∧ a * den ≤ hiN * b
        else loN * b < a * den ∧ a * den < hiN * b
      let okDown := down > 0 && inside down
      let okUp := inside up
      if okDown && okUp then
        if up = down then (down, k)
        else
          -- the nearer of the two, an exact tie to the even one
          let (a, b) := if k ≥ 0 then (Nat.pow 10 k.toNat, 1) else (1, Nat.pow 10 k.natAbs)
          let dDown := vN * b - down * a * den
          let dUp := up * a * den - vN * b
          if dDown < dUp then (down, k) else if dUp < dDown then (up, k)
          else if down % 2 = 0 then (down, k) else (up, k)
      else if okDown then (down, k)
      else if okUp then (up, k)
      else search fuel (n + 1)
  search 17 1

def stripZeros (c : Nat) (k : Int) : Nat → Nat × Int
  | 0 => (c, k)
  | fuel + 1 => if c ≠ 0 ∧ c % 10 = 0 then stripZeros (c / 10) (k + 1) fuel else (c, k)

/-- Lays out digits `ds` with value `ds · 10 ^ k`. -/
def layout (ds : List Char) (k : Int) : String :=
  let n : Int := ds.length
  let kk := n + k
  if 0 ≤ k ∧ kk ≤ 16 then
    String.ofList ds ++ String.ofList (List.replicate k.toNat '0') ++ ".0"
  else if 0 < kk ∧ kk ≤ 16 then
    String.ofList (ds.take kk.toNat) ++ "." ++ String.ofList (ds.drop kk.toNat)
  else if -5 < kk ∧ kk ≤ 0 then
    "0." ++ String.ofList (List.replicate kk.natAbs '0') ++ String.ofList ds
  else if ds.length = 1 then
    String.ofList ds ++ "e" ++ toString (kk - 1)
  else
    String.ofList (ds.take 1) ++ "." ++ String.ofList (ds.drop 1) ++ "e" ++ toString (kk - 1)

/-- The shortest text of a finite double, `1e20`, `0.1`, `1.0` or `-0.0` style. -/
def shortest (f : Float) : String :=
  let bits := f.toBits
  let negative := bits >>> 63 == 1
  let field := ((bits >>> 52) &&& 0x7FF).toNat
  let frac := (bits &&& 0xFFFFFFFFFFFFF).toNat
  let sign := if negative then "-" else ""
  if field = 0 ∧ frac = 0 then sign ++ "0.0"
  else if field = 0x7FF then (if frac = 0 then sign ++ "inf" else "NaN")
  else
    let (m, e) : Nat × Int :=
      if field = 0 then (frac, -1074) else (frac + Nat.pow 2 52, (field : Int) - 1075)
    let lowGap := if frac = 0 ∧ field > 1 then 1 else 2
    let (c, k) := shortestDigits m e lowGap (m % 2 = 0)
    let (c, k) := stripZeros c k 400
    sign ++ layout (decimalDigits c) k

end Signon.Numeric
