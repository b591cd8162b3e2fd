import Mathlib
import Signon.Json.Stream
import Signon.Proofs.Text.Utf8
import Signon.Proofs.Numeric.Decimal

/-!
Reading back the tokens of JSON text as it is written out; the cursor's line and column only
place failures.
-/

namespace Signon.Json

open Text.Utf8

section Cursor

variable {c : Cursor} {tail : List UInt8}

theorem Cursor.rest_next {b : UInt8} {more : List UInt8} (h : c.rest = b :: more) :
    c.next.rest = more := by
  unfold Cursor.next
  simp only [h]
  split <;> rfl

theorem Cursor.rest_skip : ∀ (pre : List UInt8) (c : Cursor), c.rest = pre ++ tail →
    (c.skip pre.length).rest = tail
  | [], c, h => by simpa [Cursor.skip] using h
  | b :: pre, c, h => by
    rw [List.length_cons, Cursor.skip]
    exact Cursor.rest_skip pre c.next (Cursor.rest_next (by rw [h, List.cons_append]))

def Blanks (bs : List UInt8) : Prop := ∀ b ∈ bs, Cursor.isBlank b = true

theorem blanks_nil : Blanks [] := fun _ h => absurd h List.not_mem_nil

theorem Blanks.cons {b : UInt8} {bs : List UInt8} (hb : Cursor.isBlank b = true) (h : Blanks bs) :
    Blanks (b :: bs) := by
  intro x hx
  rcases List.mem_cons.mp hx with rfl | hx
  · exact hb
  · exact h x hx

/-- Skipping blanks stops at the first byte that is not one. -/
theorem skipFrom_blanks {b : UInt8} {more : List UInt8} (hb : Cursor.isBlank b = false) :
    ∀ (bl : List UInt8) (line column : Nat), Blanks bl →
      (Cursor.skipFrom line column (bl ++ b :: more)).rest = b :: more
  | [], line, column, _ => by
    have hnewline : b ≠ byte '\n' := by
      rintro rfl
      exact absurd hb (by decide)
    rw [List.nil_append, Cursor.skipFrom, if_neg hnewline, if_neg (by simp [hb])]
  | x :: bl, line, column, h => by
    have hblank := h x List.mem_cons_self
    have hrest : Blanks bl := fun y hy => h y (List.mem_cons_of_mem _ hy)
    rw [List.cons_append, Cursor.skipFrom]
    split_ifs
    · exact skipFrom_blanks hb bl _ _ hrest
    · exact skipFrom_blanks hb bl _ _ hrest

theorem skipFrom_end : ∀ (bl : List UInt8) (line column : Nat), Blanks bl →
    (Cursor.skipFrom line column bl).rest = []
  | [], _, _, _ => rfl
  | x :: bl, line, column, h => by
    have hblank := h x List.mem_cons_self
    have hrest : Blanks bl := fun y hy => h y (List.mem_cons_of_mem _ hy)
    rw [Cursor.skipFrom]
    split_ifs
    · exact skipFrom_end bl _ _ hrest
    · exact skipFrom_end bl _ _ hrest

theorem Cursor.skipBlanks_rest {bl more : List UInt8} {b : UInt8} (hc : c.rest = bl ++ b :: more)
    (hbl : Blanks bl) (hb : Cursor.isBlank b = false) : c.skipBlanks.rest = b :: more := by
  rw [Cursor.skipBlanks, hc]
  exact skipFrom_blanks hb bl _ _ hbl

theorem Cursor.skipBlanks_at {more : List UInt8} {b : UInt8} (hc : c.rest = b :: more)
    (hb : Cursor.isBlank b = false) : c.skipBlanks.rest = b :: more :=
  Cursor.skipBlanks_rest (show c.rest = [] ++ b :: more from hc) blanks_nil hb

theorem finish_blanks {bl : List UInt8} (hc : c.rest = bl) (hbl : Blanks bl) : finish c = .ok () := by
  have hempty : c.skipBlanks.rest = [] := by
    rw [Cursor.skipBlanks, hc]
    exact skipFrom_end bl _ _ hbl
  simp [finish, hempty]

end Cursor

section Strings

variable {c : Cursor} {tail : List UInt8}

/-- A byte that a string literal holds as it is: no quote, no backslash, no control character. -/
structure Plain (b : UInt8) : Prop where
  not_quote : b ≠ byte '"'
  not_backslash : b ≠ byte '\\'
  printable : 0x20 ≤ b.toNat

theorem stringBytes_plain : ∀ (bs tail : List UInt8) (c : Cursor), c.rest = bs ++ tail →
    (∀ b ∈ bs, Plain b) → ∃ c' : Cursor, c'.rest = tail ∧
      ∀ fuel acc, stringBytes acc (fuel + bs.length) c = stringBytes (bs.reverse ++ acc) fuel c'
  | [], tail, c, hc, _ => ⟨c, by simpa using hc, fun _ _ => rfl⟩
  | b :: bs, tail, c, hc, hplain => by
    have hb := hplain b List.mem_cons_self
    obtain ⟨c', hc', hstep⟩ := stringBytes_plain bs tail ⟨bs ++ tail, c.line, c.column + 1⟩ rfl
      fun x hx => hplain x (List.mem_cons_of_mem _ hx)
    refine ⟨c', hc', fun fuel acc => ?_⟩
    have hlow : ¬ b < 0x20 := by
      rw [UInt8.lt_iff_toNat_lt]
      exact Nat.not_lt.mpr hb.printable
    rw [show fuel + (b :: bs).length = (fuel + bs.length) + 1 by simp; omega, stringBytes, hc,
      List.cons_append]
    simp only [hb.not_quote, hb.not_backslash, hlow, if_false]
    rw [hstep]
    simp

/-- A one-letter escape is read as the character it stands for. -/
theorem stringBytes_simpleEscape {e : UInt8} {ch : Char} (hu : e ≠ byte 'u')
    (hs : simpleEscape? e = some ch) (hc : c.rest = byte '\\' :: e :: tail) :
    ∃ c' : Cursor, c'.rest = tail ∧
      ∀ fuel acc, stringBytes acc (fuel + 1) c = stringBytes (byte ch :: acc) fuel c' := by
  have hnext : c.next.rest = e :: tail := Cursor.rest_next hc
  refine ⟨c.next.next, Cursor.rest_next hnext, fun fuel acc => ?_⟩
  rw [stringBytes, hc]
  simp only [show byte '\\' ≠ byte '"' by decide, if_false, if_true, hnext, hu, hs]

/-- A `\u` escape is read as the character it stands for. -/
theorem stringBytes_unicodeEscape {ch : Char} {c' : Cursor} {more : List UInt8}
    (hc : c.rest = byte '\\' :: byte 'u' :: more) (hu : unicodeEscape c.next.next = .ok (ch, c')) :
    ∀ fuel acc, stringBytes acc (fuel + 1) c =
      stringBytes ((encodeChar ch).reverse ++ acc) fuel c' := by
  intro fuel acc
  have hnext : c.next.rest = byte 'u' :: more := Cursor.rest_next hc
  rw [stringBytes, hc]
  simp only [show byte '\\' ≠ byte '"' by decide, if_false, if_true, hnext, hu]

theorem hexDigitValue?_hexDigit {k : Nat} (h : k < 16) :
    hexDigitValue? (byte (hexDigit k)) = some k := by
  interval_cases k <;> rfl

/-- The `\u00XX` escape of a control character is read back as that character. -/
theorem unicodeEscape_control {ch : Char} (h : ch.toNat < 0x20)
    (hc : c.rest = [byte '0', byte '0', byte (hexDigit (ch.toNat / 16)),
      byte (hexDigit (ch.toNat % 16))] ++ tail) :
    ∃ c' : Cursor, c'.rest = tail ∧ unicodeEscape c = .ok (ch, c') := by
  have hdigits : hex4? (byte '0') (byte '0') (byte (hexDigit (ch.toNat / 16)))
      (byte (hexDigit (ch.toNat % 16))) = some ch.toNat := by
    simp only [hex4?, hexDigitValue?_hexDigit (show ch.toNat / 16 < 16 by omega),
      hexDigitValue?_hexDigit (show ch.toNat % 16 < 16 by omega),
      show hexDigitValue? (byte '0') = some 0 from rfl, Option.bind_eq_bind, Option.bind_some]
    congr 1
    omega
  have hescape : hexEscape c = .ok (ch.toNat, c.skip 4) := by
    simp only [hexEscape, hc, List.cons_append, List.nil_append, hdigits]
  refine ⟨c.skip 4, Cursor.rest_skip _ c hc, ?_⟩
  simp only [unicodeEscape, hescape, bind, Except.bind]
  rw [if_neg (by omega), if_pos (by omega), Char.ofNat_toNat]

theorem encode_ascii {cs : List Char} (h : ∀ ch ∈ cs, ch.toNat < 0x80) :
    encode cs = cs.map byte := by
  induction cs with
  | nil => rfl
  | cons ch cs ih =>
    rw [encode, List.flatMap_cons, encodeChar_of_lt (h ch List.mem_cons_self), ← encode,
      ih fun x hx => h x (List.mem_cons_of_mem _ hx)]
    rfl

theorem byte_injective {a b : Char} (ha : a.toNat < 0x80) (hb : b.toNat < 0x80)
    (h : byte a = byte b) : a = b := by
  have hsame := congrArg UInt8.toNat h
  simp only [byte, toNat_toUInt8 (show a.toNat < 256 by omega),
    toNat_toUInt8 (show b.toNat < 256 by omega)] at hsame
  calc a = Char.ofNat a.toNat := (Char.ofNat_toNat a).symm
    _ = Char.ofNat b.toNat := by rw [hsame]
    _ = b := Char.ofNat_toNat b

/-- Reading the escape of one character gives the character's bytes, in at most as many steps
as the escape has bytes. -/
theorem stringBytes_escapeChar (ch : Char) (hc : c.rest = encode (escapeChar ch) ++ tail) :
    ∃ k c', 1 ≤ k ∧ k ≤ (encode (escapeChar ch)).length ∧ c'.rest = tail ∧
      ∀ fuel acc, stringBytes acc (fuel + k) c =
        stringBytes ((encodeChar ch).reverse ++ acc) fuel c' := by
  have hsimple : ∀ e : Char, e.toNat < 0x80 → byte e ≠ byte 'u' → ch.toNat < 0x80 →
      simpleEscape? (byte e) = some ch → c.rest = encode ['\\', e] ++ tail →
      ∃ k c', 1 ≤ k ∧ k ≤ (encode ['\\', e]).length ∧ c'.rest = tail ∧
        ∀ fuel acc, stringBytes acc (fuel + k) c =
          stringBytes ((encodeChar ch).reverse ++ acc) fuel c' := by
    intro e he hu hch hs hc
    have hascii : encode ['\\', e] = [byte '\\', byte e] := encode_ascii (by simp [he])
    rw [hascii] at hc
    obtain ⟨c', hc', hstep⟩ := stringBytes_simpleEscape hu hs hc
    refine ⟨1, c', le_refl _, by simp [hascii], hc', fun fuel acc => ?_⟩
    rw [hstep, encodeChar_of_lt hch]
    rfl
  generalize hescaped : escapeChar ch = es at hc ⊢
  unfold escapeChar at hescaped
  split_ifs at hescaped with h1 h2 h3 h4 h5 h6 h7 h8 <;> subst hescaped
  · subst h1; exact hsimple '"' (by decide) (by decide) (by decide) (by decide) hc
  · subst h2; exact hsimple '\\' (by decide) (by decide) (by decide) (by decide) hc
  · subst h3; exact hsimple 'n' (by decide) (by decide) (by decide) (by decide) hc
  · subst h4; exact hsimple 'r' (by decide) (by decide) (by decide) (by decide) hc
  · subst h5; exact hsimple 't' (by decide) (by decide) (by decide) (by decide) hc
  · subst h6; exact hsimple 'b' (by decide) (by decide) (by decide) (by decide) hc
  · subst h7; exact hsimple 'f' (by decide) (by decide) (by decide) (by decide) hc
  · have hex : ∀ k, k < 16 → (hexDigit k).toNat < 0x80 := by
      intro k hk
      interval_cases k <;> decide
    have hascii := @encode_ascii ['\\', 'u', '0', '0', hexDigit (ch.toNat / 16),
      hexDigit (ch.toNat % 16)] (by
        simp only [List.mem_cons, List.not_mem_nil, or_false]
        rintro x (rfl | rfl | rfl | rfl | rfl | rfl) <;> first | decide | exact hex _ (by omega))
    rw [hascii] at hc
    have hafter : c.next.next.rest = [byte '0', byte '0', byte (hexDigit (ch.toNat / 16)),
        byte (hexDigit (ch.toNat % 16))] ++ tail :=
      Cursor.rest_next (Cursor.rest_next hc)
    obtain ⟨c', hc', hu⟩ := unicodeEscape_control h8 hafter
    exact ⟨1, c', le_refl _, by simp [hascii], hc', stringBytes_unicodeEscape hc hu⟩
  · have hplain : ∀ b ∈ encodeChar ch, Plain b := by
      intro b hb
      by_cases hlow : ch.toNat < 0x80
      · rw [encodeChar_of_lt hlow, List.mem_singleton] at hb
        subst hb
        refine ⟨fun e => h1 (byte_injective (by omega) (by decide) e),
          fun e => h2 (byte_injective (by omega) (by decide) e), ?_⟩
        simp only [toNat_toUInt8 (show ch.toNat < 256 by omega)]
        omega
      · have high := le_of_mem_encodeChar (by omega) hb
        refine ⟨fun e => ?_, fun e => ?_, by omega⟩ <;> subst e <;> revert high <;> decide
    have hsingle : encode [ch] = encodeChar ch := by simp [encode]
    rw [hsingle] at hc
    obtain ⟨c', hc', hstep⟩ := stringBytes_plain _ _ c hc hplain
    refine ⟨(encodeChar ch).length, c', ?_, by rw [hsingle], hc', hstep⟩
    cases hb : encodeChar ch with
    | nil => simp [encodeChar] at hb; split_ifs at hb
    | cons b bs => simp

theorem encode_append (a b : List Char) : encode (a ++ b) = encode a ++ encode b := by
  simp [encode]

/-- Reading escaped characters gives their bytes, in at most as many steps as the escapes have
bytes. -/
theorem stringBytes_escaped : ∀ (cs : List Char) (c : Cursor),
    c.rest = encode (cs.flatMap escapeChar) ++ tail →
    ∃ k c', k ≤ (encode (cs.flatMap escapeChar)).length ∧ c'.rest = tail ∧
      ∀ fuel acc, stringBytes acc (fuel + k) c = stringBytes ((encode cs).reverse ++ acc) fuel c'
  | [], c, hc => ⟨0, c, le_refl _, by simpa [encode] using hc, fun _ _ => by simp [encode]⟩
  | ch :: cs, c, hc => by
    rw [List.flatMap_cons, encode_append, List.append_assoc] at hc
    obtain ⟨k, c₁, -, hk, hc₁, hstep⟩ := stringBytes_escapeChar ch hc
    obtain ⟨k', c', hk', hc', hstep'⟩ := stringBytes_escaped cs c₁ hc₁
    refine ⟨k + k', c', ?_, hc', fun fuel acc => ?_⟩
    · rw [List.flatMap_cons, encode_append, List.length_append]
      omega
    · rw [show fuel + (k + k') = (fuel + k') + k by omega, hstep, hstep']
      simp [encode]

theorem Cursor.string_escaped (cs : List Char)
    (hc : c.rest = encode (cs.flatMap escapeChar) ++ byte '"' :: tail) :
    ∃ c' : Cursor, c'.rest = tail ∧ c.string = .ok (String.ofList cs, c') := by
  obtain ⟨k, c₁, hk, hc₁, hstep⟩ := stringBytes_escaped cs c hc
  have hlong : k + 1 ≤ c.rest.length + 1 := by
    rw [hc, List.length_append]
    simp only [List.length_cons]
    omega
  have hclose : stringBytes ((encode cs).reverse ++ []) (c.rest.length - k + 1) c₁ =
      .ok (encode cs, c₁.next) := by
    rw [stringBytes, hc₁]
    simp
  refine ⟨c₁.next, Cursor.rest_next hc₁, ?_⟩
  rw [Cursor.string, show c.rest.length + 1 = (c.rest.length - k + 1) + k by omega, hstep, hclose]
  simp [bind, Except.bind, toString?_encode]

theorem ofString_quote (s : String) :
    ofString (quote s) = byte '"' :: (encode (s.toList.flatMap escapeChar) ++ [byte '"']) := by
  simp [ofString, quote, encode, encodeChar_of_lt (show '"'.toNat < 0x80 by decide), byte]

theorem Cursor.string_quote {s : String} (hc : c.rest = Text.Utf8.ofString (quote s) ++ tail) :
    ∃ c' : Cursor, c'.rest = tail ∧ c.next.string = .ok (s, c') := by
  rw [ofString_quote, List.cons_append, List.append_assoc, List.singleton_append] at hc
  obtain ⟨c', hc', hread⟩ := Cursor.string_escaped s.toList (Cursor.rest_next hc)
  rw [String.ofList_toList] at hread
  exact ⟨c', hc', hread⟩

theorem readText_quote {s : String} {bl : List UInt8} (expected : String)
    (hc : c.rest = bl ++ ofString (quote s) ++ tail) (hbl : Blanks bl) :
    ∃ c', c'.rest = tail ∧ readText c expected = .ok (s, c') := by
  rw [List.append_assoc] at hc
  have hskip := Cursor.skipBlanks_rest (by rw [hc, ofString_quote, List.cons_append]) hbl (by decide)
  obtain ⟨c', hc', hread⟩ := Cursor.string_quote (c := c.skipBlanks)
    (by rw [hskip, ofString_quote, List.cons_append])
  refine ⟨c', hc', ?_⟩
  simp only [readText, Cursor.peek, hskip, List.head?_cons, if_true, hread, lift]

end Strings

section Numbers

variable {c : Cursor} {tail : List UInt8}

def Follows (bs : List UInt8) : Prop := ∀ b ∈ bs.head?, b = byte ',' ∨ b = byte '\n'

theorem Follows.not_digit {bs : List UInt8} (h : Follows bs) : ∀ b ∈ bs.head?, isDigit b = false := by
  intro b hb
  rcases h b hb with rfl | rfl <;> decide

theorem Follows.not_dot {bs : List UInt8} (h : Follows bs) : ∀ b ∈ bs.head?, b ≠ byte '.' := by
  intro b hb
  rcases h b hb with rfl | rfl <;> decide

theorem Follows.not_exponentMark {bs : List UInt8} (h : Follows bs) :
    ∀ b ∈ bs.head?, isExponentMark b = false := by
  intro b hb
  rcases h b hb with rfl | rfl <;> decide

theorem toNat_digit {d : Char} (h : d.isDigit = true) : 48 ≤ d.toNat ∧ d.toNat ≤ 57 :=
  ⟨(Numeric.digit_bounds h).1, (Numeric.digit_bounds h).2⟩

theorem isDigit_byte {d : Char} (h : d.isDigit = true) : isDigit (byte d) = true := by
  have hbounds := toNat_digit h
  have b : (byte d).toNat = d.toNat := toNat_toUInt8 (by omega)
  simp only [isDigit, Bool.and_eq_true, decide_eq_true_eq, UInt8.le_iff_toNat_le, b]
  exact ⟨hbounds.1, hbounds.2⟩

theorem digitValue_byte {d : Char} (h : d.isDigit = true) :
    digitValue (byte d) = d.toNat - '0'.toNat := by
  have hbounds := toNat_digit h
  simp only [digitValue, byte, toNat_toUInt8 (show d.toNat < 256 by omega)]
  rfl

theorem byte_ne_of_digit {d c : Char} (hd : d.isDigit = true) (hc : c.toNat < 48 ∨ 57 < c.toNat)
    (hsmall : c.toNat < 256) : byte d ≠ byte c := by
  have hbounds := toNat_digit hd
  intro e
  have hsame := congrArg UInt8.toNat e
  simp only [byte, toNat_toUInt8 (show d.toNat < 256 by omega), toNat_toUInt8 hsmall] at hsame
  omega

theorem ofString_toString_nat (n : Nat) : ofString (toString n) = (Nat.toDigits 10 n).map byte := by
  have hdigits : (toString n).toList = Nat.toDigits 10 n := Nat.toList_repr
  rw [ofString, hdigits]
  exact encode_ascii fun d hd => by
    have := toNat_digit (Numeric.isDigit_of_mem_toDigits hd)
    omega

theorem ofString_toString_negSucc (m : Nat) :
    ofString (toString (Int.negSucc m)) = byte '-' :: (Nat.toDigits 10 (m + 1)).map byte := by
  have htext : (toString (Int.negSucc m)).toList = '-' :: Nat.toDigits 10 (m + 1) := by
    simp only [toString, Int.repr, String.toList_append, Nat.toList_repr]
    rfl
  rw [ofString, htext]
  refine encode_ascii fun d hd => ?_
  rcases List.mem_cons.mp hd with rfl | hd
  · decide
  · have := toNat_digit (Numeric.isDigit_of_mem_toDigits hd)
    omega

/-- Digits whose value fits in 64 bits are read up to the first byte that is not a digit. -/
theorem integerDigits_digits (positive : Bool) :
    ∀ (ds : List Char) (sig line column : Nat), (∀ d ∈ ds, d.isDigit = true) →
      Nat.ofDigitChars 10 ds sig ≤ maxUnsigned → Follows tail →
      ∃ c' : Cursor, c'.rest = tail ∧ integerDigits positive sig line column (ds.map byte ++ tail) =
        numberTail c' positive (Nat.ofDigitChars 10 ds sig)
  | [], sig, line, column, _, _, ht => by
    refine ⟨⟨tail, line, column⟩, rfl, ?_⟩
    cases tail with
    | nil => rfl
    | cons b more =>
      have hstop := ht.not_digit b rfl
      simp only [List.map_nil, List.nil_append, integerDigits, hstop, Bool.false_eq_true, if_false]
      rfl
  | d :: ds, sig, line, column, hd, hmax, ht => by
    have hdigit := hd d List.mem_cons_self
    have hbound := Numeric.le_ofDigitChars ds (10 * sig + (d.toNat - '0'.toNat))
    rw [Nat.ofDigitChars_cons] at hmax ⊢
    obtain ⟨c', hc', hread⟩ := integerDigits_digits positive ds _ line (column + 1)
      (fun x hx => hd x (List.mem_cons_of_mem _ hx)) hmax ht
    refine ⟨c', hc', ?_⟩
    rw [List.map_cons, List.cons_append, integerDigits, if_pos (isDigit_byte hdigit),
      digitValue_byte hdigit]
    dsimp only
    rw [if_neg (by omega), hread]

theorem number_toDigits {n : Nat} (positive : Bool)
    (hc : c.rest = (Nat.toDigits 10 n).map byte ++ tail) (hn : n ≤ maxUnsigned) (ht : Follows tail) :
    ∃ c' : Cursor, c'.rest = tail ∧ number c positive = numberTail c' positive n := by
  rcases Nat.eq_zero_or_pos n with rfl | hpos
  · have hzero : Nat.toDigits 10 0 = ['0'] := by decide
    rw [hzero, List.map_cons, List.map_nil, List.cons_append, List.nil_append] at hc
    have hsingle : (tail.head?.any isDigit) = false := by
      cases h : tail.head? with
      | none => rfl
      | some b => simpa using ht.not_digit b h
    refine ⟨c.next, Cursor.rest_next hc, ?_⟩
    simp only [number, hc, if_true, hsingle, Bool.false_eq_true, if_false]
  · obtain ⟨d, ds, hd, hfirst⟩ := Numeric.toDigits_head_ne_zero n hpos
    have hdigits : ∀ x ∈ d :: ds, x.isDigit = true := fun x hx =>
      Numeric.isDigit_of_mem_toDigits (hd ▸ hx)
    have hdigit := hdigits d List.mem_cons_self
    have hlead : byte d ≠ byte '0' := fun e =>
      hfirst (byte_injective (by have := toNat_digit hdigit; omega) (by decide) e)
    have hvalue : Nat.ofDigitChars 10 ds (d.toNat - '0'.toNat) = n := by
      have hwhole := @Nat.ofDigitChars_ten_toDigits n
      rwa [hd, Nat.ofDigitChars_cons, Nat.mul_zero, Nat.zero_add] at hwhole
    rw [hd, List.map_cons, List.cons_append] at hc
    obtain ⟨c', hc', hread⟩ := integerDigits_digits positive ds _ c.next.line c.next.column
      (fun x hx => hdigits x (List.mem_cons_of_mem _ hx)) (hvalue ▸ hn) ht
    refine ⟨c', hc', ?_⟩
    simp only [number, hc, hlead, if_false, isDigit_byte hdigit, if_true, digitValue_byte hdigit, hread,
      hvalue]

theorem numberTail_unsigned (h : Follows c.rest) (n : Nat) :
    numberTail c true n = .ok (.unsigned n, c) := by
  have hdot : c.peek ≠ some (byte '.') := fun e => h.not_dot _ e rfl
  have hmark : c.peek.any isExponentMark = false := by
    cases e : c.peek with
    | none => rfl
    | some b => simpa using h.not_exponentMark b e
  simp [numberTail, hdot, hmark]

theorem numberTail_signed (h : Follows c.rest) {n : Nat} (hpos : 0 < n) (hle : n ≤ Nat.pow 2 63) :
    numberTail c false n = .ok (.signed (-(n : Int)), c) := by
  have hdot : c.peek ≠ some (byte '.') := fun e => h.not_dot _ e rfl
  have hmark : c.peek.any isExponentMark = false := by
    cases e : c.peek with
    | none => rfl
    | some b => simpa using h.not_exponentMark b e
  have hfits : ¬ (n = 0 ∨ n > Nat.pow 2 63) := by omega
  simp only [numberTail, hdot, hmark, if_false, Bool.false_eq_true, hfits]

end Numbers

section Delimiters

variable {c : Cursor} {tail bl : List UInt8}

/-- The letters of `null`, `true` or `false` after the first. -/
theorem ident_rest : ∀ (bs : List UInt8) (c : Cursor), c.rest = bs ++ tail →
    ∃ c' : Cursor, c'.rest = tail ∧ ident c bs = .ok c'
  | [], c, h => ⟨c, by simpa using h, rfl⟩
  | b :: bs, c, h => by
    obtain ⟨c', hc', hstep⟩ := ident_rest bs c.next (Cursor.rest_next (by rw [h, List.cons_append]))
    refine ⟨c', hc', ?_⟩
    simp only [ident, h, List.cons_append, if_true, hstep]

theorem openNested_ok {depth : Nat} (h : 1 < depth) : openNested depth c = .ok c.next := by
  simp only [openNested, if_neg (show ¬ depth ≤ 1 by omega)]

theorem nextKeyStart_first {more : List UInt8} (hc : c.rest = bl ++ byte '"' :: more) (hbl : Blanks bl) :
    ∃ c' : Cursor, c'.rest = byte '"' :: more ∧ nextKeyStart c true = .ok (some c') := by
  have hskip := Cursor.skipBlanks_rest hc hbl (by decide)
  refine ⟨c.skipBlanks, hskip, ?_⟩
  simp [nextKeyStart, Cursor.peek, hskip, bind, Except.bind, show byte '"' ≠ byte '\x7d' by decide,
    show byte '"' ≠ byte ',' by decide]

theorem nextKeyStart_later {more : List UInt8} (hc : c.rest = byte ',' :: (bl ++ byte '"' :: more))
    (hbl : Blanks bl) :
    ∃ c' : Cursor, c'.rest = byte '"' :: more ∧ nextKeyStart c false = .ok (some c') := by
  have hskip : c.skipBlanks.rest = byte ',' :: (bl ++ byte '"' :: more) :=
    Cursor.skipBlanks_at hc (by decide)
  have hafter := Cursor.skipBlanks_rest (Cursor.rest_next hskip) hbl (by decide)
  refine ⟨c.skipBlanks.next.skipBlanks, hafter, ?_⟩
  simp [nextKeyStart, Cursor.peek, hskip, hafter, bind, Except.bind,
    show byte ',' ≠ byte '\x7d' by decide]

theorem nextKeyStart_close {more : List UInt8} (hc : c.rest = bl ++ byte '\x7d' :: more)
    (hbl : Blanks bl) (first : Bool) : nextKeyStart c first = .ok none := by
  have hskip := Cursor.skipBlanks_rest hc hbl (by decide)
  simp [nextKeyStart, Cursor.peek, hskip]

theorem colon_rest {more : List UInt8} (hc : c.rest = byte ':' :: more) :
    ∃ c' : Cursor, c'.rest = more ∧ colon c = .ok c' := by
  have hskip : c.skipBlanks.rest = byte ':' :: more :=
    Cursor.skipBlanks_at hc (by decide)
  exact ⟨c.skipBlanks.next, Cursor.rest_next hskip, by simp [colon, hskip]⟩

theorem endMap_rest {more : List UInt8} (hc : c.rest = bl ++ byte '\x7d' :: more) (hbl : Blanks bl) :
    ∃ c' : Cursor, c'.rest = more ∧ endMap c = .ok c' := by
  have hskip := Cursor.skipBlanks_rest hc hbl (by decide)
  exact ⟨c.skipBlanks.next, Cursor.rest_next hskip, by simp [endMap, hskip]⟩

theorem endSeq_rest {more : List UInt8} (hc : c.rest = bl ++ byte ']' :: more) (hbl : Blanks bl) :
    ∃ c' : Cursor, c'.rest = more ∧ endSeq c = .ok c' := by
  have hskip := Cursor.skipBlanks_rest hc hbl (by decide)
  exact ⟨c.skipBlanks.next, Cursor.rest_next hskip, by simp [endSeq, hskip]⟩

theorem nextItem_first {b : UInt8} {more : List UInt8} (hc : c.rest = bl ++ b :: more)
    (hbl : Blanks bl) (hb : Cursor.isBlank b = false) (hclose : b ≠ byte ']') :
    ∃ c' : Cursor, c'.rest = b :: more ∧ nextItem c true = .ok (some c') := by
  have hskip := Cursor.skipBlanks_rest hc hbl hb
  exact ⟨c.skipBlanks, hskip, by simp [nextItem, hskip, hclose]⟩

theorem nextItem_later {b : UInt8} {more : List UInt8} (hc : c.rest = byte ',' :: (bl ++ b :: more))
    (hbl : Blanks bl) (hb : Cursor.isBlank b = false) (hclose : b ≠ byte ']') :
    ∃ c' : Cursor, c'.rest = b :: more ∧ nextItem c false = .ok (some c') := by
  have hskip : c.skipBlanks.rest = byte ',' :: (bl ++ b :: more) :=
    Cursor.skipBlanks_at hc (by decide)
  have hafter := Cursor.skipBlanks_rest (Cursor.rest_next hskip) hbl hb
  exact ⟨c.skipBlanks.next.skipBlanks, hafter,
    by simp [nextItem, hskip, hafter, hclose, show byte ',' ≠ byte ']' by decide]⟩

theorem nextItem_close {more : List UInt8} (hc : c.rest = bl ++ byte ']' :: more) (hbl : Blanks bl)
    (first : Bool) : nextItem c first = .ok none := by
  have hskip := Cursor.skipBlanks_rest hc hbl (by decide)
  simp [nextItem, hskip]

end Delimiters

end Signon.Json
