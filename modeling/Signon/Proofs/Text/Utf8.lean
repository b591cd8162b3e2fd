import Mathlib
import Signon.Text.Utf8

/-!
UTF-8 decoding reads back what encoding writes.
-/

namespace Signon.Text.Utf8

theorem toNat_toUInt8 {n : Nat} (h : n < 256) : n.toUInt8.toNat = n := by
  simp [Nat.mod_eq_of_lt h]

theorem isContinuation_toUInt8 {p : Nat} (h : p < 64) :
    isContinuation (0x80 + p).toUInt8 = true := by
  simp only [isContinuation, toNat_toUInt8 (show 0x80 + p < 256 by omega), Bool.and_eq_true,
    decide_eq_true_eq]
  omega

theorem payload_toUInt8 {p : Nat} (h : p < 64) : payload (0x80 + p).toUInt8 = p := by
  unfold payload
  rw [toNat_toUInt8 (by omega)]
  omega

section Decode

variable {b b1 b2 b3 : UInt8} {rest : List UInt8} {m : Nat}

theorem decode?_one (h : b.toNat < 0x80) :
    decode? (b :: rest) = (decode? rest).map (Char.ofNat b.toNat :: ·) := by
  rw [decode?.eq_def]
  simp only [h, if_true]

theorem decode?_two (hlo : 0xC2 ≤ b.toNat) (hi : b.toNat < 0xE0) (h1 : isContinuation b1 = true)
    (hm : (b.toNat - 0xC0) * 64 + payload b1 = m) :
    decode? (b :: b1 :: rest) = (decode? rest).map (Char.ofNat m :: ·) := by
  rw [decode?.eq_def]
  simp only [show ¬ b.toNat < 0x80 by omega, show ¬ b.toNat < 0xC2 by omega, hi, h1, hm, if_true,
    if_false]

theorem decode?_three (hlo : 0xE0 ≤ b.toNat) (hi : b.toNat < 0xF0) (h1 : isContinuation b1 = true)
    (h2 : isContinuation b2 = true)
    (hm : (b.toNat - 0xE0) * 4096 + payload b1 * 64 + payload b2 = m)
    (hleast : 0x800 ≤ m) (hscalar : m < 0xD800 ∨ 0xE000 ≤ m) :
    decode? (b :: b1 :: b2 :: rest) = (decode? rest).map (Char.ofNat m :: ·) := by
  have hfits : (isContinuation b1 && isContinuation b2 && decide (0x800 ≤ m) &&
      !(decide (0xD800 ≤ m) && decide (m < 0xE000))) = true := by
    simp only [h1, h2, Bool.true_and, Bool.and_eq_true, decide_eq_true_eq, Bool.not_eq_true',
      Bool.and_eq_false_iff, decide_eq_false_iff_not]
    omega
  rw [decode?.eq_def]
  simp only [show ¬ b.toNat < 0x80 by omega, show ¬ b.toNat < 0xC2 by omega,
    show ¬ b.toNat < 0xE0 by omega, hi, hm, hfits, if_true, if_false]

theorem decode?_four (hlo : 0xF0 ≤ b.toNat) (hi : b.toNat < 0xF5) (h1 : isContinuation b1 = true)
    (h2 : isContinuation b2 = true) (h3 : isContinuation b3 = true)
    (hm : (b.toNat - 0xF0) * 262144 + payload b1 * 4096 + payload b2 * 64 + payload b3 = m)
    (hleast : 0x10000 ≤ m) (hmost : m < 0x110000) :
    decode? (b :: b1 :: b2 :: b3 :: rest) = (decode? rest).map (Char.ofNat m :: ·) := by
  have hfits : (isContinuation b1 && isContinuation b2 && isContinuation b3 &&
      decide (0x10000 ≤ m) && decide (m < 0x110000)) = true := by
    simp only [h1, h2, h3, Bool.true_and, Bool.and_eq_true, decide_eq_true_eq]
    omega
  rw [decode?.eq_def]
  simp only [show ¬ b.toNat < 0x80 by omega, show ¬ b.toNat < 0xC2 by omega,
    show ¬ b.toNat < 0xE0 by omega, show ¬ b.toNat < 0xF0 by omega, hi, hm, hfits, if_true,
    if_false]

end Decode

theorem toNat_valid (c : Char) : c.toNat < 0xD800 ∨ (0xDFFF < c.toNat ∧ c.toNat < 0x110000) := by
  have := c.valid
  simp only [Char.toNat] at this ⊢
  omega

theorem decode?_encodeChar_append (c : Char) (rest : List UInt8) :
    decode? (encodeChar c ++ rest) = (decode? rest).map (c :: ·) := by
  have hvalid := toNat_valid c
  have hback : Char.ofNat c.toNat = c := Char.ofNat_toNat c
  unfold encodeChar
  dsimp only
  split_ifs with h1 h2 h3
  · have hb0 : c.toNat.toUInt8.toNat = c.toNat := toNat_toUInt8 (by omega)
    rw [List.singleton_append, decode?_one (by rw [hb0]; exact h1), hb0, hback]
  · have hb0 : (0xC0 + c.toNat / 64).toUInt8.toNat = 0xC0 + c.toNat / 64 :=
      toNat_toUInt8 (by omega)
    rw [List.cons_append, List.cons_append, List.nil_append,
      decode?_two (m := c.toNat) (by rw [hb0]; omega) (by rw [hb0]; omega)
        (isContinuation_toUInt8 (by omega)) (by rw [hb0, payload_toUInt8 (by omega)]; omega),
      hback]
  · have hb0 : (0xE0 + c.toNat / 4096).toUInt8.toNat = 0xE0 + c.toNat / 4096 :=
      toNat_toUInt8 (by omega)
    rw [List.cons_append, List.cons_append, List.cons_append, List.nil_append,
      decode?_three (m := c.toNat) (by rw [hb0]; omega) (by rw [hb0]; omega)
        (isContinuation_toUInt8 (by omega)) (isContinuation_toUInt8 (by omega))
        (by rw [hb0, payload_toUInt8 (by omega), payload_toUInt8 (by omega)]; omega) (by omega)
        (by omega), hback]
  · have hb0 : (0xF0 + c.toNat / 262144).toUInt8.toNat = 0xF0 + c.toNat / 262144 :=
      toNat_toUInt8 (by omega)
    rw [List.cons_append, List.cons_append, List.cons_append, List.cons_append, List.nil_append,
      decode?_four (m := c.toNat) (by rw [hb0]; omega) (by rw [hb0]; omega)
        (isContinuation_toUInt8 (by omega)) (isContinuation_toUInt8 (by omega))
        (isContinuation_toUInt8 (by omega))
        (by rw [hb0, payload_toUInt8 (by omega), payload_toUInt8 (by omega),
          payload_toUInt8 (by omega)]; omega) (by omega) (by omega), hback]

theorem decode?_encode_append (cs : List Char) (rest : List UInt8) :
    decode? (encode cs ++ rest) = (decode? rest).map (cs ++ ·) := by
  induction cs with
  | nil => simp [encode]
  | cons c cs ih =>
    rw [encode, List.flatMap_cons, List.append_assoc, decode?_encodeChar_append, ← encode, ih,
      Option.map_map]
    rfl

theorem toString?_encode (cs : List Char) : toString? (encode cs) = some (String.ofList cs) := by
  have hwhole := decode?_encode_append cs []
  rw [List.append_nil] at hwhole
  simp [toString?, hwhole, decode?]

theorem toString?_ascii {bs : List UInt8} (h : ∀ b ∈ bs, b.toNat < 0x80) :
    toString? bs = some (String.ofList (bs.map fun b => Char.ofNat b.toNat)) := by
  have heach : decode? bs = some (bs.map fun b => Char.ofNat b.toNat) := by
    induction bs with
    | nil => rfl
    | cons b bs ih =>
      rw [decode?_one (h b List.mem_cons_self), ih fun b hb => h b (List.mem_cons_of_mem _ hb)]
      rfl
  simp [toString?, heach]

theorem toString?_ofString (s : String) : toString? (ofString s) = some s := by
  rw [ofString, toString?_encode, String.ofList_toList]

theorem ofString_injective {s t : String} (h : ofString s = ofString t) : s = t := by
  have hback := toString?_ofString s
  rw [h, toString?_ofString] at hback
  exact (Option.some.inj hback).symm

theorem ofString_append (a b : String) : ofString (a ++ b) = ofString a ++ ofString b := by
  simp [ofString, encode]

theorem encodeChar_of_lt {c : Char} (h : c.toNat < 0x80) : encodeChar c = [c.toNat.toUInt8] := by
  simp [encodeChar, h]

theorem le_of_mem_encodeChar {c : Char} {b : UInt8} (h : 0x80 ≤ c.toNat)
    (hb : b ∈ encodeChar c) : 0x80 ≤ b.toNat := by
  have hvalid := toNat_valid c
  unfold encodeChar at hb
  dsimp only at hb
  split_ifs at hb <;> simp only [List.mem_cons, List.not_mem_nil, or_false] at hb <;>
    rcases hb with rfl | rfl | rfl | rfl <;> rw [toNat_toUInt8 (by omega)] <;> omega

end Signon.Text.Utf8
