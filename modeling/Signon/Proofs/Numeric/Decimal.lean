import Mathlib
import Signon.Numeric.Integer

/-!
Decimal digits as the numeric readers take them: a 64-bit integer written out reads back as
itself.
-/

namespace Signon.Numeric

theorem le_ofDigitChars (l : List Char) (init : Nat) : init ≤ Nat.ofDigitChars 10 l init := by
  rw [Nat.ofDigitChars_eq_ofDigitChars_zero]
  have : 1 ≤ 10 ^ l.length := Nat.one_le_pow _ _ (by decide)
  calc init = 1 * init := (Nat.one_mul _).symm
    _ ≤ 10 ^ l.length * init := Nat.mul_le_mul_right _ this
    _ ≤ _ := Nat.le_add_right _ _

theorem digit_bounds {c : Char} (h : c.isDigit = true) : '0' ≤ c ∧ c ≤ '9' := by
  simp only [Char.isDigit, Bool.and_eq_true, decide_eq_true_eq] at h
  exact ⟨h.1, h.2⟩

/-- Digits read upwards from `acc` give their value, when no prefix passes the upper bound. -/
theorem readDigits_up {lo hi : Int} :
    ∀ (cs : List Char) (acc : Nat), (∀ c ∈ cs, c.isDigit = true) →
      (Nat.ofDigitChars 10 cs acc : Int) ≤ hi →
      readDigits true lo hi acc cs = .ok (Nat.ofDigitChars 10 cs acc)
  | [], acc, _, _ => rfl
  | c :: rest, acc, hd, hhi => by
    have hdigit := digit_bounds (hd c List.mem_cons_self)
    have hstep : (acc : Int) * 10 + ((c.toNat : Int) - ('0'.toNat : Int)) =
        ((10 * acc + (c.toNat - '0'.toNat) : Nat) : Int) := by
      have : '0'.toNat ≤ c.toNat := hdigit.1
      omega
    rw [Nat.ofDigitChars_cons] at hhi ⊢
    have hbound := le_ofDigitChars rest (10 * acc + (c.toNat - '0'.toNat))
    simp only [readDigits, hdigit, and_self, if_true, hstep]
    rw [if_neg (by omega)]
    exact readDigits_up rest _ (fun x hx => hd x (List.mem_cons_of_mem _ hx)) hhi

/-- Digits read downwards from `-acc` give the negated value, when no prefix passes the lower
bound. -/
theorem readDigits_down {lo hi : Int} :
    ∀ (cs : List Char) (acc : Nat), (∀ c ∈ cs, c.isDigit = true) →
      lo ≤ -(Nat.ofDigitChars 10 cs acc : Int) →
      readDigits false lo hi (-(acc : Int)) cs = .ok (-(Nat.ofDigitChars 10 cs acc : Int))
  | [], acc, _, _ => rfl
  | c :: rest, acc, hd, hlo => by
    have hdigit := digit_bounds (hd c List.mem_cons_self)
    have hstep : -(acc : Int) * 10 - ((c.toNat : Int) - ('0'.toNat : Int)) =
        -((10 * acc + (c.toNat - '0'.toNat) : Nat) : Int) := by
      have : '0'.toNat ≤ c.toNat := hdigit.1
      omega
    rw [Nat.ofDigitChars_cons] at hlo ⊢
    have hbound := le_ofDigitChars rest (10 * acc + (c.toNat - '0'.toNat))
    simp only [readDigits, hdigit, and_self, if_true, hstep, Bool.false_eq_true, if_false]
    rw [if_neg (by omega)]
    exact readDigits_down rest _ (fun x hx => hd x (List.mem_cons_of_mem _ hx)) hlo

/-- Whatever digits read to stays between the bounds, on the side of zero the sign gives. -/
theorem readDigits_bounds {positive : Bool} {lo hi r : Int} (hlo : lo ≤ 0) (hhi : 0 ≤ hi) :
    ∀ (cs : List Char) (acc : Int), lo ≤ acc → acc ≤ hi →
      (positive = true → 0 ≤ acc) → (positive = false → acc ≤ 0) →
      readDigits positive lo hi acc cs = .ok r → lo ≤ r ∧ r ≤ hi
  | [], acc, hlo_acc, hacc_hi, _, _, h => by
    cases h
    exact ⟨hlo_acc, hacc_hi⟩
  | c :: rest, acc, _, _, hup, hdown, h => by
    unfold readDigits at h
    split at h
    · rename_i hdigit
      have : '0'.toNat ≤ c.toNat := hdigit.1
      split at h
      · rename_i hp
        have := hup hp
        dsimp only at h
        split at h
        · cases h
        · exact readDigits_bounds hlo hhi rest _ (by omega) (by omega) (fun _ => by omega)
            (fun hf => absurd (hp.symm.trans hf) Bool.noConfusion) h
      · rename_i hp
        have := hdown (by simpa using hp)
        dsimp only at h
        split at h
        · cases h
        · exact readDigits_bounds hlo hhi rest _ (by omega) (by omega)
            (fun ht => absurd ht hp) (fun _ => by omega) h
    · cases h

theorem readI64_bounds {s : String} {a : Int} (h : readI64 s = .ok a) :
    -2 ^ 63 ≤ a ∧ a < 2 ^ 63 := by
  have hpow : Int.pow 2 63 = 2 ^ 63 := rfl
  have hfits : ∀ positive cs, readDigits positive (-(Int.pow 2 63)) (Int.pow 2 63 - 1) 0 cs = .ok a →
      -2 ^ 63 ≤ a ∧ a < 2 ^ 63 := fun positive cs h => by
    have := readDigits_bounds (by rw [hpow]; omega) (by rw [hpow]; omega) cs 0
      (by rw [hpow]; omega) (by rw [hpow]; omega) (fun _ => Int.le_refl 0) (fun _ => Int.le_refl 0) h
    rw [hpow] at this
    omega
  unfold readI64 readInt at h
  split at h
  · cases h
  · cases h
  · cases h
  · exact hfits _ _ h
  · split at h
    · exact hfits _ _ h
    · cases h
  · exact hfits _ _ h

theorem isDigit_of_mem_toDigits {n : Nat} {c : Char} (h : c ∈ Nat.toDigits 10 n) :
    c.isDigit = true :=
  Nat.isDigit_of_mem_toDigits (by decide) (by decide) h

/-- A positive number is written without a leading zero. -/
theorem toDigits_head_ne_zero : ∀ n : Nat, 0 < n → ∃ d ds, Nat.toDigits 10 n = d :: ds ∧ d ≠ '0'
  | n, hn => by
    rw [Nat.toDigits_eq_if (by decide)]
    split
    · exact ⟨_, [], rfl, by simpa using Nat.pos_iff_ne_zero.mp hn⟩
    · obtain ⟨d, ds, h, hd⟩ := toDigits_head_ne_zero (n / 10) (by omega)
      exact ⟨d, ds ++ [Nat.digitChar (n % 10)], by rw [h, List.cons_append], hd⟩

theorem mem_toString {a : Int} {c : Char} (h : c ∈ (toString a).toList) :
    c.isDigit = true ∨ c = '-' := by
  cases a with
  | ofNat m =>
    simp only [toString, Int.repr, Nat.toList_repr] at h
    exact .inl (isDigit_of_mem_toDigits h)
  | negSucc m =>
    simp only [toString, Int.repr, String.toList_append, Nat.toList_repr, List.mem_append] at h
    rcases h with h | h
    · exact .inr (by simpa using h)
    · exact .inl (isDigit_of_mem_toDigits h)

theorem readI64_toString {a : Int} (hlo : -2 ^ 63 ≤ a) (hi : a < 2 ^ 63) :
    readI64 (toString a) = .ok a := by
  have hdigits : ∀ n : Nat, ∀ c ∈ Nat.toDigits 10 n, c.isDigit = true :=
    fun _ _ => isDigit_of_mem_toDigits
  have hpow : Int.pow 2 63 = 2 ^ 63 := rfl
  cases a with
  | ofNat m =>
    obtain ⟨d, ds, hd⟩ : ∃ d ds, Nat.toDigits 10 m = d :: ds :=
      List.exists_cons_of_ne_nil Nat.toDigits_ne_nil
    have hfirst := digit_bounds (hdigits m d (hd ▸ List.mem_cons_self))
    have hplus : d ≠ '+' := fun h => by subst h; simp at hfirst
    have hminus : d ≠ '-' := fun h => by subst h; simp at hfirst
    have hread := @readDigits_up (-(Int.pow 2 63)) (Int.pow 2 63 - 1) _ 0 (hdigits m)
      (by rw [Nat.ofDigitChars_ten_toDigits, hpow]; simp only [Int.ofNat_eq_natCast] at hi; omega)
    rw [Nat.ofDigitChars_ten_toDigits, hd] at hread
    simp only [readI64, readInt, toString, Int.repr, Nat.toList_repr, hd]
    split <;> simp_all
  | negSucc m =>
    obtain ⟨d, ds, hd⟩ : ∃ d ds, Nat.toDigits 10 (m + 1) = d :: ds :=
      List.exists_cons_of_ne_nil Nat.toDigits_ne_nil
    have hread := @readDigits_down (-(Int.pow 2 63)) (Int.pow 2 63 - 1) _ 0 (hdigits (m + 1))
      (by rw [Nat.ofDigitChars_ten_toDigits, hpow]; rw [Int.negSucc_eq] at hlo; omega)
    rw [Nat.ofDigitChars_ten_toDigits, hd] at hread
    simp only [readI64, readInt, toString, Int.repr, String.toList_append, Nat.toList_repr, hd]
    simpa [Int.negSucc_eq] using hread

end Signon.Numeric
