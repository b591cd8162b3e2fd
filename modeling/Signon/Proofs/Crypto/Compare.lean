import Mathlib
import Signon.Token.Basic
import Signon.Password.Policy

/-!
Comparing secrets byte for byte. The fold of differences is zero exactly when every pair it
visits agrees, so the comparison, lengths first, decides equality.
-/

namespace Signon

namespace Crypto

theorem toList_loop (bs : ByteArray) (i : Nat) (r : List UInt8) :
    ByteArray.toList.loop bs i r = r.reverse ++ bs.data.toList.drop i := by
  fun_induction ByteArray.toList.loop bs i r with
  | case1 i r hlt ih =>
    have hlen : i < bs.data.toList.length := by simpa using hlt
    have hget : bs.get! i = bs.data[i]! := by cases bs; rfl
    rw [ih, List.drop_eq_getElem_cons hlen, hget, getElem!_pos bs.data i hlt]
    simp
  | case2 i r hge =>
    rw [List.drop_eq_nil_of_le (by simp only [Array.length_toList]; exact Nat.le_of_not_lt hge)]
    simp

theorem byteArray_eq_of_toList {a b : ByteArray} (h : a.toList = b.toList) : a = b := by
  rw [ByteArray.toList, ByteArray.toList, toList_loop, toList_loop] at h
  simp only [List.reverse_nil, List.nil_append, List.drop_zero] at h
  cases a
  cases b
  simp only [ByteArray.mk.injEq]
  exact Array.toList_inj.mp h

/-- The fold's invariant: the folded difference is zero exactly when the accumulator is and every
pair of bytes it visits agrees. The fold stops at the end of the shorter string. -/
theorem foldDifference_eq_zero_iff : ∀ (acc : UInt8) (xs ys : List UInt8),
    foldDifference acc xs ys = 0 ↔ acc = 0 ∧ ∀ p ∈ xs.zip ys, p.1 = p.2
  | acc, x :: xs, y :: ys => by
    rw [foldDifference, foldDifference_eq_zero_iff, UInt8.or_eq_zero_iff, UInt8.xor_eq_zero_iff,
      List.zip_cons_cons, List.forall_mem_cons]
    tauto
  | acc, [], _ => by simp [foldDifference]
  | acc, _ :: _, [] => by simp [foldDifference]

/-- Strings of one length are equal exactly when they agree pair by pair. -/
theorem pairs_agree_iff : ∀ {xs ys : List UInt8}, xs.length = ys.length →
    ((∀ p ∈ xs.zip ys, p.1 = p.2) ↔ xs = ys)
  | [], [], _ => by simp
  | x :: xs, y :: ys, h => by
    rw [List.zip_cons_cons, List.forall_mem_cons, pairs_agree_iff (by simpa using h),
      List.cons.injEq]

theorem bytesMatch_iff {a b : List UInt8} : bytesMatch a b = true ↔ a = b := by
  unfold bytesMatch
  by_cases hl : a.length = b.length
  · rw [← pairs_agree_iff hl]
    simp [hl, foldDifference_eq_zero_iff]
  · have hlengths : (a.length == b.length) = false := by simpa using hl
    simp only [hlengths, Bool.false_and, Bool.false_eq_true, false_iff]
    exact fun e => hl (congrArg List.length e)

theorem textsMatch_iff {a b : String} : textsMatch a b = true ↔ a = b := by
  rw [textsMatch, bytesMatch_iff]
  constructor
  · intro h
    exact String.toByteArray_inj.mp (byteArray_eq_of_toList h)
  · rintro rfl
    rfl

theorem textsMatch_eq_decide (a b : String) : textsMatch a b = decide (a = b) :=
  Bool.eq_iff_iff.mpr (by simp [textsMatch_iff])

/-- The comparison without an early exit decides equality. The fold of differences ends at zero
exactly when every pair of bytes it visits agrees; byte strings, of any lengths, match exactly
when they are equal, and so do texts, access tokens and refresh tokens. A secret is confirmed by a
second entry exactly when the entry's normal form has the secret's bytes, and is kept as it is. -/
theorem comparison_decides_equality :
    (∀ xs ys : List UInt8, foldDifference 0 xs ys = 0 ↔ ∀ p ∈ xs.zip ys, p.1 = p.2) ∧
    (∀ a b : List UInt8, bytesMatch a b = decide (a = b)) ∧
    (∀ a b : String, textsMatch a b = decide (a = b)) ∧
    (∀ a b : AccessToken, a.same b = decide (a = b)) ∧
    (∀ a b : RefreshToken, a.same b = decide (a = b)) ∧
    (∀ (s : Password.Secret) (confirmation : String),
      s.confirm confirmation =
        if s.text = Text.nfkc confirmation then .ok s else .error .mismatch) := by
  refine ⟨fun xs ys => ?_, fun a b => Bool.eq_iff_iff.mpr ?_, textsMatch_eq_decide,
    fun a b => ?_, fun a b => ?_, fun s confirmation => ?_⟩
  · simp [foldDifference_eq_zero_iff]
  · simpa using bytesMatch_iff
  · rw [AccessToken.same, textsMatch_eq_decide]
    cases a
    cases b
    simp
  · rw [RefreshToken.same, textsMatch_eq_decide]
    cases a
    cases b
    simp
  · rw [Password.Secret.confirm, textsMatch_eq_decide]
    simp only [decide_eq_true_eq]

end Crypto

end Signon
