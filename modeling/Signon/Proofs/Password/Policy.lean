import Mathlib
import Signon.Proofs.Crypto.Compare

/-!
The password policy, outcome by outcome: a chosen password is judged on its normal form, rule by
rule in a fixed order, and a password typed to sign in is refused only when blank.
-/

namespace Signon

namespace Password

theorem isBlankText_iff {s : String} :
    Text.isBlankText s = true ↔ ∀ c ∈ s.toList, Text.isBlank c = true := by
  simp [Text.isBlankText]

theorem any_isForbidden_iff {s : String} :
    s.toList.any isForbidden = true ↔
      ∃ c ∈ s.toList, Text.isControl c = true ∧ c ≠ '\t' ∧ c ≠ '\n' := by
  simp [isForbidden, and_assoc]

/-- A chosen password's outcome, read off its normal form: the first rule it breaks, in the order
they are checked, or the normal form itself. -/
theorem fresh_eq (raw : String) :
    fresh raw =
      if ∀ c ∈ (Text.nfkc raw).toList, Text.isBlank c = true then .error .blank
      else if (Text.nfkc raw).length < 8 then .error (.tooShort 8 (Text.nfkc raw).length)
      else if 128 < (Text.nfkc raw).length then .error (.tooLong 128 (Text.nfkc raw).length)
      else if ∃ c ∈ (Text.nfkc raw).toList, Text.isControl c = true ∧ c ≠ '\t' ∧ c ≠ '\n' then
        .error .controlCharacter
      else .ok ⟨Text.nfkc raw⟩ := by
  simp only [fresh, minLength, maxLength, isBlankText_iff, any_isForbidden_iff]

theorem fresh_congr {raw raw' : String} (h : Text.nfkc raw = Text.nfkc raw') :
    fresh raw = fresh raw' := by
  simp only [fresh, h]

theorem text_of_fresh {raw : String} {s : Secret} (h : fresh raw = .ok s) :
    s.text = Text.nfkc raw := by
  rw [fresh_eq] at h
  split_ifs at h
  cases h
  rfl

theorem chosen_make_of_fresh_error {raw confirmation : String} {e : Rejection}
    (h : fresh raw = .error e) : Chosen.make raw confirmation = .error e := by
  simp [Chosen.make, h, bind, Except.bind]

theorem chosen_make_of_fresh_ok {raw confirmation : String} {s : Secret} (h : fresh raw = .ok s) :
    Chosen.make raw confirmation =
      if Text.nfkc confirmation = Text.nfkc raw then .ok ⟨s⟩ else .error .mismatch := by
  have htext := text_of_fresh h
  simp only [Chosen.make, h, bind, Except.bind, Secret.confirm, htext]
  by_cases hsame : Text.nfkc confirmation = Text.nfkc raw
  · simp [hsame, Crypto.textsMatch_iff, pure, Except.pure]
  · have hdiffer : Crypto.textsMatch (Text.nfkc raw) (Text.nfkc confirmation) = false :=
      Bool.eq_false_iff.mpr fun h => hsame (Crypto.textsMatch_iff.mp h).symm
    simp [hsame, hdiffer]

/-- The text a chosen password with its confirmation is accepted as: the normal form, when the
policy accepts it and the confirmation has the hsame normal form, and nothing otherwise. -/
theorem chosen_text (raw confirmation : String) :
    (Chosen.make raw confirmation).toOption.map (·.secret.text) =
      if (fresh raw).isOk ∧ Text.nfkc confirmation = Text.nfkc raw then some (Text.nfkc raw)
      else none := by
  cases h : fresh raw with
  | error e => simp [chosen_make_of_fresh_error h, Except.toOption, Except.isOk, Except.toBool]
  | ok s =>
    rw [chosen_make_of_fresh_ok h]
    by_cases hsame : Text.nfkc confirmation = Text.nfkc raw
    · simp [hsame, Except.toOption, Except.isOk, Except.toBool, text_of_fresh h]
    · simp [hsame, Except.toOption]

theorem chosen_text_comm (raw confirmation : String) :
    (Chosen.make raw confirmation).toOption.map (·.secret.text) =
      (Chosen.make confirmation raw).toOption.map (·.secret.text) := by
  rw [chosen_text, chosen_text]
  by_cases hsame : Text.nfkc confirmation = Text.nfkc raw
  · rw [fresh_congr hsame]
    simp [hsame]
  · simp [hsame, Ne.symm hsame]

theorem login_make_ok_iff {raw : String} :
    (∃ l, Login.make raw = .ok l) ↔ ∃ c ∈ raw.toList, Text.isBlank c = false := by
  unfold Login.make existing
  by_cases hblank : Text.isBlankText raw = true
  · simp only [hblank, if_true, Except.map, reduceCtorEq, exists_false, false_iff]
    rintro ⟨c, hc, hb⟩
    simp [isBlankText_iff.mp hblank c hc] at hb
  · simp only [hblank, Bool.false_eq_true, if_false, Except.map, Except.ok.injEq, exists_eq',
      true_iff]
    simpa [Text.isBlankText] using hblank

theorem text_of_login_make {raw : String} {l : Login} (h : Login.make raw = .ok l) :
    l.secret.text = raw := by
  unfold Login.make existing at h
  split_ifs at h <;> simp only [Except.map, reduceCtorEq, Except.ok.injEq] at h
  rw [← h]

/-- The password policy. A chosen password's outcome is the first rule its normal form breaks, in
the order blank, fewer than 8 code points, more than 128, a control character other than tab and
line feed, and otherwise the normal form itself. With a confirmation it is accepted exactly when
the policy accepts it and the confirmation has the same normal form, and then as that normal form;
a refusal of the policy comes before a mismatch, and two entries confirm each other in either order
or in neither, as the same text. A password to sign in is accepted exactly when it is not blank,
and is then kept as typed. -/
theorem policy_outcomes (raw confirmation : String) :
    fresh raw =
      (if ∀ c ∈ (Text.nfkc raw).toList, Text.isBlank c = true then .error .blank
      else if (Text.nfkc raw).length < 8 then .error (.tooShort 8 (Text.nfkc raw).length)
      else if 128 < (Text.nfkc raw).length then .error (.tooLong 128 (Text.nfkc raw).length)
      else if ∃ c ∈ (Text.nfkc raw).toList, Text.isControl c = true ∧ c ≠ '\t' ∧ c ≠ '\n' then
        .error .controlCharacter
      else .ok ⟨Text.nfkc raw⟩) ∧
    ((∃ p, Chosen.make raw confirmation = .ok p) ↔
      (fresh raw).isOk ∧ Text.nfkc confirmation = Text.nfkc raw) ∧
    (∀ p, Chosen.make raw confirmation = .ok p → p.secret.text = Text.nfkc raw) ∧
    (∀ e, fresh raw = .error e → Chosen.make raw confirmation = .error e) ∧
    (Chosen.make raw confirmation).toOption.map (·.secret.text) =
      (Chosen.make confirmation raw).toOption.map (·.secret.text) ∧
    ((∃ l, Login.make raw = .ok l) ↔ ∃ c ∈ raw.toList, Text.isBlank c = false) ∧
    (∀ l, Login.make raw = .ok l → l.secret.text = raw) := by
  have haccepted := chosen_text raw confirmation
  refine ⟨fresh_eq raw, ⟨fun ⟨p, hp⟩ => ?_, fun hok => ?_⟩, fun p hp => ?_,
    fun _ h => chosen_make_of_fresh_error h, chosen_text_comm raw confirmation, login_make_ok_iff,
    fun _ h => text_of_login_make h⟩
  · rw [hp] at haccepted
    by_contra hfails
    simp [Except.toOption, hfails] at haccepted
  · rw [if_pos hok] at haccepted
    cases hc : Chosen.make raw confirmation with
    | ok p => exact ⟨p, rfl⟩
    | error e => simp [hc, Except.toOption] at haccepted
  · rw [hp] at haccepted
    split_ifs at haccepted
    · simpa [Except.toOption] using haccepted
    · simp [Except.toOption] at haccepted

end Password

end Signon
