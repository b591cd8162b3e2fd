import Mathlib
import Signon.Text.Lowercase
import Signon.Proofs.Session.Restore

/-!
Lowercasing twice is lowercasing once, and lowercasing keeps a trimmed text trimmed.
-/

namespace Signon.Text

/-! ### The table -/

theorem findEntry_sound {t : Array Entry} {k lo hi : Nat} {e : Entry}
    (h : findEntry t k lo hi = some e) : e ∈ t ∧ e.lo ≤ k ∧ k ≤ e.hi := by
  fun_induction findEntry t k lo hi with
  | case1 lo hi _ mid hmid => simp at h
  | case2 lo hi _ mid e' hmid hk ih => exact ih h
  | case3 lo hi _ mid e' hmid hk hk' ih => exact ih h
  | case4 lo hi _ mid e' hmid hk hk' =>
    cases h
    exact ⟨Array.mem_of_getElem? hmid, by omega, by omega⟩
  | case5 => simp at h

theorem mem_lowercasePairs_of_lookup {k : Nat} {e : Entry}
    (h : lookup lowercaseTable k = some e) : (k, e.payload) ∈ lowercasePairs := by
  obtain ⟨hmem, hlo, hi⟩ := findEntry_sound h
  simp only [lowercaseTable, List.mem_toArray, List.mem_map] at hmem
  obtain ⟨⟨key, form⟩, hpair, rfl⟩ := hmem
  have hsame : k = key := by simp only at hlo hi; omega
  subst hsame
  exact hpair

def lowercaseKeys : Nat :=
  lowercasePairs.foldl (fun m kp => m ||| 1 <<< kp.1) 0

theorem testBit_foldl_keys (pairs : List (Nat × List Nat)) (m p : Nat) :
    (pairs.foldl (fun m kp => m ||| 1 <<< kp.1) m).testBit p =
      (m.testBit p || pairs.any fun kp => kp.1 == p) := by
  induction pairs generalizing m with
  | nil => simp
  | cons kp pairs ih =>
    rw [List.foldl_cons, ih, Nat.testBit_or, Nat.one_shiftLeft, Nat.testBit_two_pow,
      List.any_cons, Bool.or_assoc]
    congr 2

theorem not_mem_lowercasePairs {p : Nat} (h : lowercaseKeys.testBit p = false) (form : List Nat) :
    (p, form) ∉ lowercasePairs := by
  intro hmem
  rw [lowercaseKeys, testBit_foldl_keys, Nat.zero_testBit, Bool.false_or] at h
  have hfound : (lowercasePairs.any fun kp => kp.1 == p) = true :=
    List.any_eq_true.mpr ⟨(p, form), hmem, beq_self_eq_true p⟩
  rw [h] at hfound
  exact Bool.false_ne_true hfound

/-- A code point whose character lowercasing leaves alone, and that neither trimming nor the
final-sigma rule sees: a character, not blank, not an ASCII capital, not capital sigma, and no key
of the table. -/
def settledCode (p : Nat) : Bool :=
  p.isValidChar && !isBlank (Char.ofNat p) && !(0x41 ≤ p && p ≤ 0x5A) && p != 0x3A3 &&
    (p < 0x80 || !lowercaseKeys.testBit p)

theorem lowercaseForms_settled :
    lowercasePairs.all (fun kp => !kp.2.isEmpty && kp.2.all settledCode) = true := by
  decide +kernel

/-! ### One character -/

/-- A character that lowercasing leaves alone and that the final-sigma rule does not see. -/
structure Settled (c : Char) : Prop where
  not_sigma : c ≠ 'Σ'
  fixed : lowercaseChar c = [c]

theorem toNat_ofNat_of_settled {p : Nat} (h : settledCode p = true) : (Char.ofNat p).toNat = p := by
  have hvalid : p.isValidChar := by simp_all [settledCode]
  rw [Char.toNat_ofNat, if_pos hvalid]

theorem settled_ofNat {p : Nat} (h : settledCode p = true) :
    Settled (Char.ofNat p) ∧ isBlank (Char.ofNat p) = false := by
  have hcode := toNat_ofNat_of_settled h
  simp only [settledCode, Bool.and_eq_true, Bool.not_eq_eq_eq_not, Bool.not_true,
    decide_eq_true_eq, Bool.or_eq_true, bne_iff_ne, ne_eq] at h
  obtain ⟨⟨⟨⟨-, hblank⟩, hcapital⟩, hsigma⟩, hunkeyed⟩ := h
  refine ⟨⟨fun heq => hsigma ?_, ?_⟩, hblank⟩
  · rw [← hcode, heq]
    rfl
  · unfold lowercaseChar
    have hnot_capital : ¬('A' ≤ Char.ofNat p ∧ Char.ofNat p ≤ 'Z') := by
      simp only [Char.le_def, UInt32.le_iff_toNat_le] at hcapital ⊢
      simp only [Char.toNat] at hcode
      simp_all
    rw [if_neg hnot_capital]
    split
    · rfl
    · rename_i high
      have hnone : lookup lowercaseTable (Char.ofNat p).toNat = none := by
        cases hfound : lookup lowercaseTable (Char.ofNat p).toNat with
        | none => rfl
        | some e =>
          have hmem := mem_lowercasePairs_of_lookup hfound
          rw [hcode] at hmem
          exact absurd hmem (not_mem_lowercasePairs (hunkeyed.resolve_left (by omega)) _)
      rw [hnone]

/-- What lowercasing makes of one character outside the final-hsigma rule: the character itself,
or a non-empty form of settled code points. -/
theorem lowercaseChar_cases (c : Char) :
    lowercaseChar c = [c] ∨
      ∃ form : List Nat, form ≠ [] ∧ (∀ p ∈ form, settledCode p = true) ∧
        lowercaseChar c = form.map Char.ofNat := by
  unfold lowercaseChar
  split
  · rename_i hcapital
    have hrange : 65 ≤ c.toNat ∧ c.toNat ≤ 90 := by
      simp only [Char.le_def, UInt32.le_iff_toNat_le] at hcapital
      exact hcapital
    have hsmall : ∀ n < 26, settledCode (97 + n) = true := by decide
    refine .inr ⟨[c.toNat + 32], List.cons_ne_nil _ _, ?_, rfl⟩
    intro p hp
    rw [List.mem_singleton.mp hp, show c.toNat + 32 = 97 + (c.toNat - 65) by omega]
    exact hsmall _ (by omega)
  · split
    · exact .inl rfl
    · split
      · rename_i e hfound
        have heach :=
          List.all_eq_true.mp lowercaseForms_settled _ (mem_lowercasePairs_of_lookup hfound)
        simp only [Bool.and_eq_true, Bool.not_eq_eq_eq_not, Bool.not_true,
          List.isEmpty_eq_false_iff, List.all_eq_true] at heach
        exact .inr ⟨e.payload, heach.1, heach.2, rfl⟩
      · exact .inl rfl

theorem lowercaseFrom_cons (before : List Char) (c : Char) (rest : List Char) :
    lowercaseFrom before (c :: rest) =
      (if c = 'Σ' then
        if casedAfterIgnorable before && !casedAfterIgnorable rest then ['ς'] else ['σ']
      else lowercaseChar c) ++ lowercaseFrom (c :: before) rest := rfl

theorem sigmas_settled : settledCode 0x3C2 = true ∧ settledCode 0x3C3 = true := by
  decide +kernel

theorem written_cons (before : List Char) (c : Char) (rest : List Char) :
    ∃ here, lowercaseFrom before (c :: rest) = here ++ lowercaseFrom (c :: before) rest ∧
      here ≠ [] ∧ ∀ d ∈ here, Settled d ∧ (isBlank c = false → isBlank d = false) := by
  refine ⟨_, lowercaseFrom_cons before c rest, ?_⟩
  split
  · have hfinal := settled_ofNat sigmas_settled.1
    have hmedial := settled_ofNat sigmas_settled.2
    have ς_eq : Char.ofNat 0x3C2 = 'ς' := by decide
    have σ_eq : Char.ofNat 0x3C3 = 'σ' := by decide
    rw [ς_eq] at hfinal
    rw [σ_eq] at hmedial
    split <;> simp only [ne_eq, List.cons_ne_nil, not_false_eq_true, List.mem_singleton,
      forall_eq, true_and]
    · exact ⟨hfinal.1, fun _ => hfinal.2⟩
    · exact ⟨hmedial.1, fun _ => hmedial.2⟩
  · rename_i hnot_sigma
    rcases lowercaseChar_cases c with hsame | ⟨form, hnonempty, hsettled, heq⟩
    · rw [hsame]
      simp only [ne_eq, List.cons_ne_nil, not_false_eq_true, List.mem_singleton, forall_eq,
        true_and]
      exact ⟨⟨hnot_sigma, hsame⟩, id⟩
    · rw [heq]
      refine ⟨by simpa using hnonempty, ?_⟩
      intro d hd
      obtain ⟨p, hp, rfl⟩ := List.mem_map.mp hd
      exact ⟨(settled_ofNat (hsettled p hp)).1, fun _ => (settled_ofNat (hsettled p hp)).2⟩

/-! ### Whole texts -/

theorem settled_of_mem_lowercaseFrom (before cs : List Char) :
    ∀ d ∈ lowercaseFrom before cs, Settled d := by
  induction cs generalizing before with
  | nil => simp [lowercaseFrom]
  | cons c rest ih =>
    obtain ⟨here, heq, -, heach⟩ := written_cons before c rest
    rw [heq]
    intro d hd
    rcases List.mem_append.mp hd with hmine | hlater
    · exact (heach d hmine).1
    · exact ih _ d hlater

theorem lowercaseFrom_of_settled {cs : List Char} (h : ∀ d ∈ cs, Settled d)
    (before : List Char) :
    lowercaseFrom before cs = cs := by
  induction cs generalizing before with
  | nil => rfl
  | cons c rest ih =>
    have hc := h c List.mem_cons_self
    rw [lowercaseFrom_cons, if_neg hc.not_sigma, hc.fixed,
      ih (fun d hd => h d (List.mem_cons_of_mem c hd))]
    rfl

theorem lowercase_lowercase (s : String) : lowercase (lowercase s) = lowercase s := by
  unfold lowercase
  rw [String.toList_ofList, lowercaseFrom_of_settled (settled_of_mem_lowercaseFrom [] s.toList)]

theorem written_concat (before xs : List Char) (c : Char) :
    ∃ pre here, lowercaseFrom before (xs ++ [c]) = pre ++ here ∧ here ≠ [] ∧
      (isBlank c = false → ∀ d ∈ here, isBlank d = false) := by
  induction xs generalizing before with
  | nil =>
    obtain ⟨here, heq, hnonempty, heach⟩ := written_cons before c []
    refine ⟨[], here, ?_, hnonempty, fun hc d hd => (heach d hd).2 hc⟩
    rw [List.nil_append, heq]
    simp [lowercaseFrom]
  | cons x xs ih =>
    obtain ⟨here, heq, -, -⟩ := written_cons before x (xs ++ [c])
    obtain ⟨pre, last, heq', hnonempty, heach⟩ := ih (x :: before)
    exact ⟨here ++ pre, last, by rw [List.cons_append, heq, heq', List.append_assoc], hnonempty,
      heach⟩

/-- A text is left alone by trimming exactly when it neither starts nor ends with a blank. -/
theorem trim_eq_self_iff {s : String} :
    trim s = s ↔
      (∀ c ∈ s.toList.head?, isBlank c = false) ∧
        ∀ c ∈ s.toList.getLast?, isBlank c = false := by
  rw [String.ext_iff, toList_trim]
  generalize s.toList = l
  constructor
  · intro h
    have hfront : l.dropWhile isBlank = l := by
      have hlonger : l.length ≤ (l.dropWhile isBlank).length := by
        conv_lhs => rw [← h]
        exact (List.rdropWhile_prefix isBlank _).length_le
      exact (List.dropWhile_suffix isBlank).eq_of_length_le hlonger
    rw [hfront] at h
    refine ⟨fun c hc => ?_, fun c hc => ?_⟩
    · have hstart := List.head?_dropWhile_not isBlank l
      rw [hfront, hc] at hstart
      exact hstart
    · have hne : l ≠ [] := by rintro rfl; simp at hc
      have hlast := List.rdropWhile_eq_self_iff.mp h hne
      rw [List.getLast?_eq_some_getLast hne, Option.mem_some_iff] at hc
      rw [← hc]
      simpa using hlast
  · rintro ⟨hstart, hlast⟩
    have hfront : l.dropWhile isBlank = l := by
      cases l with
      | nil => rfl
      | cons c rest => rw [List.dropWhile_cons, hstart c rfl]; rfl
    rw [hfront, List.rdropWhile_eq_self_iff]
    intro hne
    simp [hlast (l.getLast hne) (List.getLast?_eq_some_getLast hne)]

theorem trim_lowercase {s : String} (h : trim s = s) : trim (lowercase s) = lowercase s := by
  rw [trim_eq_self_iff] at h ⊢
  obtain ⟨hstart, hlast⟩ := h
  simp only [lowercase, String.toList_ofList]
  constructor
  · cases hs : s.toList with
    | nil => simp [lowercaseFrom]
    | cons c rest =>
      obtain ⟨here, heq, hnonempty, heach⟩ := written_cons [] c rest
      obtain ⟨d, ds, rfl⟩ := List.exists_cons_of_ne_nil hnonempty
      rw [heq]
      intro d' hd
      simp only [List.cons_append, List.head?_cons, Option.mem_some_iff] at hd
      subst hd
      exact (heach d List.mem_cons_self).2 (hstart c (by simp [hs]))
  · rcases List.eq_nil_or_concat' s.toList with hs | ⟨xs, c, hs⟩
    · simp [hs, lowercaseFrom]
    · obtain ⟨pre, here, heq, hnonempty, heach⟩ := written_concat [] xs c
      rw [hs, heq]
      intro d hd
      rw [List.getLast?_append, List.getLast?_eq_some_getLast hnonempty, Option.some_or,
        Option.mem_some_iff] at hd
      exact heach (hlast c (by simp [hs])) d (hd ▸ List.getLast_mem hnonempty)

theorem lowercase_trim_normal (s : String) :
    lowercase (trim (lowercase (trim s))) = lowercase (trim s) := by
  rw [trim_lowercase (trim_trim s), lowercase_lowercase]

end Signon.Text
