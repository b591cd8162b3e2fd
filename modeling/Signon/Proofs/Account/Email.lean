import Mathlib
import Signon.Account.Email
import Signon.Proofs.Text.Lowercase

/-!
Which addresses a user may type, and what is kept of them: an address is accepted exactly when
its trimmed, lower-cased form is `Email.Shaped`, and that form is what is kept.
-/

namespace Signon

namespace Text

theorem byteLength_eq_utf8ByteSize (cs : List Char) :
    byteLength cs = (String.ofList cs).utf8ByteSize := by
  have hstep : ∀ n : Nat,
      cs.foldl (fun n c => n + c.utf8Size) n = n + (String.ofList cs).utf8ByteSize := by
    induction cs with
    | nil => simp
    | cons c cs ih =>
      intro n
      have hsplit : String.ofList (c :: cs) = String.singleton c ++ String.ofList cs := by
        rw [String.singleton_eq_ofList, ← String.ofList_append]
        rfl
      rw [List.foldl_cons, ih, hsplit, String.utf8ByteSize_append, String.utf8ByteSize_singleton]
      omega
  simpa [byteLength] using hstep 0

theorem pieces_eq_splitOn (sep : Char) (cs : List Char) : pieces sep cs = cs.splitOn sep := by
  induction cs with
  | nil => rfl
  | cons c cs ih =>
    rw [pieces, List.splitOn_cons_eq_if_modifyHead, ← ih]
    by_cases here : c = sep
    · simp [here]
    · obtain ⟨p, ps, hp⟩ := List.exists_cons_of_ne_nil (ih ▸ List.splitOn_ne_nil sep cs)
      simp [here, hp]

theorem splitFirst?_eq_some_iff {sep : Char} {cs a b : List Char} :
    splitFirst? sep cs = some (a, b) ↔ cs = a ++ sep :: b ∧ sep ∉ a := by
  induction cs generalizing a with
  | nil => simp [splitFirst?]
  | cons c cs ih =>
    by_cases here : c = sep
    · subst here
      cases a with
      | nil => simp [splitFirst?, eq_comm]
      | cons x xs =>
        simp only [splitFirst?, if_true, Option.some.injEq, Prod.mk.injEq, reduceCtorEq,
          false_and, false_iff, List.cons_append, List.cons.injEq, List.mem_cons, not_or]
        rintro ⟨⟨rfl, -⟩, hne, -⟩
        exact hne rfl
    · cases a with
      | nil => simp [splitFirst?, here]
      | cons x xs =>
        simp only [splitFirst?, here, if_false, Option.map_eq_some_iff, Prod.exists,
          Prod.mk.injEq, List.cons_append, List.cons.injEq, List.mem_cons, not_or]
        constructor
        · rintro ⟨a', b', hfound, ⟨rfl, rfl⟩, rfl⟩
          obtain ⟨rfl, hnone⟩ := ih.mp hfound
          exact ⟨⟨rfl, rfl⟩, Ne.symm here, hnone⟩
        · rintro ⟨⟨rfl, rfl⟩, -, hnone⟩
          exact ⟨xs, b, ih.mpr ⟨rfl, hnone⟩, ⟨rfl, rfl⟩, rfl⟩

theorem splitLast?_of_not_mem {sep : Char} {a b : List Char} (h : sep ∉ b) :
    splitLast? sep (a ++ sep :: b) = some (a, b) := by
  have hfirst : splitFirst? sep (a ++ sep :: b).reverse = some (b.reverse, a.reverse) :=
    splitFirst?_eq_some_iff.mpr ⟨by simp, by simpa using h⟩
  rw [splitLast?, hfirst]
  simp

end Text

namespace Email

/-- A label of a domain: ASCII letters, digits and hyphens, not empty, no hyphen at either end. -/
structure Label (label : List Char) : Prop where
  ne_nil : label ≠ []
  head : label.head? ≠ some '-'
  last : label.getLast? ≠ some '-'
  chars : ∀ c ∈ label, c.isAlphanum = true ∨ c = '-'

theorem isLabel_iff {label : List Char} : isLabel label = true ↔ Label label := by
  simp only [isLabel, Bool.and_eq_true, Bool.not_eq_eq_eq_not, Bool.not_true,
    List.isEmpty_eq_false_iff, bne_iff_ne, List.all_eq_true, Bool.or_eq_true, beq_iff_eq]
  constructor
  · rintro ⟨⟨⟨hne, head⟩, hlast⟩, hchars⟩
    exact ⟨hne, head, hlast, hchars⟩
  · rintro ⟨hne, head, hlast, hchars⟩
    exact ⟨⟨⟨hne, head⟩, hlast⟩, hchars⟩

/-- The parts of an address around its one `@`: a name of 1 to 64 bytes, and a domain with a
dot whose dot-separated labels are all labels. -/
structure Parts (e : List Char) (name domain : List Char) : Prop where
  split : e = name ++ '@' :: domain
  name_at : '@' ∉ name
  domain_at : '@' ∉ domain
  name_ne_nil : name ≠ []
  name_short : (String.ofList name).utf8ByteSize ≤ 64
  dot : '.' ∈ domain
  labels : ∀ label ∈ domain.splitOn '.', Label label

/-- The shape of an address in normal form: at most 254 bytes, and parts around one `@`. It is
not empty, since it has an `@`. -/
structure Shaped (e : String) : Prop where
  short : e.utf8ByteSize ≤ 254
  parts : ∃ name domain, Parts e.toList name domain

theorem shapeFlaw_eq_none_iff {e : List Char} :
    shapeFlaw e = none ↔ ∃ name domain, Parts e name domain := by
  cases hfound : Text.splitFirst? '@' e with
  | none =>
    simp only [shapeFlaw, hfound, reduceCtorEq, false_iff, not_exists]
    intro name domain hparts
    rw [Text.splitFirst?_eq_some_iff.mpr ⟨hparts.split, hparts.name_at⟩] at hfound
    cases hfound
  | some cut =>
    obtain ⟨name, domain⟩ := cut
    obtain ⟨hsplit, hname_at⟩ := Text.splitFirst?_eq_some_iff.mp hfound
    simp only [shapeFlaw, hfound]
    constructor
    · intro h
      split_ifs at h with empty long twice nodot bad
      refine ⟨name, domain, hsplit, hname_at, by simpa using twice, by simpa using empty, ?_,
        by simpa using nodot, ?_⟩
      · rw [← Text.byteLength_eq_utf8ByteSize]
        exact Nat.le_of_not_lt long
      · intro label hmem
        rw [← Text.pieces_eq_splitOn] at hmem
        simp only [Bool.not_eq_eq_eq_not, Bool.not_true, Bool.not_eq_false,
          List.all_eq_true] at bad
        exact isLabel_iff.mp (bad label hmem)
    · rintro ⟨name', domain', hparts⟩
      have hsame := Text.splitFirst?_eq_some_iff.mpr ⟨hparts.split, hparts.name_at⟩
      rw [hfound, Option.some.injEq, Prod.mk.injEq] at hsame
      obtain ⟨rfl, rfl⟩ := hsame
      have hlabels : (Text.pieces '.' domain).all isLabel = true := by
        rw [Text.pieces_eq_splitOn, List.all_eq_true]
        exact fun label hmem => isLabel_iff.mpr (hparts.labels label hmem)
      have hshort : ¬maxNameLength < Text.byteLength name := by
        rw [Text.byteLength_eq_utf8ByteSize]
        exact Nat.not_lt.mpr hparts.name_short
      simp [hparts.name_ne_nil, hshort, hparts.domain_at, hparts.dot, hlabels]

theorem make_eq_ok_iff {raw : String} {m : Email} :
    make raw = .ok m ↔
      m.text = Text.lowercase (Text.trim raw) ∧ Shaped (Text.lowercase (Text.trim raw)) := by
  simp only [make]
  generalize Text.lowercase (Text.trim raw) = e
  split_ifs with empty long
  · simp only [false_iff, not_and]
    rintro - ⟨-, name, domain, hparts⟩
    have hfull : e.toList ≠ [] := by
      rw [hparts.split]
      exact List.append_ne_nil_of_right_ne_nil _ (List.cons_ne_nil _ _)
    exact hfull (by simpa [String.isEmpty_iff] using empty)
  · simp only [false_iff, not_and]
    exact fun _ hshaped => Nat.not_lt.mpr hshaped.short long
  · cases hflaw : shapeFlaw e.toList with
    | some f =>
      simp only [reduceCtorEq, false_iff, not_and]
      rintro - ⟨-, name, domain, hparts⟩
      rw [shapeFlaw_eq_none_iff.mpr ⟨name, domain, hparts⟩] at hflaw
      cases hflaw
    | none =>
      simp only [Except.ok.injEq]
      constructor
      · rintro rfl
        exact ⟨rfl, Nat.le_of_not_lt long, shapeFlaw_eq_none_iff.mp hflaw⟩
      · rintro ⟨htext, -⟩
        rw [← htext]

theorem make_normal (raw : String) : make (Text.lowercase (Text.trim raw)) = make raw := by
  simp only [make, Text.lowercase_trim_normal]

/-- The domain of an address with parts is the part after its `@`, and its masked form shows the
first character of the name, stars and the domain. -/
theorem domain_masked_of_parts {m : Email} {c : Char} {name domain : List Char}
    (hparts : Parts m.text.toList (c :: name) domain) :
    m.domain = String.ofList domain ∧
      m.masked = String.singleton c ++ "***@" ++ String.ofList domain := by
  have hcut : Text.splitLast? '@' m.text.toList = some (c :: name, domain) := by
    rw [hparts.split]
    exact Text.splitLast?_of_not_mem hparts.domain_at
  refine ⟨by simp only [Email.domain, hcut], ?_⟩
  simp only [masked, hcut, List.headD_cons]
  apply String.ext
  simp

/-- An address is accepted exactly when its trimmed, lower-cased form has the shape of an
address, and then the address kept is that form. Reading the kept address again gives it back,
and its domain and masked form are read off its one `@`. -/
theorem accepted_addresses (raw : String) :
    (∀ m, make raw = .ok m ↔
      m.text = Text.lowercase (Text.trim raw) ∧ Shaped (Text.lowercase (Text.trim raw))) ∧
    ∀ m, make raw = .ok m → make m.text = .ok m ∧
      ∃ c name domain, Parts m.text.toList (c :: name) domain ∧
        m.domain = String.ofList domain ∧
        m.masked = String.singleton c ++ "***@" ++ String.ofList domain := by
  refine ⟨fun m => make_eq_ok_iff, fun m hok => ?_⟩
  obtain ⟨htext, hshaped⟩ := make_eq_ok_iff.mp hok
  obtain ⟨name, domain, hparts⟩ := hshaped.parts
  rw [← htext] at hparts
  obtain ⟨c, rest, rfl⟩ := List.exists_cons_of_ne_nil hparts.name_ne_nil
  refine ⟨by rw [htext, make_normal, hok], c, rest, domain, hparts, domain_masked_of_parts hparts⟩

end Email

end Signon
