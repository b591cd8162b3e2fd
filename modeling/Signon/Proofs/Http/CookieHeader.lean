import Mathlib
import Signon.Http.Cookie
import Signon.Proofs.Numeric.Decimal

/-!
Writing a cookie as a `Set-Cookie` value and reading it back: every field but the value comes
back, and the value comes back trimmed and unquoted once more.
-/

namespace Signon

namespace Text

section Pieces

variable {sep : Char}

/-- A list without the separator is one piece. -/
theorem pieces_of_not_mem : ∀ {a : List Char}, sep ∉ a → pieces sep a = [a]
  | [], _ => rfl
  | c :: a, h => by
    have hc : c ≠ sep := fun e => h (e ▸ List.mem_cons_self)
    rw [pieces, if_neg hc, pieces_of_not_mem (fun m => h (List.mem_cons_of_mem _ m))]

/-- The separator ends the first piece. -/
theorem pieces_append_cons (rest : List Char) :
    ∀ {a : List Char}, sep ∉ a → pieces sep (a ++ sep :: rest) = a :: pieces sep rest
  | [], _ => by simp [pieces]
  | c :: a, h => by
    have hc : c ≠ sep := fun e => h (e ▸ List.mem_cons_self)
    rw [List.cons_append, pieces, if_neg hc,
      pieces_append_cons rest (fun m => h (List.mem_cons_of_mem _ m))]

/-- Pieces joined by the separator split back into themselves. -/
theorem pieces_append_flatMap :
    ∀ {a : List Char} {bs : List (List Char)}, sep ∉ a → (∀ b ∈ bs, sep ∉ b) →
      pieces sep (a ++ bs.flatMap (sep :: ·)) = a :: bs
  | a, [], ha, _ => by simpa using pieces_of_not_mem ha
  | a, b :: bs, ha, hbs => by
    rw [List.flatMap_cons, List.cons_append, pieces_append_cons _ ha,
      pieces_append_flatMap (hbs b List.mem_cons_self) fun x hx => hbs x (List.mem_cons_of_mem _ hx)]

/-- No piece holds the separator. -/
theorem not_mem_of_mem_pieces : ∀ {l p : List Char}, p ∈ pieces sep l → sep ∉ p
  | [], p, hp => by
    simp only [pieces, List.mem_singleton] at hp
    simp [hp]
  | c :: l, p, hp => by
    rw [pieces] at hp
    split at hp
    · rcases List.mem_cons.mp hp with rfl | hp
      · simp
      · exact not_mem_of_mem_pieces hp
    · rename_i hc
      split at hp
      · rename_i q qs hq
        rcases List.mem_cons.mp hp with rfl | hp
        · have := @not_mem_of_mem_pieces l q (by simp [hq])
          simp [Ne.symm hc, this]
        · exact @not_mem_of_mem_pieces l p (by simp [hq, hp])
      · simp only [List.mem_singleton] at hp
        simp [hp, Ne.symm hc]

/-- Splitting at the first separator, when the part before it holds none. -/
theorem splitFirst?_append_cons (b : List Char) :
    ∀ {a : List Char}, sep ∉ a → splitFirst? sep (a ++ sep :: b) = some (a, b)
  | [], _ => by simp [splitFirst?]
  | c :: a, h => by
    have hc : c ≠ sep := fun e => h (e ▸ List.mem_cons_self)
    rw [List.cons_append, splitFirst?, if_neg hc,
      splitFirst?_append_cons b (fun m => h (List.mem_cons_of_mem _ m))]
    rfl

/-- What splitting at the first separator gives back. -/
theorem splitFirst?_eq_some :
    ∀ {l a b : List Char}, splitFirst? sep l = some (a, b) → l = a ++ sep :: b ∧ sep ∉ a
  | [], _, _, h => by simp [splitFirst?] at h
  | c :: l, a, b, h => by
    rw [splitFirst?] at h
    split at h
    · rename_i hc
      obtain ⟨rfl, rfl⟩ := Prod.mk.inj (Option.some.inj h)
      simp [hc]
    · rename_i hc
      obtain ⟨⟨a', b'⟩, hs, he⟩ := Option.map_eq_some_iff.mp h
      obtain ⟨rfl, rfl⟩ := Prod.mk.inj he
      obtain ⟨rfl, hn⟩ := splitFirst?_eq_some hs
      simp [hn, Ne.symm hc]

end Pieces

section Strip

variable {p : Char → Bool} {c : Char}

theorem dropWhile_append_cons (l m : List Char) (hc : p c = false) :
    (l ++ c :: m).dropWhile p = l.dropWhile p ++ c :: m := by
  rw [List.dropWhile_append]
  split
  · rename_i hempty
    rw [List.isEmpty_iff.mp hempty, List.dropWhile_cons_of_neg (by simp [hc]), List.nil_append]
  · rfl

theorem rdropWhile_append_cons (l m : List Char) (hc : p c = false) :
    (l ++ c :: m).rdropWhile p = l ++ c :: m.rdropWhile p := by
  simp only [List.rdropWhile, List.reverse_append, List.reverse_cons, List.append_assoc,
    List.singleton_append]
  rw [dropWhile_append_cons _ _ hc]
  simp

theorem dropWhile_append_of_eq {l : List Char} (h : l.dropWhile p = l) (hne : l ≠ [])
    (m : List Char) : (l ++ m).dropWhile p = l ++ m := by
  rw [List.dropWhile_append, h, if_neg (by simpa using hne)]

theorem dropWhile_rdropWhile (l : List Char) :
    (l.rdropWhile p).dropWhile p = (l.dropWhile p).rdropWhile p := by
  have hfront : ∀ x ∈ l.takeWhile p, p x = true := fun _ hx => List.mem_takeWhile_imp hx
  have hstart := List.head?_dropWhile_not p l
  have hsplit : l = l.takeWhile p ++ l.dropWhile p := List.takeWhile_append_dropWhile.symm
  generalize l.takeWhile p = t at hfront hsplit
  generalize l.dropWhile p = m at hstart hsplit
  subst hsplit
  cases m with
  | nil =>
    have hall : ∀ x ∈ t ++ [], p x = true := by simpa using hfront
    rw [List.rdropWhile_eq_nil_iff.mpr hall]
    rfl
  | cons x m =>
    have hx : p x = false := by simpa using hstart
    rw [rdropWhile_append_cons _ _ hx, List.dropWhile_append_of_pos hfront,
      List.dropWhile_cons_of_neg (by simp [hx])]
    exact (List.nil_append _ ▸ rdropWhile_append_cons [] m hx).symm

theorem strip_strip (l : List Char) :
    (((l.dropWhile p).rdropWhile p).dropWhile p).rdropWhile p = (l.dropWhile p).rdropWhile p := by
  rw [dropWhile_rdropWhile, List.dropWhile_idempotent, List.rdropWhile_idempotent]

theorem strip_rdropWhile (l : List Char) :
    ((l.rdropWhile p).dropWhile p).rdropWhile p = (l.dropWhile p).rdropWhile p := by
  rw [dropWhile_rdropWhile, List.rdropWhile_idempotent]

theorem strip_isInfix (l : List Char) : (l.dropWhile p).rdropWhile p <:+: l :=
  List.IsInfix.trans (List.IsPrefix.isInfix (List.rdropWhile_prefix p _))
    (List.IsSuffix.isInfix (List.dropWhile_suffix p))

end Strip

end Text

namespace Http.SetCookie

theorem trimmed_eq (cs : List Char) :
    trimmed cs = (cs.dropWhile Text.isBlank).rdropWhile Text.isBlank := rfl

theorem unquoted_eq (cs : List Char) :
    unquoted cs = (cs.dropWhile (· = '"')).rdropWhile (· = '"') := rfl

theorem trimmed_isInfix (cs : List Char) : trimmed cs <:+: cs := by
  rw [trimmed_eq]
  exact Text.strip_isInfix cs

theorem unquoted_isInfix (cs : List Char) : unquoted cs <:+: cs := by
  rw [unquoted_eq]
  exact Text.strip_isInfix cs

/-- Text with no blank at either end, as trimming leaves it. -/
structure Unpadded (cs : List Char) : Prop where
  front : cs.dropWhile Text.isBlank = cs
  back : cs.rdropWhile Text.isBlank = cs

theorem Unpadded.trimmed_eq {cs : List Char} (h : Unpadded cs) : trimmed cs = cs := by
  rw [SetCookie.trimmed_eq, h.front, h.back]

theorem unpadded_trimmed (cs : List Char) : Unpadded (trimmed cs) :=
  ⟨by rw [trimmed_eq, Text.dropWhile_rdropWhile, List.dropWhile_idempotent],
    by rw [trimmed_eq, List.rdropWhile_idempotent]⟩

theorem unpadded_of_forall {cs : List Char} (h : ∀ c ∈ cs, Text.isBlank c = false) :
    Unpadded cs := by
  constructor
  · cases cs with
    | nil => rfl
    | cons c cs => exact List.dropWhile_cons_of_neg (by simp [h c List.mem_cons_self])
  · rw [List.rdropWhile_eq_self_iff]
    intro hne
    simp [h _ (List.getLast_mem hne)]

theorem unquoted_unquoted (cs : List Char) : unquoted (unquoted cs) = unquoted cs :=
  Text.strip_strip cs

theorem not_blank_of_mem_toString {a : Int} {c : Char} (h : c ∈ (toString a).toList) :
    Text.isBlank c = false := by
  rcases Numeric.mem_toString h with hdigit | rfl
  · have hlow : 48 ≤ c.toNat := (Numeric.digit_bounds hdigit).1
    have high : c.toNat ≤ 57 := (Numeric.digit_bounds hdigit).2
    simp only [Text.isBlank, Bool.or_eq_false_iff, Bool.and_eq_false_iff, decide_eq_false_iff_not,
      beq_eq_false_iff_ne]
    omega
  · decide

/-- A cookie name as reading leaves one: not empty, not blank at either end, and holding neither
`=` nor `;`. -/
structure ValidName (n : String) : Prop where
  ne : n.toList ≠ []
  unpadded : Unpadded n.toList
  eq : '=' ∉ n.toList
  semi : ';' ∉ n.toList

/-- A cookie as reading leaves one: a valid name; a value without `;`; a path and a domain
without `;` and not blank at either end; a lifetime that fits in 64 bits. -/
structure Wellformed (c : SetCookie) : Prop where
  name : ValidName c.name
  value_semi : ';' ∉ c.value.toList
  path : ∀ p ∈ c.path, Unpadded p.toList ∧ ';' ∉ p.toList
  domain : ∀ d ∈ c.domain, Unpadded d.toList ∧ ';' ∉ d.toList
  maxAge : ∀ a ∈ c.maxAge, -2 ^ 63 ≤ a ∧ a < 2 ^ 63

/-- The attributes a header writes, each as the text after its `;`. -/
def attributes (c : SetCookie) : List (List Char) :=
  (c.path.map fun p => ' ' :: "Path".toList ++ '=' :: p.toList).toList ++
  (c.domain.map fun d => ' ' :: "Domain".toList ++ '=' :: d.toList).toList ++
  (c.maxAge.map fun a => ' ' :: "Max-Age".toList ++ '=' :: (toString a).toList).toList ++
  (if c.httpOnly then [' ' :: "HttpOnly".toList] else []) ++
  (if c.secure then [' ' :: "Secure".toList] else []) ++
  (c.sameSite.map fun s => ' ' :: "SameSite".toList ++ '=' :: s.name.toList).toList

theorem header_toList (c : SetCookie) :
    c.header.toList = (c.name.toList ++ '=' :: c.value.toList) ++ c.attributes.flatMap (';' :: ·) := by
  have hpath : ((c.path.map ("; Path=" ++ ·)).getD "").toList =
      (c.path.map fun p => ' ' :: "Path".toList ++ '=' :: p.toList).toList.flatMap (';' :: ·) := by
    cases c.path <;> simp
  have hdomain : ((c.domain.map ("; Domain=" ++ ·)).getD "").toList =
      (c.domain.map fun d => ' ' :: "Domain".toList ++ '=' :: d.toList).toList.flatMap
        (';' :: ·) := by
    cases c.domain <;> simp
  have hmaxAge : ((c.maxAge.map fun a => "; Max-Age=" ++ toString a).getD "").toList =
      (c.maxAge.map fun a => ' ' :: "Max-Age".toList ++ '=' :: (toString a).toList).toList.flatMap
        (';' :: ·) := by
    cases c.maxAge <;> simp
  have httpOnly : (if c.httpOnly then "; HttpOnly" else "").toList =
      (if c.httpOnly then [' ' :: "HttpOnly".toList] else []).flatMap (';' :: ·) := by
    cases c.httpOnly <;> simp
  have hsecure : (if c.secure then "; Secure" else "").toList =
      (if c.secure then [' ' :: "Secure".toList] else []).flatMap (';' :: ·) := by
    cases c.secure <;> simp
  have hsameSite : ((c.sameSite.map fun s => "; SameSite=" ++ s.name).getD "").toList =
      (c.sameSite.map fun s => ' ' :: "SameSite".toList ++ '=' :: s.name.toList).toList.flatMap
        (';' :: ·) := by
    cases c.sameSite <;> simp
  simp only [header, attributes, String.toList_append, hpath, hdomain, hmaxAge, httpOnly, hsecure,
    hsameSite, List.flatMap_append, List.append_assoc, show "=".toList = ['='] by simp,
    List.cons_append, List.nil_append]

theorem split_attribute {key v : List Char} (hk : key.dropWhile Text.isBlank = key) (hne : key ≠ [])
    (heq : '=' ∉ key) (hv : v.rdropWhile Text.isBlank = v) :
    Text.splitFirst? '=' (trimmed (' ' :: key ++ '=' :: v)) = some (key, v) := by
  have hfront : (' ' :: key ++ '=' :: v).dropWhile Text.isBlank = key ++ '=' :: v := by
    rw [List.cons_append, List.dropWhile_cons_of_pos (by decide), Text.dropWhile_append_of_eq hk hne]
  rw [trimmed_eq, hfront, Text.rdropWhile_append_cons _ _ (by decide), hv,
    Text.splitFirst?_append_cons _ heq]

section Attributes

variable (d : SetCookie)

theorem applyAttribute_path {v : String} (hv : Unpadded v.toList) :
    applyAttribute d (' ' :: "Path".toList ++ '=' :: v.toList) = { d with path := some v } := by
  unfold applyAttribute
  rw [split_attribute (by decide) (by decide) (by decide) hv.back]
  have hkey : String.ofList ((trimmed "Path".toList).map Char.toLower) = "path" := by decide
  simp only [hkey, hv.trimmed_eq, String.ofList_toList]

theorem applyAttribute_domain {v : String} (hv : Unpadded v.toList) :
    applyAttribute d (' ' :: "Domain".toList ++ '=' :: v.toList) = { d with domain := some v } := by
  unfold applyAttribute
  rw [split_attribute (by decide) (by decide) (by decide) hv.back]
  have hkey : String.ofList ((trimmed "Domain".toList).map Char.toLower) = "domain" := by decide
  simp only [hkey, hv.trimmed_eq, String.ofList_toList]

theorem applyAttribute_maxAge {a : Int} (hlo : -2 ^ 63 ≤ a) (hi : a < 2 ^ 63) :
    applyAttribute d (' ' :: "Max-Age".toList ++ '=' :: (toString a).toList) =
      { d with maxAge := some a } := by
  have hv := unpadded_of_forall fun _ => not_blank_of_mem_toString (a := a)
  unfold applyAttribute
  rw [split_attribute (by decide) (by decide) (by decide) hv.back]
  have hkey : String.ofList ((trimmed "Max-Age".toList).map Char.toLower) = "max-age" := by decide
  simp only [hkey, hv.trimmed_eq, String.ofList_toList, Numeric.readI64_toString hlo hi,
    Except.toOption]

theorem applyAttribute_httpOnly :
    applyAttribute d (' ' :: "HttpOnly".toList) = { d with httpOnly := true } := by
  unfold applyAttribute
  have hsplit : Text.splitFirst? '=' (trimmed (' ' :: "HttpOnly".toList)) = none := by decide
  have hkey : String.ofList ((trimmed (' ' :: "HttpOnly".toList)).map Char.toLower) = "httponly" := by
    decide
  simp only [hsplit, hkey]

theorem applyAttribute_secure :
    applyAttribute d (' ' :: "Secure".toList) = { d with secure := true } := by
  unfold applyAttribute
  have hsplit : Text.splitFirst? '=' (trimmed (' ' :: "Secure".toList)) = none := by decide
  have hkey : String.ofList ((trimmed (' ' :: "Secure".toList)).map Char.toLower) = "secure" := by
    decide
  simp only [hsplit, hkey]

theorem applyAttribute_sameSite (s : SameSite) :
    applyAttribute d (' ' :: "SameSite".toList ++ '=' :: s.name.toList) =
      { d with sameSite := some s } := by
  have hv : Unpadded s.name.toList :=
    unpadded_of_forall (by cases s <;> simp [SameSite.name, Text.isBlank])
  have hread : SameSite.parse s.name = some s := by cases s <;> decide
  unfold applyAttribute
  rw [split_attribute (by decide) (by decide) (by decide) hv.back]
  have hkey : String.ofList ((trimmed "SameSite".toList).map Char.toLower) = "samesite" := by decide
  simp only [hkey, hv.trimmed_eq, String.ofList_toList, hread]

end Attributes

theorem foldl_attributes {c : SetCookie} (hc : c.Wellformed) (name value : String) :
    c.attributes.foldl applyAttribute { name, value } = { c with name, value } := by
  have hpath : ∀ d : SetCookie,
      (c.path.map fun p => ' ' :: "Path".toList ++ '=' :: p.toList).toList.foldl applyAttribute d =
        { d with path := c.path.or d.path } := by
    intro d
    cases hp : c.path with
    | none => simp
    | some p => simpa using applyAttribute_path d (hc.path p hp).1
  have hdomain : ∀ d : SetCookie,
      (c.domain.map fun v => ' ' :: "Domain".toList ++ '=' :: v.toList).toList.foldl
        applyAttribute d = { d with domain := c.domain.or d.domain } := by
    intro d
    cases hv : c.domain with
    | none => simp
    | some v => simpa using applyAttribute_domain d (hc.domain v hv).1
  have hmaxAge : ∀ d : SetCookie,
      (c.maxAge.map fun a => ' ' :: "Max-Age".toList ++ '=' :: (toString a).toList).toList.foldl
        applyAttribute d = { d with maxAge := c.maxAge.or d.maxAge } := by
    intro d
    cases ha : c.maxAge with
    | none => simp
    | some a => simpa using applyAttribute_maxAge d (hc.maxAge a ha).1 (hc.maxAge a ha).2
  have httpOnly : ∀ d : SetCookie,
      (if c.httpOnly then [' ' :: "HttpOnly".toList] else []).foldl applyAttribute d =
        { d with httpOnly := c.httpOnly || d.httpOnly } := by
    intro d
    cases c.httpOnly
    · simp
    · simpa using applyAttribute_httpOnly d
  have hsecure : ∀ d : SetCookie,
      (if c.secure then [' ' :: "Secure".toList] else []).foldl applyAttribute d =
        { d with secure := c.secure || d.secure } := by
    intro d
    cases c.secure
    · simp
    · simpa using applyAttribute_secure d
  have hsameSite : ∀ d : SetCookie,
      (c.sameSite.map fun s => ' ' :: "SameSite".toList ++ '=' :: s.name.toList).toList.foldl
        applyAttribute d = { d with sameSite := c.sameSite.or d.sameSite } := by
    intro d
    cases c.sameSite with
    | none => simp
    | some s => simpa using applyAttribute_sameSite d s
  simp only [attributes, List.foldl_append, hpath, hdomain, hmaxAge, httpOnly, hsecure, hsameSite,
    Option.or_none, Bool.or_false]

theorem semi_not_mem_keyed {key v : List Char} (hk : ';' ∉ key) (hv : ';' ∉ v) :
    ';' ∉ ' ' :: key ++ '=' :: v := by
  simp [hk, hv]

theorem semi_not_mem_attributes {c : SetCookie} (hc : c.Wellformed) :
    ∀ a ∈ c.attributes, ';' ∉ a := by
  intro a ha
  simp only [attributes, List.mem_append, Option.mem_toList, Option.map_eq_some_iff,
    List.mem_ite_nil_right, List.mem_singleton] at ha
  rcases ha with ((((⟨p, hp, rfl⟩ | ⟨v, hv, rfl⟩) | ⟨n, -, rfl⟩) | ⟨-, rfl⟩) | ⟨-, rfl⟩) |
    ⟨s, -, rfl⟩
  · exact semi_not_mem_keyed (by decide) (hc.path p hp).2
  · exact semi_not_mem_keyed (by decide) (hc.domain v hv).2
  · exact semi_not_mem_keyed (by decide) fun h => by
      rcases Numeric.mem_toString h with h | h <;> revert h <;> decide
  · decide
  · decide
  · exact semi_not_mem_keyed (by decide) (by cases s <;> decide)

theorem parse_header {c : SetCookie} (hc : c.Wellformed) :
    parse c.header = some { c with value := String.ofList (unquoted (trimmed c.value.toList)) } := by
  have hfirst_semi : ';' ∉ c.name.toList ++ '=' :: c.value.toList := by
    simp [hc.name.semi, hc.value_semi]
  have hfirst : trimmed (c.name.toList ++ '=' :: c.value.toList) =
      c.name.toList ++ '=' :: c.value.toList.rdropWhile Text.isBlank := by
    rw [trimmed_eq, Text.dropWhile_append_of_eq hc.name.unpadded.front hc.name.ne,
      Text.rdropWhile_append_cons _ _ (by decide)]
  have hnamed : (trimmed c.name.toList).isEmpty = false := by
    rw [hc.name.unpadded.trimmed_eq]
    simpa using hc.name.ne
  unfold parse
  rw [header_toList, Text.pieces_append_flatMap hfirst_semi (semi_not_mem_attributes hc)]
  simp only [hfirst, Text.splitFirst?_append_cons _ hc.name.eq, Option.bind_eq_bind,
    Option.bind_some, hnamed, Bool.false_eq_true, if_false]
  rw [hc.name.unpadded.trimmed_eq, String.ofList_toList, trimmed_eq, Text.strip_rdropWhile,
    ← trimmed_eq, foldl_attributes hc]

theorem applyAttribute_wellformed {d : SetCookie} {attr : List Char} (hd : d.Wellformed)
    (ha : ';' ∉ attr) : (applyAttribute d attr).Wellformed := by
  unfold applyAttribute
  rcases hs : Text.splitFirst? '=' (trimmed attr) with _ | ⟨k, v⟩ <;> simp only
  · split
    next _ _ _ _ h => cases h
    next _ _ _ _ h => cases h
    next _ _ _ _ h => cases h
    next _ _ _ _ h => cases h
    all_goals exact ⟨hd.name, hd.value_semi, hd.path, hd.domain, hd.maxAge⟩
  · have hinside : v <:+: attr := by
      have htail : v <:+ trimmed attr := by
        rw [(Text.splitFirst?_eq_some hs).1]
        exact (List.suffix_cons '=' v).trans (List.suffix_append k ('=' :: v))
      exact htail.isInfix.trans (trimmed_isInfix attr)
    have hplain : Unpadded (trimmed v) ∧ ';' ∉ trimmed v :=
      ⟨unpadded_trimmed v, fun m => ha (((trimmed_isInfix v).trans hinside).subset m)⟩
    split
    next _ _ _ _ h =>
      cases h
      exact { hd with path := fun p hp => by cases hp; simpa using hplain }
    next _ _ _ _ h =>
      cases h
      exact { hd with domain := fun p hp => by cases hp; simpa using hplain }
    next _ _ _ _ h =>
      cases h
      refine { hd with maxAge := fun a ha => ?_ }
      cases hr : Numeric.readI64 (String.ofList (trimmed v)) with
      | error => simp [hr, Except.toOption] at ha
      | ok b =>
        simp only [hr, Except.toOption, Option.mem_def, Option.some.injEq] at ha
        exact ha ▸ Numeric.readI64_bounds hr
    all_goals exact ⟨hd.name, hd.value_semi, hd.path, hd.domain, hd.maxAge⟩

theorem applyAttribute_value (d : SetCookie) (attr : List Char) :
    (applyAttribute d attr).value = d.value := by
  unfold applyAttribute
  rcases Text.splitFirst? '=' (trimmed attr) with _ | ⟨k, v⟩ <;> simp only <;> split <;> rfl

theorem foldl_wellformed : ∀ {attrs : List (List Char)} {d : SetCookie}, (∀ a ∈ attrs, ';' ∉ a) →
    d.Wellformed → (attrs.foldl applyAttribute d).Wellformed ∧
      (attrs.foldl applyAttribute d).value = d.value
  | [], _, _, hd => ⟨hd, rfl⟩
  | a :: attrs, d, ha, hd => by
    rw [List.foldl_cons]
    obtain ⟨hw, hv⟩ := foldl_wellformed (fun x hx => ha x (List.mem_cons_of_mem _ hx))
      (applyAttribute_wellformed hd (ha a List.mem_cons_self))
    exact ⟨hw, hv.trans (applyAttribute_value d a)⟩

theorem parse_wellformed {raw : String} {c : SetCookie} (h : parse raw = some c) :
    c.Wellformed ∧ unquoted c.value.toList = c.value.toList := by
  unfold parse at h
  split at h
  · rename_i first attrs hp
    have hsemi_first : ';' ∉ first := Text.not_mem_of_mem_pieces (hp ▸ List.mem_cons_self)
    have hsemi_attrs : ∀ a ∈ attrs, ';' ∉ a := fun a ha =>
      Text.not_mem_of_mem_pieces (hp ▸ List.mem_cons_of_mem _ ha)
    rcases hs : Text.splitFirst? '=' (trimmed first) with _ | ⟨n, v⟩
    · simp [hs] at h
    obtain ⟨hsplit, heq⟩ := Text.splitFirst?_eq_some hs
    have hinside : n ++ '=' :: v <:+: first := hsplit ▸ trimmed_isInfix first
    have hsemi_n : ';' ∉ n := fun m => hsemi_first (hinside.subset (List.mem_append_left _ m))
    have hsemi_v : ';' ∉ v := fun m =>
      hsemi_first (hinside.subset (List.mem_append_right _ (List.mem_cons_of_mem _ m)))
    simp only [hs, Option.bind_eq_bind, Option.bind_some] at h
    split at h
    · cases h
    rename_i hnamed
    cases h
    have hstart : SetCookie.Wellformed
        { name := String.ofList (trimmed n), value := String.ofList (unquoted (trimmed v)) } := by
      refine ⟨⟨?_, ?_, ?_, ?_⟩, ?_, by simp, by simp, by simp⟩
      · simpa using hnamed
      · simpa using unpadded_trimmed n
      · simpa using fun m => heq ((trimmed_isInfix n).subset m)
      · simpa using fun m => hsemi_n ((trimmed_isInfix n).subset m)
      · simpa using fun m => hsemi_v ((trimmed_isInfix v).subset ((unquoted_isInfix _).subset m))
    obtain ⟨hw, hv⟩ := foldl_wellformed hsemi_attrs hstart
    refine ⟨hw, ?_⟩
    rw [hv, String.toList_ofList, unquoted_unquoted]
  · cases h

/-- Writing a cookie that was read and reading it again gives back every field but the value,
which comes back trimmed and unquoted once more: the cookie comes back unchanged exactly when its
value has no blank at either end. -/
theorem parse_header_parsed {raw : String} {c : SetCookie} (h : parse raw = some c) :
    parse c.header = some { c with value := String.ofList (unquoted (trimmed c.value.toList)) } ∧
      (parse c.header = some c ↔ trimmed c.value.toList = c.value.toList) := by
  obtain ⟨hc, hunquoted_value⟩ := parse_wellformed h
  have hback := parse_header hc
  refine ⟨hback, ?_⟩
  rw [hback, Option.some.injEq]
  constructor
  · intro hsame
    have hvalue : unquoted (trimmed c.value.toList) = c.value.toList := by
      simpa using congrArg (fun d : SetCookie => d.value.toList) hsame
    -- trimming and unquoting only remove characters, so here they removed none
    have hinner := unquoted_isInfix (trimmed c.value.toList)
    have houter := trimmed_isInfix c.value.toList
    apply houter.eq_of_length
    apply le_antisymm houter.length_le
    calc c.value.toList.length = (unquoted (trimmed c.value.toList)).length := by rw [hvalue]
      _ ≤ (trimmed c.value.toList).length := hinner.length_le
  · intro htrim
    rw [htrim, hunquoted_value, String.ofList_toList]

/-- A session cookie with a path and the HttpOnly flag comes back unchanged. -/
theorem session_cookie_round_trip :
    let c : SetCookie := { name := "sid", value := "abc", path := some "/", httpOnly := true }
    parse "sid=abc; Path=/; HttpOnly" = some c ∧
      (parse c.header = some { c with value := String.ofList (unquoted (trimmed c.value.toList)) } ∧
        (parse c.header = some c ↔ trimmed c.value.toList = c.value.toList)) :=
  have hread : parse "sid=abc; Path=/; HttpOnly" =
      some { name := "sid", value := "abc", path := some "/", httpOnly := true } := by
    decide +kernel
  ⟨hread, parse_header_parsed hread⟩

/-- A quoted value with a blank inside its quotes loses the blank when written and read again. -/
theorem quoted_blank_lost :
    parse "n=\" x\"" = some { name := "n", value := " x" } ∧
      parse (header { name := "n", value := " x" }) ≠ some { name := "n", value := " x" } := by
  decide +kernel

end Http.SetCookie

end Signon
