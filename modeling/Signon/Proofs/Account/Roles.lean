import Mathlib
import Signon.Api.Responses
import Signon.Proofs.Account.Email

/-!
How role codes from the server are read: a trimmed code loses a leading `ROLE_` in any ASCII
case (`Role.Bare`) and then names the role whose code it equals up to ASCII case.
-/

namespace Signon

namespace Role

theorem role_toList : "role_".toList = ['r', 'o', 'l', 'e', '_'] := by decide

theorem toNat_lt_of_toLower {c : Char} (h : c.toLower.toNat < 128) : c.toNat < 128 := by
  by_cases hupper : c.isUpper
  · have hlow : c.val ≤ 90 := by simp_all [Char.isUpper]
    exact Nat.lt_of_le_of_lt (UInt32.le_iff_toNat_le.mp hlow) (by decide)
  · rwa [Char.toLower_eq_of_not_isUpper hupper] at h

theorem utf8ByteSize_of_role {p : List Char} (h : p.map Char.toLower = "role_".toList) :
    (String.ofList p).utf8ByteSize = 5 := by
  have hascii : ∀ c ∈ p, c.utf8Size = 1 := by
    intro c hmem
    have hlower : c.toLower ∈ ['r', 'o', 'l', 'e', '_'] := by
      rw [← role_toList, ← h]
      exact List.mem_map_of_mem hmem
    have hsmall : c.toLower.toNat < 128 := by
      simp only [List.mem_cons, List.not_mem_nil, or_false] at hlower
      rcases hlower with e | e | e | e | e <;> rw [e] <;> decide
    have hcode : c.val.toNat ≤ 127 := Nat.le_of_lt_succ (toNat_lt_of_toLower hsmall)
    exact Char.utf8Size_eq_one_iff.mpr (UInt32.le_iff_toNat_le.mpr hcode)
  have hlength : p.length = 5 := by simpa using congrArg List.length h
  rw [← Text.byteLength_eq_utf8ByteSize, Text.byteLength, ← List.foldl_map,
    List.map_congr_left hascii]
  simp [hlength]

/-- A code once its leading `ROLE_` is gone: the first five bytes go when they end between two
characters and spell `ROLE_` in any ASCII case, and nothing goes otherwise. -/
inductive Bare : List Char → List Char → Prop
  | strip (p rest : List Char) : (String.ofList p).utf8ByteSize = 5 →
      p.map Char.toLower = "role_".toList → Bare (p ++ rest) rest
  | keep (t : List Char) : (∀ p rest, t = p ++ rest → (String.ofList p).utf8ByteSize = 5 →
      p.map Char.toLower ≠ "role_".toList) → Bare t t

theorem bare_dropPrefix (t : List Char) : Bare t (dropPrefix t) := by
  unfold dropPrefix sameIgnoringCase
  split
  · rename_i hspelled
    have hlower : (t.take 5).map Char.toLower = "role_".toList := by
      simpa using hspelled
    conv => arg 1; rw [← List.take_append_drop 5 t]
    exact .strip _ _ (utf8ByteSize_of_role hlower) hlower
  · rename_i hunspelled
    refine .keep t fun p rest hsplit _ hlower => hunspelled ?_
    have hlength : p.length = 5 := by simpa using congrArg List.length hlower
    have hfirst : t.take 5 = p := by
      rw [hsplit, ← hlength, List.take_left]
    rw [hfirst, hlower]
    decide

theorem bare_iff {t b : List Char} :
    Bare t b ↔
      (∃ p, t = p ++ b ∧ (String.ofList p).utf8ByteSize = 5 ∧
        p.map Char.toLower = "role_".toList) ∨
      (b = t ∧ ∀ p rest, t = p ++ rest → (String.ofList p).utf8ByteSize = 5 →
        p.map Char.toLower ≠ "role_".toList) := by
  constructor
  · rintro (⟨p, rest, hsize, hlower⟩ | ⟨t, hnone⟩)
    · exact .inl ⟨p, rfl, hsize, hlower⟩
    · exact .inr ⟨rfl, hnone⟩
  · rintro (⟨p, rfl, hsize, hlower⟩ | ⟨rfl, hnone⟩)
    · exact .strip p b hsize hlower
    · exact .keep b hnone

theorem Bare.unique {t a b : List Char} (ha : Bare t a) (hb : Bare t b) : a = b := by
  -- two prefixes spelling `ROLE_` are both five characters long, so they are the same prefix
  have hlength : ∀ {p : List Char}, p.map Char.toLower = "role_".toList → p.length = 5 :=
    fun h => by simpa using congrArg List.length h
  rcases bare_iff.mp ha with ⟨p, rfl, hsize, hlower⟩ | ⟨rfl, hnone⟩ <;>
    rcases bare_iff.mp hb with ⟨q, hsame, hsize', hlower'⟩ | ⟨hsame, hnone'⟩
  · exact (List.append_inj hsame ((hlength hlower).trans (hlength hlower').symm)).2
  · exact absurd hlower (hnone' p a rfl hsize)
  · exact absurd hlower' (hnone q b hsame hsize')
  · exact hsame.symm

/-- A code names a role exactly when, trimmed and without a leading `ROLE_`, it is the role's code
up to ASCII case. -/
theorem ofCode?_eq_some_iff {c : String} {r : Role} :
    ofCode? c = some r ↔
      ∃ bare, Bare (Text.trim c).toList bare ∧
        bare.map Char.toLower = r.code.toList.map Char.toLower := by
  have hown := bare_dropPrefix (Text.trim c).toList
  simp only [ofCode?]
  constructor
  · intro hfound
    refine ⟨_, hown, ?_⟩
    have hnamed := List.find?_some hfound
    simp only [sameIgnoringCase, beq_iff_eq] at hnamed
    exact hnamed.symm
  · rintro ⟨bare, hb, hsame⟩
    rw [← hown.unique hb] at hsame
    cases r <;> simp [all, sameIgnoringCase, hsame, code]

theorem forall_iff {P : Role → Prop} : (∀ r, P r) ↔ P .employee ∧ P .admin :=
  ⟨fun h => ⟨h _, h _⟩, fun ⟨hlow, high⟩ r => by cases r <;> assumption⟩

end Role

namespace RoleSet

theorem contains_insert_iff {s : RoleSet} {r r' : Role} :
    (s.insert r).contains r' = true ↔ s.contains r' = true ∨ r = r' := by
  cases r <;> cases r' <;> simp [insert, contains]

theorem contains_ofList {rs : List Role} {r : Role} :
    (ofList rs).contains r = true ↔ r ∈ rs := by
  have hstep : ∀ (s : RoleSet) (rs : List Role),
      (rs.foldl insert s).contains r = true ↔ s.contains r = true ∨ r ∈ rs := by
    intro s rs
    induction rs generalizing s with
    | nil => simp
    | cons x xs ih =>
      rw [List.foldl_cons, ih, contains_insert_iff, List.mem_cons]
      constructor
      · rintro ((held | rfl) | hlater)
        exacts [.inl held, .inr (.inl rfl), .inr (.inr hlater)]
      · rintro (held | rfl | hlater)
        exacts [.inl (.inl held), .inl (.inr rfl), .inr hlater]
  have hnone : empty.contains r = false := by cases r <;> rfl
  rw [ofList, hstep, hnone]
  simp

theorem ext {s t : RoleSet} (h : ∀ r, s.contains r = t.contains r) : s = t := by
  obtain ⟨employee, admin⟩ := s
  obtain ⟨employee', admin'⟩ := t
  have hsame_employee := h .employee
  have hsame_admin := h .admin
  simp only [contains] at hsame_employee hsame_admin
  rw [hsame_employee, hsame_admin]

theorem primary?_eq_some_iff {s : RoleSet} {r : Role} :
    s.primary? = some r ↔
      s.contains r = true ∧ ∀ r', s.contains r' = true → r'.rank ≤ r.rank := by
  obtain ⟨employee, admin⟩ := s
  cases employee <;> cases admin <;> cases r <;>
    simp [primary?, toList, Role.all, contains, Role.rank, Role.forall_iff]

theorem primary?_eq_none_iff {s : RoleSet} : s.primary? = none ↔ ∀ r, s.contains r = false := by
  obtain ⟨employee, admin⟩ := s
  cases employee <;> cases admin <;> simp [primary?, toList, Role.all, contains, Role.forall_iff]

end RoleSet

namespace UserBody

theorem toUser_contains (b : UserBody) (r : Role) :
    b.toUser.roles.contains r = true ↔
      ∃ c ∈ b.role.toList ++ b.roles, Role.ofCode? c = some r := by
  simp only [toUser, RoleSet.contains_ofList, List.mem_filterMap]

theorem toUser_roles_congr {b b' : UserBody}
    (h : ∀ c, c ∈ b.role.toList ++ b.roles ↔ c ∈ b'.role.toList ++ b'.roles) :
    b.toUser.roles = b'.toUser.roles := by
  apply RoleSet.ext
  intro r
  apply Bool.eq_iff_iff.mpr
  rw [toUser_contains, toUser_contains]
  simp only [h]

end UserBody

/-- Role codes are read trimmed, without one leading `ROLE_` in any ASCII case, and ignoring ASCII
case. The roles of a user the server describes are the set of the roles its codes name, whatever
their order and repeats, and the primary role of a user is the highest role it holds. -/
theorem roles_read_from_codes :
    (∀ c r, Role.ofCode? c = some r ↔
      ∃ bare, Role.Bare (Text.trim c).toList bare ∧
        bare.map Char.toLower = r.code.toList.map Char.toLower) ∧
    (∀ (b : UserBody) r, b.toUser.roles.contains r = true ↔
      ∃ c ∈ b.role.toList ++ b.roles, Role.ofCode? c = some r) ∧
    (∀ b b' : UserBody,
      (∀ c, c ∈ b.role.toList ++ b.roles ↔ c ∈ b'.role.toList ++ b'.roles) →
        b.toUser.roles = b'.toUser.roles) ∧
    (∀ (u : User) r, u.primaryRole = some r ↔
      u.hasRole r = true ∧ ∀ r', u.hasRole r' = true → r'.rank ≤ r.rank) ∧
    ∀ u : User, u.primaryRole = none ↔ ∀ r, u.hasRole r = false :=
  ⟨fun _ _ => Role.ofCode?_eq_some_iff, UserBody.toUser_contains,
    fun _ _ => UserBody.toUser_roles_congr, fun _ _ => RoleSet.primary?_eq_some_iff,
    fun _ => RoleSet.primary?_eq_none_iff⟩

end Signon
