import Signon.Guard
import Mathlib.Data.List.DropRight
import Mathlib.Data.List.TakeWhile

/-!
How the route guard decides, read on normal paths: a query, a fragment or trailing slashes never
change the decision.
-/

namespace Signon

def IsNormalPath (q : String) : Prop :=
  q = "/" ∨ (q.toList ≠ [] ∧ (∀ c ∈ q.toList, c ≠ '?' ∧ c ≠ '#') ∧ q.toList.getLast? ≠ some '/')

/-- Normalizing keeps the characters before the first `?` or `#`, less the trailing slashes. -/
theorem normalizePath_eq (p : String) :
    normalizePath p =
      match (p.toList.takeWhile fun c => c ≠ '?' ∧ c ≠ '#').rdropWhile (· = '/') with
      | [] => "/"
      | trimmed => String.ofList trimmed := rfl

theorem normalizePath_isNormal (p : String) : IsNormalPath (normalizePath p) := by
  rw [normalizePath_eq]
  generalize hk : (p.toList.takeWhile fun c => c ≠ '?' ∧ c ≠ '#') = kept
  have hpre : kept.rdropWhile (· = '/') <+: kept := List.rdropWhile_prefix _ _
  have hlast := List.rdropWhile_last_not (· = '/') kept
  generalize kept.rdropWhile (· = '/') = t at hpre hlast
  cases t with
  | nil => exact .inl rfl
  | cons a rest =>
    show IsNormalPath (String.ofList (a :: rest))
    refine .inr ⟨by simp, fun c hc => ?_, ?_⟩
    · rw [String.toList_ofList] at hc
      have hkept : c ∈ p.toList.takeWhile fun c => c ≠ '?' ∧ c ≠ '#' := hk ▸ hpre.subset hc
      have hmarks := List.mem_takeWhile_imp hkept
      simpa using hmarks
    · rw [String.toList_ofList, List.getLast?_eq_some_getLast (List.cons_ne_nil a rest)]
      intro hl
      exact hlast (List.cons_ne_nil a rest) (by simpa using Option.some.inj hl)

theorem normalizePath_of_isNormal {q : String} (h : IsNormalPath q) : normalizePath q = q := by
  rcases h with rfl | ⟨hne, hmarks, hlast⟩
  · rfl
  · have hkept : (q.toList.takeWhile fun c => c ≠ '?' ∧ c ≠ '#') = q.toList :=
      List.takeWhile_eq_self_iff.mpr fun c hc => by simpa using hmarks c hc
    have htrimmed : q.toList.rdropWhile (· = '/') = q.toList := by
      refine List.rdropWhile_eq_self_iff.mpr fun hl hs => hlast ?_
      rw [List.getLast?_eq_some_getLast hl]
      simpa using hs
    rw [normalizePath_eq, hkept, htrimmed]
    split
    · contradiction
    · exact String.ofList_toList

@[simp] theorem normalizePath_normalizePath (p : String) :
    normalizePath (normalizePath p) = normalizePath p :=
  normalizePath_of_isNormal (normalizePath_isNormal p)

def Covers (pre q : String) : Prop :=
  pre = "/" ∨ q = pre ∨ ∃ rest, q = pre ++ "/" ++ rest

theorem pathHasPrefix_iff {q pre : String} : pathHasPrefix q pre = true ↔ Covers pre q := by
  unfold pathHasPrefix Covers
  by_cases hroot : pre = "/"
  · simp [hroot]
  simp only [hroot, if_false, false_or, List.splitAt_eq, Bool.and_eq_true, beq_iff_eq,
    Bool.or_eq_true, List.isEmpty_iff]
  rw [← String.length_toList]
  constructor
  · rintro ⟨head, hrest⟩
    have hsplit : q.toList = pre.toList ++ q.toList.drop pre.toList.length := by
      conv_lhs => rw [← List.take_append_drop pre.toList.length q.toList]
      rw [head]
    rcases hrest with hrest | hrest
    · left
      apply String.ext
      rw [hsplit, hrest, List.append_nil]
    · right
      obtain ⟨tail, htail⟩ : ∃ tail, q.toList.drop pre.toList.length = '/' :: tail := by
        cases hd : q.toList.drop pre.toList.length with
        | nil => simp [hd] at hrest
        | cons c tail =>
          simp only [hd, List.head?_cons, Option.some.injEq] at hrest
          exact ⟨tail, by rw [hrest]⟩
      refine ⟨String.ofList tail, String.ext ?_⟩
      rw [hsplit, htail]
      simp
  · rintro (rfl | ⟨hrest, rfl⟩)
    · simp only [List.take_length, List.drop_length, true_or, and_self]
    · have hslash : ("/" : String).toList = ['/'] := rfl
      simp only [String.toList_append, hslash, List.append_assoc, List.singleton_append]
      exact ⟨List.take_left' rfl, .inr (by rw [List.drop_left' rfl]; rfl)⟩

theorem isPublic_iff {c : GuardConfig} {p : String} :
    c.isPublic p = true ↔ ∃ r ∈ c.publicRoutes, normalizePath r = normalizePath p := by
  simp [GuardConfig.isPublic]

theorem RoleSet.mem_toList {s : RoleSet} {r : Role} : r ∈ s.toList ↔ s.contains r = true := by
  cases r <;> simp [RoleSet.toList, Role.all]

def Session.HoldsOneOf (s : Session) (allowed : RoleSet) : Prop :=
  ∃ role u, allowed.contains role = true ∧ s.user = some u ∧ u.hasRole role = true

theorem any_hasRole_iff {s : Session} {allowed : RoleSet} :
    allowed.toList.any s.hasRole = true ↔ s.HoldsOneOf allowed := by
  simp only [List.any_eq_true, RoleSet.mem_toList, Session.HoldsOneOf]
  constructor
  · rintro ⟨role, hc, hr⟩
    unfold Session.hasRole at hr
    split at hr
    · exact ⟨role, _, hc, by assumption, hr⟩
    · cases hr
  · rintro ⟨role, u, hc, hu, hr⟩
    exact ⟨role, hc, by simp [Session.hasRole, hu, hr]⟩

theorem isForbidden_iff {c : GuardConfig} {q : String} {s : Session} :
    c.isForbidden q s = true ↔ ∃ r ∈ c.roleRules, Covers r.pre q ∧ ¬ s.HoldsOneOf r.allowed := by
  simp only [GuardConfig.isForbidden, List.any_eq_true, Bool.and_eq_true, Bool.not_eq_true',
    pathHasPrefix_iff]
  constructor
  · rintro ⟨r, hr, hcov, hnone⟩
    exact ⟨r, hr, hcov, fun held => by simp [any_hasRole_iff.mpr held] at hnone⟩
  · rintro ⟨r, hr, hcov, hnone⟩
    refine ⟨r, hr, hcov, ?_⟩
    cases hany : r.allowed.toList.any s.hasRole with
    | false => rfl
    | true => exact absurd (any_hasRole_iff.mp hany) hnone

@[simp] theorem GuardConfig.check_normalizePath (c : GuardConfig) (p : String) (s : Session) :
    c.check (normalizePath p) s = c.check p s := by
  simp only [GuardConfig.check, normalizePath_normalizePath]

/-- How the guard decides. The decision on a path is the decision on its normal form `q`. A
signed-out session is let through exactly to the views whose routes normalize to `q`, and sent to
log in from any other. A signed-in session is sent home from those views and always shown the
unauthorized view; elsewhere it is shown the view when every rule covering `q` allows a role its
user holds, and refused as forbidden when one does not. -/
theorem check_by_rules (c : GuardConfig) (p : String) (s : Session) :
    let q := normalizePath p
    let shown := ∃ r ∈ c.publicRoutes, normalizePath r = q
    let permitted := ∀ r ∈ c.roleRules, Covers r.pre q → s.HoldsOneOf r.allowed
    c.check p s = c.check q s ∧
    (s.isAuthenticated = false →
      (shown → c.check p s = .allow) ∧
      (¬ shown → c.check p s = .redirect c.loginPath .unauthenticated)) ∧
    (s.isAuthenticated = true →
      (shown → c.check p s = .redirect c.homePath .alreadyAuthenticated) ∧
      (¬ shown → q = normalizePath c.unauthorizedPath → c.check p s = .allow) ∧
      (¬ shown → q ≠ normalizePath c.unauthorizedPath →
        (permitted → c.check p s = .allow) ∧
        (¬ permitted → c.check p s = .redirect c.unauthorizedPath .forbidden))) := by
  intro q shown permitted
  have hpub : c.isPublic q = true ↔ shown := by
    rw [isPublic_iff, normalizePath_normalizePath]
  have hforb : c.isForbidden q s = true ↔ ¬ permitted := by
    rw [isForbidden_iff]
    simp only [permitted, not_forall, exists_prop]
  have hunfolded : c.check p s =
      if !s.isAuthenticated then
        (if c.isPublic q then .allow else .redirect c.loginPath .unauthenticated)
      else if c.isPublic q then .redirect c.homePath .alreadyAuthenticated
      else if q == normalizePath c.unauthorizedPath then .allow
      else if c.isForbidden q s then .redirect c.unauthorizedPath .forbidden
      else .allow := rfl
  have hanonymous : ∀ {α : Type} {a b : α}, s.isAuthenticated = false →
      (if (!s.isAuthenticated) = true then a else b) = a := fun hanon => if_pos (by simp [hanon])
  have hsignedIn : ∀ {α : Type} {a b : α}, s.isAuthenticated = true →
      (if (!s.isAuthenticated) = true then a else b) = b := fun hsigned => if_neg (by simp [hsigned])
  refine ⟨(c.check_normalizePath p s).symm, fun hanon => ⟨fun h => ?_, fun h => ?_⟩,
    fun hsigned => ⟨fun h => ?_, fun h hu => ?_, fun h hu => ⟨fun hp => ?_, fun hp => ?_⟩⟩⟩
  · rw [hunfolded, hanonymous hanon, if_pos (hpub.mpr h)]
  · rw [hunfolded, hanonymous hanon, if_neg (mt hpub.mp h)]
  · rw [hunfolded, hsignedIn hsigned, if_pos (hpub.mpr h)]
  · rw [hunfolded, hsignedIn hsigned, if_neg (mt hpub.mp h), if_pos (beq_iff_eq.mpr hu)]
  · rw [hunfolded, hsignedIn hsigned, if_neg (mt hpub.mp h), if_neg (by simpa using hu),
      if_neg (mt hforb.mp (not_not.mpr hp))]
  · rw [hunfolded, hsignedIn hsigned, if_neg (mt hpub.mp h), if_neg (by simpa using hu),
      if_pos (hforb.mpr hp)]

end Signon
