import Signon.Proofs.Guard.Decision

/-!
Following the guard's redirects ends on a view that is shown, after at most two redirects.
-/

namespace Signon.GuardConfig

variable {c : GuardConfig} {s : Session} {p : String}

@[simp] theorem isPublic_normalizePath (c : GuardConfig) (p : String) :
    c.isPublic (normalizePath p) = c.isPublic p := by
  simp only [isPublic, normalizePath_normalizePath]

/-- The guard's decision with its tests read on the path as given. -/
theorem check_eq (c : GuardConfig) (p : String) (s : Session) :
    c.check p s =
      if !s.isAuthenticated then
        (if c.isPublic p then .allow else .redirect c.loginPath .unauthenticated)
      else if c.isPublic p then .redirect c.homePath .alreadyAuthenticated
      else if normalizePath p = normalizePath c.unauthorizedPath then .allow
      else if c.isForbidden (normalizePath p) s then .redirect c.unauthorizedPath .forbidden
      else .allow := by
  simp only [check, isPublic_normalizePath, beq_iff_eq]

/-- Settings under which the guard's redirects settle: the login view is public, and neither the
home view nor the unauthorized view is. -/
structure Settled (c : GuardConfig) : Prop where
  login_public : c.isPublic c.loginPath = true
  home_private : c.isPublic c.homePath = false
  unauthorized_private : c.isPublic c.unauthorizedPath = false

theorem default_settled : Settled {} := ⟨by decide +kernel, by decide +kernel, by decide +kernel⟩

theorem redirect_target {t : String} {r : RedirectReason} (h : c.check p s = .redirect t r) :
    (s.isAuthenticated = false ∧ t = c.loginPath) ∨
      (s.isAuthenticated = true ∧ (t = c.homePath ∨ t = c.unauthorizedPath)) := by
  rw [check_eq] at h
  cases hs : s.isAuthenticated <;> simp only [hs, Bool.not_false, Bool.not_true, if_true,
    Bool.false_eq_true, if_false] at h <;> split_ifs at h <;> cases h
  · exact .inl ⟨rfl, rfl⟩
  · exact .inr ⟨rfl, .inl rfl⟩
  · exact .inr ⟨rfl, .inr rfl⟩

theorem check_login (h : c.isPublic c.loginPath = true) (hanon : s.isAuthenticated = false) :
    c.check c.loginPath s = .allow := by
  simp [check_eq, hanon, h]

theorem check_unauthorized (h : c.isPublic c.unauthorizedPath = false)
    (hsigned : s.isAuthenticated = true) : c.check c.unauthorizedPath s = .allow := by
  simp [check_eq, hsigned, h]

theorem check_home (h : c.isPublic c.homePath = false) (hsigned : s.isAuthenticated = true) :
    c.check c.homePath s = .allow ∨ c.check c.homePath s = .redirect c.unauthorizedPath .forbidden := by
  rw [check_eq]
  simp only [hsigned, h, Bool.not_true, Bool.false_eq_true, if_false]
  split_ifs <;> simp

/-- Navigation under the guard never loops. Under settings that settle, the target of every
redirect is shown, or redirects once more to a view that is shown. -/
theorem redirects_settle (hc : c.Settled) {t : String} {r : RedirectReason}
    (h : c.check p s = .redirect t r) :
    c.check t s = .allow ∨ ∃ u r', c.check t s = .redirect u r' ∧ c.check u s = .allow := by
  rcases redirect_target h with ⟨hanon, rfl⟩ | ⟨hsigned, rfl | rfl⟩
  · exact .inl (check_login hc.login_public hanon)
  · rcases check_home hc.home_private hsigned with hshown | hrefused
    · exact .inl hshown
    · exact .inr ⟨_, _, hrefused, check_unauthorized hc.unauthorized_private hsigned⟩
  · exact .inl (check_unauthorized hc.unauthorized_private hsigned)

/-- A hsigned-in session on the login view under the default settings is sent home, and the home
view is then hshown. -/
theorem login_redirect_settles :
    let s := Session.signedIn (.cookie "JSESSIONID" "abc") none
    Settled {} ∧ (({} : GuardConfig).check "/auth/login" s = .redirect "/dashboard" .alreadyAuthenticated) ∧
      (({} : GuardConfig).check "/dashboard" s = .allow ∨
        ∃ u r', ({} : GuardConfig).check "/dashboard" s = .redirect u r' ∧
          ({} : GuardConfig).check u s = .allow) :=
  have hsent : ({} : GuardConfig).check "/auth/login" (.signedIn (.cookie "JSESSIONID" "abc") none) =
      .redirect "/dashboard" .alreadyAuthenticated := by decide +kernel
  ⟨default_settled, hsent, redirects_settle default_settled hsent⟩

end Signon.GuardConfig
