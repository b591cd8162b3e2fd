import Signon.Proofs.Gateway.Interceptor
import Signon.Proofs.Http.CookieHeader
import Signon.Store.Basic

/-!
Signing out, whatever the server and the vault answer: the session is cleared, the vault
emptied, and the logout request goes out at most once, never refreshed.
-/

namespace Signon

namespace Op

variable {γ : Type}

@[simp] theorem clearVault_run_fst (w : World γ) : (clearVault.run w).1 = w.vault.clear.1 :=
  (clearVault_eq rfl).1

@[simp] theorem clearVault_run_state (w : World γ) : (clearVault.run w).2.state = w.state :=
  (clearVault_eq rfl).2.1

@[simp] theorem clearVault_run_vault (w : World γ) :
    (clearVault.run w).2.vault = w.vault.clear.2 :=
  (clearVault_eq rfl).2.2.1

@[simp] theorem clearVault_run_gateway (w : World γ) :
    (clearVault.run w).2.gateway = w.gateway :=
  (clearVault_eq rfl).2.2.2.2

end Op

namespace Store

variable {γ : Type} (g : Gateway γ)

/-- `Asked g w held r w'`: the server's part of signing out, started on `w` with the credentials
`held`, answered `r` and left `w'`. Held credentials are handed to the gateway's logout; without
them nothing is asked and the part counts as done. -/
inductive Asked (w : World γ) : Option Credentials → Except Failure Unit → World γ → Prop
  | told {c : Credentials} {r : Except Failure Unit} {w' : World γ} :
      (g.logout c).run w = (r, w') → Asked w (some c) r w'
  | skipped {w' : World γ} : World.Alike w w' → Asked w none (.ok ()) w'

/-- After the server's part, signing out clears the session and empties the vault once, whatever
either answered; the server's failure is reported, else the vault's outcome. -/
theorem logout_run (w : World γ) :
    ∃ remote w₁, Asked g w w.state.credentials remote w₁ ∧
      let run := (logout g).run w
      run.2.state = w₁.state.clear ∧ run.2.vault = w₁.vault.clear.2 ∧ run.2.gateway = w₁.gateway ∧
        run.1 = remote.bind fun _ => w₁.vault.clear.1 := by
  rcases hc : w.state.credentials with _ | c
  · refine ⟨.ok (), _, .skipped ⟨rfl, rfl, rfl, rfl⟩, ?_⟩
    simp only [logout, Op.run_bind, Op.run_state, hc, Op.run_note, Op.run_pure,
      Op.run_modifyState, Op.run_attempt, Op.run_lift, Op.clearVault_run_fst,
      Op.clearVault_run_state, Op.clearVault_run_vault, Op.clearVault_run_gateway,
      Except.bind_ok, and_self]
  · rcases hl : (g.logout c).run w with ⟨remote, w₁⟩
    refine ⟨remote, w₁, .told hl, ?_⟩
    simp only [logout, Op.run_bind, Op.run_state, hc, Op.run_attempt, hl, Op.run_modifyState]
    cases remote <;> simp only [Op.run_bind, Op.run_note, Op.run_throw, Op.run_lift,
      Op.clearVault_run_fst, Op.clearVault_run_state, Op.clearVault_run_vault,
      Op.clearVault_run_gateway, Except.bind_ok, Except.bind_error, and_self]

end Store

namespace HttpGateway

variable {ν : Type} {cfg : HttpSettings}

open Http.SetCookie in
theorem sessionExpiry_wellformed (hn : ValidName cfg.cookieName) :
    (sessionExpiry cfg).Wellformed where
  name := hn
  value_semi := by simp [sessionExpiry]
  path := by
    intro p hp
    cases hp
    exact ⟨unpadded_of_forall (by simp [Text.isBlank]), by decide +kernel⟩
  domain := by simp [sessionExpiry]
  maxAge := by
    intro a ha
    cases ha
    decide

theorem parse_sessionExpiry (hn : Http.SetCookie.ValidName cfg.cookieName) :
    Http.SetCookie.parse (sessionExpiry cfg).header = some (sessionExpiry cfg) := by
  have hempty : (sessionExpiry cfg).value.toList = [] := rfl
  rw [Http.SetCookie.parse_header (sessionExpiry_wellformed hn), hempty]
  rfl

/-- Adding the expiry cookie takes the session cookie of the root path out of the jar, and
nothing else. -/
theorem add_sessionExpiry (hn : Http.SetCookie.ValidName cfg.cookieName) (j : Http.Jar) (u : Url) :
    j.add (sessionExpiry cfg).header u =
      ⟨j.cookies.filter fun k =>
        !(k.name == cfg.cookieName && k.host == Http.Jar.hostOf u && k.path == "/")⟩ := by
  have hroot : "/".startsWith "/" = true := by decide +kernel
  have hexpired : (some (0 : Int)).any (· ≤ 0) = true := by decide
  rw [Http.Jar.add, parse_sessionExpiry hn]
  simp only [Http.Jar.store, sessionExpiry, hroot, if_true, hexpired]

theorem expireCookie_jar {w w' : World (Link ν)} {r : Except Failure Unit}
    (h : (expireCookie cfg).run w = (r, w')) :
    w'.gateway.jar = w.gateway.jar.map fun j => j.add (sessionExpiry cfg).header cfg.base := by
  simp only [expireCookie, Op.run_bind, Op.run_gateway] at h
  split at h
  · rename_i hnone_held
    cases h
    rw [hnone_held, Option.map_none]
  · rename_i j held
    simp only [Op.run_setGateway] at h
    cases h
    rw [held, Option.map_some]

/-- A logout whose request went out expires the session cookie last. -/
theorem logout_jar {t : Http.Transport ν} {c : Credentials} {w w' : World (Link (ν × List Exchange))}
    {r : Except Failure Unit} (h : (logout cfg t.recorded c).run w = (r, w'))
    (hsent : w'.gateway.net.2 ≠ w.gateway.net.2) :
    ∃ jar : Option Http.Jar,
      w'.gateway.jar = jar.map fun j => j.add (sessionExpiry cfg).header cfg.base := by
  simp only [logout] at h
  rw [Op.run_bind] at h
  rcases hp : (prepare cfg .post cfg.endpoints.logout none).run w with ⟨f | req, w₁⟩ <;>
    simp only [hp] at h <;> obtain ⟨-, halike⟩ := prepare_eq hp
  · cases h
    exact absurd (by rw [halike.gateway]) hsent
  rw [Op.run_bind] at h
  rcases ha : (authorization cfg (some c)).run w₁ with ⟨f | a, w₂⟩ <;>
    simp only [ha] at h <;> obtain ⟨-, q⟩ := authorization_eq ha
  · cases h
    exact absurd (by rw [q.net, halike.gateway]) hsent
  rw [Op.run_bind, Op.run_attempt, ← bind_assoc,
    @Op.run_bind_reader _ _ _ _ (fun _ => pure ()) (fun _ => .ok ()) fun _ _ => rfl] at h
  rcases hd : (dispatch t.recorded req a >>= checkStatus).run w₂ with ⟨answer, w₃⟩
  rw [hd] at h
  simp only [Op.run_bind] at h
  rcases hx : (expireCookie cfg).run w₃ with ⟨rx, w₄⟩
  obtain ⟨rfl, -⟩ := expireCookie_eq hx
  rw [hx] at h
  cases h
  exact ⟨w₃.gateway.jar, expireCookie_jar hx⟩

/-- Once the expiry cookie is added, no session cookie of the root path is left under the base's
host. -/
theorem expired_session_cookie (hn : Http.SetCookie.ValidName cfg.cookieName)
    {jar : Option Http.Jar} :
    ∀ j ∈ jar.map (fun j => j.add (sessionExpiry cfg).header cfg.base), ∀ k ∈ j.cookies,
      k.name = cfg.cookieName → k.host = Http.Jar.hostOf cfg.base → k.path ≠ "/" := by
  intro j hj k hk hname host hroot
  obtain ⟨j₀, -, rfl⟩ := Option.map_eq_some_iff.mp hj
  rw [add_sessionExpiry hn] at hk
  simp [hname, host, hroot] at hk

/-- `LogoutRequest cfg held sent remote`: signing out with the credentials `held` made the
exchanges `sent`, and the server's part of it answered `remote`. -/
inductive LogoutRequest (cfg : HttpSettings) :
    Option Credentials → List Exchange → Except Failure Unit → Prop
  /-- Nothing held: nothing is sent, and the server's part counts as done. -/
  | skipped : LogoutRequest cfg none [] (.ok ())
  /-- The held credentials are presented with one request, never refreshed or sent again; its
  answer, less the response, is the server's part. -/
  | presented {c : Credentials} {sent : List Exchange} {answer : Except Failure Http.Response} :
      SentOnce cfg .post cfg.endpoints.logout none (authorizationValue (some c)) sent answer →
      LogoutRequest cfg (some c) sent ((fun _ => ()) <$> answer)

end HttpGateway

open HttpGateway in
/-- Signing out over HTTP, for every session, every answer of the server and every vault: the
session is cleared, which leaves it anonymous with the generation moved on once; the vault is
emptied once; the logout request goes out at most once and only with the credentials held,
never refreshed or retried; the server's failure is reported, else the vault's outcome; and
whenever the request went out, the jar's session cookie is expired. -/
theorem logout_signs_out (cfg : HttpSettings) {ν : Type} (t : Http.Transport ν)
    (w : World (Link (ν × List Exchange))) :
    let run := (Store.logout (gateway cfg t.recorded)).run w
    run.2.state = w.state.clear ∧ run.2.vault = w.vault.clear.2 ∧
      ∃ sent remote, run.2.gateway.net.2 = w.gateway.net.2 ++ sent ∧
        LogoutRequest cfg w.state.credentials sent remote ∧
        run.1 = remote.bind (fun _ => w.vault.clear.1) ∧
        (sent ≠ [] → ∃ jar : Option Http.Jar,
          run.2.gateway.jar = jar.map fun j => j.add (sessionExpiry cfg).header cfg.base) ∧
        (Http.SetCookie.ValidName cfg.cookieName → sent ≠ [] → ∀ j ∈ run.2.gateway.jar,
          ∀ k ∈ j.cookies, k.name = cfg.cookieName → k.host = Http.Jar.hostOf cfg.base →
            k.path ≠ "/") := by
  dsimp only
  obtain ⟨remote, w₁, hasked, hs, hv, hg, hr⟩ := Store.logout_run (gateway cfg t.recorded) w
  generalize w.state.credentials = held at hasked ⊢
  cases hasked with
  | @told c remote w₁ hl =>
    obtain ⟨hst, hva, sent, answer, hn, honce, rfl⟩ := logout_run hl
    have hjar : sent ≠ [] → ∃ hjar : Option Http.Jar,
        ((Store.logout (gateway cfg t.recorded)).run w).2.gateway.jar =
          hjar.map fun j => j.add (sessionExpiry cfg).header cfg.base := fun hne => by
      rw [hg]
      exact logout_jar hl (by rw [hn]; simpa using hne)
    refine ⟨by rw [hs, hst], by rw [hv, hva], sent, _, by rw [hg, hn], .presented honce,
      by rw [hr, hva], hjar, fun hvalid hne => ?_⟩
    obtain ⟨j, hj⟩ := hjar hne
    rw [hj]
    exact expired_session_cookie hvalid
  | skipped halike =>
    refine ⟨by rw [hs, halike.state], by rw [hv, halike.vault], [], .ok (),
      by rw [hg, halike.gateway, List.append_nil], .skipped, by rw [hr, halike.vault],
      fun hne => absurd rfl hne, fun _ hne => absurd rfl hne⟩

end Signon
