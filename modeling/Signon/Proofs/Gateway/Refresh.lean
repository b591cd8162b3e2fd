import Signon.Proofs.Gateway.Effects

/-!
How a refresh of held credentials ends: granted, with the merged credentials published and kept,
or refused, with the session cleared and the vault emptied; the generation moves on by one.
-/

namespace Signon.HttpGateway

variable {ν : Type}

/-- The exchanges of a refresh on behalf of `current` granted `c` and named `u`: one exchange,
answered with a success status and a body that decodes; `c` is the held credentials merged with
the fresh ones the answer carries, or the held cookie when it carries none, and `u` is the user
it names. -/
def RefreshGranted (cfg : HttpSettings) (current : Credentials) (sent : List Exchange)
    (c : Credentials) (u : Option User) : Prop :=
  ∃ e resp body, sent = [e] ∧ e.outcome = .ok resp ∧ Http.isSuccess resp.status = true ∧
    decodeOrEmpty AuthBody.ofBytes AuthBody.empty resp = .ok body ∧
    u = (grantFrom cfg resp body).user ∧
    ((∃ fresh, (grantFrom cfg resp body).credentials = some fresh ∧
        c = current.mergeRefreshed fresh) ∨
      ((grantFrom cfg resp body).credentials = none ∧ (∃ n v, current = .cookie n v) ∧ c = current))

theorem ensureSuccess_eq_ok {r r' : Http.Response} :
    ensureSuccess r = .ok r' ↔ Http.isSuccess r.status = true ∧ r' = r := by
  unfold ensureSuccess
  split
  · rename_i hs
    constructor
    · rintro ⟨⟩
      exact ⟨hs, rfl⟩
    · rintro ⟨-, rfl⟩
      rfl
  · rename_i hs
    simp [hs]

/-- A refresh's request, to the refresh endpoint, as `prepare` makes it. -/
theorem prepare_refresh_ok {cfg : HttpSettings} {req : Http.Request}
    {o : Except Http.TransportError Http.Response}
    (h : preparedRequest cfg .post cfg.endpoints.refresh none = .ok req)
    (a : Option Http.HeaderValue) :
    Exchange.IsRefresh cfg ⟨{ req with authorization := a }, o⟩ := by
  cases hu : Http.endpointUrl cfg.base cfg.endpoints.refresh with
  | error e => simp [preparedRequest, hu] at h
  | ok url =>
    simp only [preparedRequest, hu, Except.map_ok, Except.mapError_ok, Except.ok.injEq] at h
    subst h
    exact ⟨rfl, rfl, hu⟩

/-- What a refresh answer grants: fresh credentials merged into the held ones, or the held cookie
when the answer carries none; a bearer session without fresh credentials is refused. -/
theorem refreshGrant_eq_ok {cfg : HttpSettings} {current c : Credentials} {resp : Http.Response}
    {u : Option User} :
    refreshGrant cfg current resp = .ok (c, u) ↔
      ∃ body, decodeOrEmpty AuthBody.ofBytes AuthBody.empty resp = .ok body ∧
        u = (grantFrom cfg resp body).user ∧
        ((∃ fresh, (grantFrom cfg resp body).credentials = some fresh ∧
            c = current.mergeRefreshed fresh) ∨
          ((grantFrom cfg resp body).credentials = none ∧ (∃ n v, current = .cookie n v) ∧
            c = current)) := by
  unfold refreshGrant
  cases hd : decodeOrEmpty AuthBody.ofBytes AuthBody.empty resp with
  | error f => simp [bind, Except.bind]
  | ok body =>
    simp only [bind, Except.bind, Except.ok.injEq, exists_eq_left']
    cases hg : (grantFrom cfg resp body).credentials with
    | some fresh => simp [pure, Except.pure, eq_comm, and_comm]
    | none =>
      cases current with
      | bearer a rt => simp [throw, throwThe, MonadExceptOf.throw]
      | cookie n v => simp [pure, Except.pure, eq_comm, and_comm]

theorem refreshGranted_iff {cfg : HttpSettings} {current c : Credentials} {sent : List Exchange}
    {u : Option User} :
    RefreshGranted cfg current sent c u ↔ ∃ e resp, sent = [e] ∧ e.outcome = .ok resp ∧
      Http.isSuccess resp.status = true ∧ refreshGrant cfg current resp = .ok (c, u) := by
  constructor
  · rintro ⟨e, resp, body, hs, ho, hsucc, hd, hu, hc⟩
    exact ⟨e, resp, hs, ho, hsucc, refreshGrant_eq_ok.mpr ⟨body, hd, hu, hc⟩⟩
  · rintro ⟨e, resp, hs, ho, hsucc, hg⟩
    obtain ⟨body, hd, hu, hc⟩ := refreshGrant_eq_ok.mp hg
    exact ⟨e, resp, body, hs, ho, hsucc, hd, hu, hc⟩

/-- A refresh request makes at most one exchange, with the refresh endpoint, and leaves the
session, the vault and the clock alone; it answers exactly when that exchange granted. -/
theorem requestRefresh_eq {cfg : HttpSettings} {t : Http.Transport ν} {current : Credentials}
    {w w' : World (Link (ν × List Exchange))} {r : Except Failure (Credentials × Option User)}
    (h : (requestRefresh cfg t.recorded current).run w = (r, w')) :
    w'.state = w.state ∧ w'.vault = w.vault ∧ w'.clock = w.clock ∧
      ∃ sent, w'.gateway.net.2 = w.gateway.net.2 ++ sent ∧ sent.length ≤ 1 ∧
        (∀ e ∈ sent, e.IsRefresh cfg) ∧
        (∀ f, refreshAuthorizationValue current = .error f → sent = []) ∧
        ∀ c u, r = .ok (c, u) ↔ RefreshGranted cfg current sent c u := by
  have hunsent : ∀ {e : Failure} {w₁ : World (Link (ν × List Exchange))}, World.Quiet w w₁ →
      (Except.error e, w₁) = (r, w') →
      w'.state = w.state ∧ w'.vault = w.vault ∧ w'.clock = w.clock ∧
        ∃ sent, w'.gateway.net.2 = w.gateway.net.2 ++ sent ∧ sent.length ≤ 1 ∧
          (∀ e ∈ sent, e.IsRefresh cfg) ∧
          (∀ f, refreshAuthorizationValue current = .error f → sent = []) ∧
          ∀ c u, r = .ok (c, u) ↔ RefreshGranted cfg current sent c u := by
    rintro e w₁ q ⟨⟩
    refine ⟨q.state, q.vault, q.clock, [], by simp [q.net], by simp, by simp, fun _ _ => rfl, ?_⟩
    intro c u
    simp [RefreshGranted]
  simp only [requestRefresh, Op.run_bind] at h
  rcases ha : (refreshAuthorization cfg current).run w with ⟨_ | auth, w₁⟩ <;> simp only [ha] at h
  · exact hunsent (refreshAuthorization_eq ha).2 h
  obtain ⟨hauth, hq₁⟩ := refreshAuthorization_eq ha
  have hpresented : ∀ f, refreshAuthorizationValue current = .error f → False := by
    intro f hf
    rw [hf] at hauth
    cases hauth
  rcases hp : (prepare cfg .post cfg.endpoints.refresh none).run w₁ with ⟨_ | req, w₂⟩ <;>
    simp only [hp] at h
  · exact hunsent (hq₁.trans (prepare_eq hp).2.quiet) h
  obtain ⟨hreq, halike₂⟩ := prepare_eq hp
  have hq₂ := hq₁.trans halike₂.quiet
  rcases hd : (dispatch t.recorded req auth).run w₂ with ⟨rd, w₃⟩
  obtain ⟨hrd, hs₃, hv₃, hc₃, hn₃⟩ := dispatch_recorded_eq hd
  simp only [hd] at h
  generalize ho : (t.exchange { req with authorization := auth } w₂.gateway.jar
    w₂.gateway.net.1).1 = o at hrd hn₃
  have hrefresh : Exchange.IsRefresh cfg ⟨{ req with authorization := auth }, o⟩ :=
    prepare_refresh_ok hreq.symm auth
  have hafter : ∀ {w₄ : World (Link (ν × List Exchange))}, World.Alike w₃ w₄ →
      w₄.state = w.state ∧ w₄.vault = w.vault ∧ w₄.clock = w.clock ∧
        w₄.gateway.net.2 = w.gateway.net.2 ++ [⟨{ req with authorization := auth }, o⟩] := by
    intro w₄ halike
    refine ⟨by rw [halike.state, hs₃, hq₂.state], by rw [halike.vault, hv₃, hq₂.vault],
      by rw [halike.clock, hc₃, hq₂.clock], ?_⟩
    rw [halike.gateway, hn₃, hq₂.net]
  rcases o with x | resp
  · simp only [Except.mapError_error] at hrd
    subst hrd
    cases h
    obtain ⟨hs, hv, hc, hn⟩ := hafter ⟨rfl, rfl, rfl, rfl⟩
    refine ⟨hs, hv, hc, _, hn, by simp, by simpa using hrefresh,
      fun f hf => (hpresented f hf).elim, fun c u => ?_⟩
    simp only [reduceCtorEq, false_iff, refreshGranted_iff]
    rintro ⟨e', resp, he', ho', -⟩
    cases he'
    cases ho'
  · simp only [Except.mapError_ok] at hrd
    subst hrd
    simp only at h
    rcases hc : (checkStatus resp).run w₃ with ⟨rc, w₄⟩
    obtain ⟨hrc, halike₄⟩ := checkStatus_eq hc
    obtain ⟨hs, hv, hk, hn⟩ := hafter halike₄
    simp only [hc] at h
    subst hrc
    cases hok : ensureSuccess resp with
    | error f =>
      simp only [hok] at h
      cases h
      refine ⟨hs, hv, hk, _, hn, by simp, by simpa using hrefresh,
        fun f hf => (hpresented f hf).elim, fun c u => ?_⟩
      simp only [reduceCtorEq, false_iff, refreshGranted_iff]
      rintro ⟨e', resp', he', ho', hsucc, -⟩
      cases he'
      cases ho'
      rw [ensureSuccess_eq_ok.mpr ⟨hsucc, rfl⟩] at hok
      cases hok
    | ok resp' =>
      obtain ⟨hsucc, rfl⟩ := ensureSuccess_eq_ok.mp hok
      simp only [hok, Op.run_lift] at h
      cases h
      refine ⟨hs, hv, hk, _, hn, by simp, by simpa using hrefresh,
        fun f hf => (hpresented f hf).elim, fun c u => ?_⟩
      rw [refreshGranted_iff]
      exact ⟨fun hr => ⟨_, resp', rfl, rfl, hsucc, hr⟩,
        fun ⟨e', resp'', he', ho', _, hr⟩ => by cases he'; cases ho'; exact hr⟩

/-- A refresh of held credentials either adopts what its exchange granted, or expires the
session; it makes at most one exchange, with the refresh endpoint. -/
theorem refreshLocked_eq {cfg : HttpSettings} {t : Http.Transport ν} {current : Credentials}
    {w w' : World (Link (ν × List Exchange))} {r : Except Failure Session}
    (hheld : w.state.credentials = some current)
    (h : (refreshLocked cfg t.recorded).run w = (r, w')) :
    w'.clock = w.clock ∧ ∃ sent, w'.gateway.net.2 = w.gateway.net.2 ++ sent ∧ sent.length ≤ 1 ∧
      (∀ e ∈ sent, e.IsRefresh cfg) ∧
      (∀ f, refreshAuthorizationValue current = .error f → sent = []) ∧
      ((∃ c u, RefreshGranted cfg current sent c u ∧ w'.state = w.state.replaceCredentials c u ∧
          r = .ok w'.state.session ∧ w'.vault = w.vault.persisted w'.state.session w.clock) ∨
        ((¬ ∃ c u, RefreshGranted cfg current sent c u) ∧ w'.state = w.state.clear ∧
          r = .error .sessionExpired ∧ w'.vault = w.vault.clear.2)) := by
  simp only [refreshLocked, Op.run_bind, Op.run_state, SessionState.credentials] at h
  simp only [SessionState.credentials] at hheld
  simp only [hheld, Op.run_bind, Op.run_attempt] at h
  rcases hq : (requestRefresh cfg t.recorded current).run w with ⟨rq, w₁⟩
  obtain ⟨hs₁, hv₁, hc₁, sent, hn₁, hlen, hrf, hun, hgr⟩ := requestRefresh_eq hq
  simp only [hq] at h
  rcases rq with f | ⟨c, u⟩
  · simp only [Op.run_bind] at h
    rcases hx : (expireSession cfg).run w₁ with ⟨rx, w₂⟩
    obtain ⟨rfl, hs₂, hv₂, hc₂, hn₂⟩ := expireSession_eq hx
    simp only [hx, Op.run_throw] at h
    cases h
    refine ⟨hc₂.trans hc₁, sent, by rw [hn₂, hn₁], hlen, hrf, hun, .inr ⟨?_, ?_, rfl, ?_⟩⟩
    · rintro ⟨c, u, hg⟩
      simpa using (hgr c u).mpr hg
    · rw [hs₂, hs₁]
    · rw [hv₂, hv₁]
  · simp only [Op.run_bind, Op.run_modifyState, Op.run_state, Op.run_note, Op.run_pure] at h
    rcases ht : (Op.tolerate (Op.persist (w₁.state.replaceCredentials c u).session)).run
      { w₁ with state := w₁.state.replaceCredentials c u } with ⟨rt, w₂⟩
    obtain ⟨rfl, halike⟩ := Op.tolerate_eq ht
    obtain ⟨hs₃, hv₃, hc₃, hg₃⟩ := Op.persist_run (w₁.state.replaceCredentials c u).session
      { w₁ with state := w₁.state.replaceCredentials c u }
    simp only [ht] at h
    cases h
    have hs : w₂.state = w.state.replaceCredentials c u := by rw [halike.state, hs₃, hs₁]
    refine ⟨by rw [halike.clock, hc₃, hc₁], sent, by rw [halike.gateway, hg₃, hn₁], hlen, hrf, hun,
      .inl ⟨c, u, (hgr c u).mp rfl, hs, by rw [hs, hs₁], ?_⟩⟩
    rw [halike.vault, hv₃, hs, hs₁, hv₁, hc₁]

theorem mergeRefreshed_keeps_refreshToken (current : Credentials) (a : AccessToken) :
    (current.mergeRefreshed (.bearer a none)).refreshToken? = current.refreshToken? := by
  cases current <;> rfl

theorem bearerCredentials_without_refresh {b : AuthBody} {fresh : Credentials}
    (hblank : b.refreshToken = none ∨ ∃ s, b.refreshToken = some s ∧ Text.isBlankText s = true)
    (h : b.bearerCredentials = some fresh) : ∃ a, fresh = .bearer a none := by
  have hunusable : AuthBody.usable b.refreshToken = none := by
    rcases hblank with hn | ⟨s, hs, hb⟩
    · simp [AuthBody.usable, hn]
    · simp [AuthBody.usable, hs, hb]
  simp only [AuthBody.bearerCredentials, hunusable, Option.map_none, Option.map_eq_some_iff] at h
  obtain ⟨a, -, rfl⟩ := h
  exact ⟨_, rfl⟩

/-- Whenever credentials are held, a refresh ends in exactly one of two ways, and the generation
moves on by one either way. It adopts a grant: the granted credentials become the session's, the
user is replaced only when the answer names one, the vault is given the new session and the
refresh answers with it. Or no grant came, and it expires the session: the session is signed out,
the vault emptied, and the refresh answers that the session expired; bearer credentials with
nothing to present make no exchange at all. Fresh bearer credentials whose refresh token is
absent or hblank keep the one held before. -/
theorem refresh_adopts_or_expires (cfg : HttpSettings) (t : Http.Transport ν)
    (w : World (Link (ν × List Exchange))) (current : Credentials)
    (held : w.state.credentials = some current) :
    let r := ((refreshLocked cfg t.recorded).run w).1
    let w' := ((refreshLocked cfg t.recorded).run w).2
    w'.state.generation = w.state.generation + 1 ∧
    (∃ sent, w'.gateway.net.2 = w.gateway.net.2 ++ sent ∧ sent.length ≤ 1 ∧
      (∀ e ∈ sent, e.IsRefresh cfg) ∧
      (∀ f, refreshAuthorizationValue current = .error f → sent = []) ∧
      ((∃ c u, RefreshGranted cfg current sent c u ∧ r = .ok w'.state.session ∧
          w'.state.credentials = some c ∧
          w'.state.session.user = u.orElse (fun _ => w.state.session.user) ∧
          w'.vault = w.vault.persisted w'.state.session w.clock) ∨
        ((¬ ∃ c u, RefreshGranted cfg current sent c u) ∧ r = .error .sessionExpired ∧
          w'.state.session = Session.anonymous ∧ w'.vault = w.vault.clear.2))) ∧
    ∀ (b : AuthBody) (fresh : Credentials),
      (b.refreshToken = none ∨ ∃ s, b.refreshToken = some s ∧ Text.isBlankText s = true) →
      b.bearerCredentials = some fresh →
      (current.mergeRefreshed fresh).refreshToken? = current.refreshToken? := by
  intro r w'
  have h : (refreshLocked cfg t.recorded).run w = (r, w') := rfl
  obtain ⟨-, sent, hn, hlen, hrf, hun, houtcome⟩ := refreshLocked_eq held h
  have hkept : ∀ (b : AuthBody) (fresh : Credentials),
      (b.refreshToken = none ∨ ∃ s, b.refreshToken = some s ∧ Text.isBlankText s = true) →
      b.bearerCredentials = some fresh →
      (current.mergeRefreshed fresh).refreshToken? = current.refreshToken? := by
    intro b fresh hblank hb
    obtain ⟨a, rfl⟩ := bearerCredentials_without_refresh hblank hb
    exact mergeRefreshed_keeps_refreshToken current a
  rcases houtcome with ⟨c, u, hgranted, hs, hr, hv⟩ | ⟨hrefused, hs, hr, hv⟩
  · refine ⟨by simp [hs], ⟨sent, hn, hlen, hrf, hun, .inl ⟨c, u, hgranted, hr, ?_, ?_, hv⟩⟩, hkept⟩
    · simp [hs]
    · simp [hs]
  · exact ⟨by simp [hs], ⟨sent, hn, hlen, hrf, hun, .inr ⟨hrefused, hr, by simp [hs], hv⟩⟩, hkept⟩

/-- Bearer credentials without a refresh token are not renewed: nothing is sent, the generation
moves on and the session expires. -/
theorem refresh_without_refresh_token_expires :
    let cfg : HttpSettings :=
      ⟨⟨"https", "", "", none, none, .segments [], none, none⟩, {}, .bearer, "session"⟩
    let t : Http.Transport Unit := ⟨fun _ jar n => (.error (.connect ""), jar, n)⟩
    let w : World (Link (Unit × List Exchange)) :=
      ⟨SessionState.start (Session.signedIn (.bearer ⟨"a"⟩ none) none), .memory none, ⟨0, 0⟩,
        ⟨none, ((), [])⟩, []⟩
    w.state.credentials = some (.bearer ⟨"a"⟩ none) ∧
      ((refreshLocked cfg t.recorded).run w).1 = .error .sessionExpired ∧
      ((refreshLocked cfg t.recorded).run w).2.state.generation = 1 ∧
      ((refreshLocked cfg t.recorded).run w).2.gateway.net.2 = [] := by
  intro cfg t w
  have held : w.state.credentials = some (.bearer ⟨"a"⟩ none) := rfl
  obtain ⟨hgen, ⟨sent, hn, -, -, hunsent, houtcome⟩, -⟩ := refresh_adopts_or_expires cfg t w _ held
  obtain rfl : sent = [] := hunsent _ rfl
  rcases houtcome with ⟨c, u, ⟨e, -, -, he, -⟩, -⟩ | ⟨-, hr, -, -⟩
  · cases he
  · exact ⟨held, hr, hgen, hn⟩

end Signon.HttpGateway
