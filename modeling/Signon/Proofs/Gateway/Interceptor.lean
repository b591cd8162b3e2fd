import Signon.Proofs.Gateway.Refresh

/-!
Authorized and public calls of the HTTP gateway, when no other call runs beside them. Only a
401 on held credentials starts a refresh, and only a granted refresh sends the request again.
-/

namespace Signon.HttpGateway

variable {ν : Type}

/-- `Intercepted cfg req held sent r`: an authorized send of `req` that read the credentials
`held` made the exchanges `sent` and answered `r`. -/
inductive Intercepted (cfg : HttpSettings) (req : Http.Request) :
    Option Credentials → List Exchange → Except Failure Http.Response → Prop
  /-- The held credentials cannot be presented: nothing is sent. -/
  | unpresentable {held : Option Credentials} {f : Failure} :
      authorizationValue held = .error f → Intercepted cfg req held [] (.error f)
  /-- The first answer is final: it is no 401, or nothing was held. -/
  | answered {held : Option Credentials} {a : Option Http.HeaderValue} {e : Exchange} :
      authorizationValue held = .ok a → e.request = { req with authorization := a } →
      (e.Unauthorized → held = none) → Intercepted cfg req held [e] e.answer
  /-- A 401 on held credentials, and a refresh that did not grant: the session expired. -/
  | expired {current : Credentials} {a : Option Http.HeaderValue} {e : Exchange}
      {refresh : List Exchange} :
      authorizationValue (some current) = .ok a → e.request = { req with authorization := a } →
      e.Unauthorized → refresh.length ≤ 1 → (∀ f ∈ refresh, f.IsRefresh cfg) →
      (¬ ∃ c u, RefreshGranted cfg current refresh c u) →
      Intercepted cfg req (some current) (e :: refresh) (.error .sessionExpired)
  /-- A 401 on held credentials, a granted refresh, and granted credentials that cannot be
  presented. -/
  | retryUnpresentable {current c : Credentials} {u : Option User} {a : Option Http.HeaderValue}
      {e : Exchange} {refresh : List Exchange} {f : Failure} :
      authorizationValue (some current) = .ok a → e.request = { req with authorization := a } →
      e.Unauthorized → (∀ f ∈ refresh, f.IsRefresh cfg) → RefreshGranted cfg current refresh c u →
      authorizationValue (some c) = .error f →
      Intercepted cfg req (some current) (e :: refresh) (.error f)
  /-- A 401 on held credentials, a granted refresh, and the request sent once more with the
  granted credentials: that second answer is the call's. -/
  | retried {current c : Credentials} {u : Option User} {a a' : Option Http.HeaderValue}
      {e e' : Exchange} {refresh : List Exchange} :
      authorizationValue (some current) = .ok a → e.request = { req with authorization := a } →
      e.Unauthorized → (∀ f ∈ refresh, f.IsRefresh cfg) → RefreshGranted cfg current refresh c u →
      authorizationValue (some c) = .ok a' → e'.request = { req with authorization := a' } →
      Intercepted cfg req (some current) (e :: refresh ++ [e']) e'.answer

/-- An authorized send makes at most two tries of its request, with at most one exchange with
the refresh endpoint between them. -/
theorem Intercepted.tries_and_refresh {cfg : HttpSettings} {req : Http.Request}
    {held : Option Credentials} {sent : List Exchange} {r : Except Failure Http.Response}
    (h : Intercepted cfg req held sent r) :
    ∃ tries refresh : List Exchange, sent = tries.take 1 ++ refresh ++ tries.drop 1 ∧ tries.length ≤ 2 ∧
      refresh.length ≤ 1 ∧ (∀ e ∈ tries, ∃ a, e.request = { req with authorization := a }) ∧
      (∀ f ∈ refresh, f.IsRefresh cfg) := by
  cases h with
  | unpresentable => exact ⟨[], [], rfl, by simp, by simp, by simp, by simp⟩
  | @answered _ _ e _ he _ => exact ⟨[e], [], rfl, by simp, by simp, by simp [he], by simp⟩
  | @expired _ _ e refresh _ he _ hlen hrf _ =>
    exact ⟨[e], refresh, by simp, by simp, hlen, by simp [he], hrf⟩
  | @retryUnpresentable _ _ _ _ e _ _ _ he _ hrf hgranted _ =>
    obtain ⟨f, -, -, rfl, -⟩ := hgranted
    exact ⟨[e], [f], by simp, by simp, by simp, by simp [he], hrf⟩
  | @retried _ _ _ _ _ e e' _ _ he _ hrf hgranted _ he' =>
    obtain ⟨f, -, -, rfl, -⟩ := hgranted
    exact ⟨[e, e'], [f], by simp, by simp, by simp, by simp [he, he'], hrf⟩

/-- One dispatch through the recorded transport, read off the record. -/
theorem dispatch_exchange {t : Http.Transport ν} {req : Http.Request} {a : Option Http.HeaderValue}
    {w w' : World (Link (ν × List Exchange))} {r : Except Failure Http.Response}
    (h : (dispatch t.recorded req a).run w = (r, w')) :
    ∃ e : Exchange, e.request = { req with authorization := a } ∧
      w'.gateway.net.2 = w.gateway.net.2 ++ [e] ∧ r = e.outcome.mapError .transport ∧
      w'.state = w.state ∧ w'.vault = w.vault := by
  obtain ⟨hr, hs, hv, -, hn⟩ := dispatch_recorded_eq h
  exact ⟨_, rfl, hn, hr, hs, hv⟩

/-- A dispatch and what follows it: the one exchange is recorded, and either the transport
failed or the continuation runs on the response. -/
theorem dispatch_bind_eq {α : Type} {t : Http.Transport ν} {req : Http.Request}
    {a : Option Http.HeaderValue} {k : Http.Response → Op (Link (ν × List Exchange)) α}
    {w w' : World (Link (ν × List Exchange))} {r : Except Failure α}
    (h : (dispatch t.recorded req a >>= k).run w = (r, w')) :
    ∃ (e : Exchange) (w₁ : World (Link (ν × List Exchange))),
      e.request = { req with authorization := a } ∧
      w₁.gateway.net.2 = w.gateway.net.2 ++ [e] ∧ w₁.state = w.state ∧ w₁.vault = w.vault ∧
      match e.outcome with
      | .ok resp => (k resp).run w₁ = (r, w')
      | .error x => r = .error (.transport x) ∧ w' = w₁ := by
  rw [Op.run_bind] at h
  rcases hd : (dispatch t.recorded req a).run w with ⟨rd, w₁⟩
  obtain ⟨e, hreq, hn, hr, hs, hv⟩ := dispatch_exchange hd
  rw [hd] at h
  refine ⟨e, w₁, hreq, hn, hs, hv, ?_⟩
  cases ho : e.outcome with
  | error x =>
    simp only [ho, Except.mapError_error] at hr
    subst hr
    cases h
    exact ⟨rfl, rfl⟩
  | ok resp =>
    simp only [ho, Except.mapError_ok] at hr
    subst hr
    exact h

/-- A dispatch whose response is accepted answers as its exchange does. -/
theorem dispatch_accept_eq {cfg : HttpSettings} {t : Http.Transport ν} {req : Http.Request}
    {a : Option Http.HeaderValue} {w w' : World (Link (ν × List Exchange))}
    {r : Except Failure Http.Response}
    (h : (dispatch t.recorded req a >>= accept cfg).run w = (r, w')) :
    ∃ e : Exchange, e.request = { req with authorization := a } ∧
      w'.gateway.net.2 = w.gateway.net.2 ++ [e] ∧ r = e.answer := by
  obtain ⟨e, w₁, hreq, hn, -, -, hafter⟩ := dispatch_bind_eq h
  refine ⟨e, hreq, ?_⟩
  cases ho : e.outcome with
  | error x =>
    obtain ⟨rfl, rfl⟩ := ho ▸ hafter
    exact ⟨hn, by simp [Exchange.answer, ho]⟩
  | ok resp =>
    obtain ⟨rfl, hg, -⟩ := accept_eq (ho ▸ hafter)
    exact ⟨by rw [hg, hn], by simp [Exchange.answer, ho]⟩

/-- A dispatch whose response is checked answers as its exchange does, and leaves the session
and the vault alone. -/
theorem dispatch_checkStatus_eq {t : Http.Transport ν} {req : Http.Request}
    {a : Option Http.HeaderValue} {w w' : World (Link (ν × List Exchange))}
    {r : Except Failure Http.Response}
    (h : (dispatch t.recorded req a >>= checkStatus).run w = (r, w')) :
    ∃ e : Exchange, e.request = { req with authorization := a } ∧
      w'.gateway.net.2 = w.gateway.net.2 ++ [e] ∧ r = e.answer ∧
      w'.state = w.state ∧ w'.vault = w.vault := by
  obtain ⟨e, w₁, hreq, hn, hs, hv, hafter⟩ := dispatch_bind_eq h
  refine ⟨e, hreq, ?_⟩
  cases ho : e.outcome with
  | error x =>
    obtain ⟨rfl, rfl⟩ := ho ▸ hafter
    exact ⟨hn, by simp [Exchange.answer, ho], hs, hv⟩
  | ok resp =>
    obtain ⟨rfl, halike⟩ := checkStatus_eq (ho ▸ hafter)
    exact ⟨by rw [halike.gateway, hn], by simp [Exchange.answer, ho], by rw [halike.state, hs],
      by rw [halike.vault, hv]⟩

/-- A refresh on behalf of a call that read the generation still current runs the refresh
itself, and hands back the granted credentials or reports the session expired. -/
theorem refreshAfter_current {cfg : HttpSettings} {t : Http.Transport ν} {current : Credentials}
    {seen : Nat} {w w' : World (Link (ν × List Exchange))} {r : Except Failure Credentials}
    (hheld : w.state.credentials = some current) (hsame : w.state.generation = seen)
    (h : (refreshAfter cfg t.recorded seen).run w = (r, w')) :
    ∃ refresh, w'.gateway.net.2 = w.gateway.net.2 ++ refresh ∧ refresh.length ≤ 1 ∧
      (∀ f ∈ refresh, f.IsRefresh cfg) ∧
      ((∃ c u, RefreshGranted cfg current refresh c u ∧ r = .ok c) ∨
        ((¬ ∃ c u, RefreshGranted cfg current refresh c u) ∧ r = .error .sessionExpired)) := by
  subst hsame
  simp only [refreshAfter, Op.run_bind, Op.run_state, bne_self_eq_false, Bool.false_eq_true,
    if_false] at h
  rcases hl : (refreshLocked cfg t.recorded).run w with ⟨rl, w₁⟩
  obtain ⟨-, refresh, hn, hlen, hrf, -, houtcome⟩ := refreshLocked_eq hheld hl
  rw [hl] at h
  rcases houtcome with ⟨c, u, hgranted, hs, rfl, -⟩ | ⟨hrefused, -, rfl, -⟩
  · simp only [hs] at h
    cases h
    exact ⟨refresh, hn, hlen, hrf, .inl ⟨c, u, hgranted, rfl⟩⟩
  · cases h
    exact ⟨refresh, hn, hlen, hrf, .inr ⟨hrefused, rfl⟩⟩

/-- Every solitary authorized send goes as `Intercepted` says, with the credentials the
session held when it started. -/
theorem sendAuthorized_intercepted {cfg : HttpSettings} {t : Http.Transport ν}
    {req : Http.Request} {w w' : World (Link (ν × List Exchange))}
    {r : Except Failure Http.Response} (h : (sendAuthorized cfg t.recorded req).run w = (r, w')) :
    ∃ sent, w'.gateway.net.2 = w.gateway.net.2 ++ sent ∧
      Intercepted cfg req w.state.credentials sent r := by
  simp only [sendAuthorized, Op.run_bind, Op.run_state] at h
  generalize hp : w.state.credentialsWithGeneration = p at h
  obtain ⟨held, seen⟩ := p
  simp only [SessionState.credentialsWithGeneration, Prod.mk.injEq] at hp
  obtain ⟨rfl, rfl⟩ := hp
  rcases ha : (authorization cfg w.state.credentials).run w with ⟨_ | a, w₁⟩ <;>
    simp only [ha] at h
  · obtain ⟨hv, q⟩ := authorization_eq ha
    cases h
    exact ⟨[], by rw [q.net, List.append_nil], .unpresentable hv.symm⟩
  obtain ⟨hv, q⟩ := authorization_eq ha
  rw [← Op.run_bind] at h
  obtain ⟨e, w₂, hreq, hn, hs₂, -, h⟩ := dispatch_bind_eq h
  have hsent₁ : w₂.gateway.net.2 = w.gateway.net.2 ++ [e] := by rw [hn, q.net]
  cases ho : e.outcome with
  | error x =>
    obtain ⟨rfl, rfl⟩ := ho ▸ h
    refine ⟨[e], hsent₁, ?_⟩
    have hanswer : Except.error (Failure.transport x) = e.answer := by simp [Exchange.answer, ho]
    rw [hanswer]
    exact .answered hv.symm hreq fun ⟨_, ho', _⟩ => by simp [ho] at ho'
  | ok resp =>
    simp only [ho] at h
    by_cases hfinal : (resp.status != 401 || w.state.credentials.isNone) = true
    · rw [if_pos hfinal] at h
      obtain ⟨rfl, hg, -⟩ := accept_eq h
      refine ⟨[e], by rw [hg, hsent₁], ?_⟩
      have hanswer : ensureSuccess resp = e.answer := by simp [Exchange.answer, ho]
      rw [hanswer]
      refine .answered hv.symm hreq fun ⟨resp', ho', h401⟩ => ?_
      rw [ho] at ho'
      cases ho'
      simpa [h401] using hfinal
    · rw [if_neg hfinal] at h
      obtain ⟨h401, holding⟩ : resp.status = 401 ∧ w.state.credentials ≠ none := by
        simpa using hfinal
      obtain ⟨current, held⟩ := Option.ne_none_iff_exists'.mp holding
      rw [held] at hv ⊢
      have hrefused : e.Unauthorized := ⟨resp, ho, h401⟩
      simp only [Op.run_bind, Op.run_note] at h
      rcases hf : (refreshAfter cfg t.recorded w.state.generation).run
        { w₂ with journal := w₂.journal ++ _ } with ⟨rf, w₃⟩
      obtain ⟨refresh, hn₃, hlen, hrf, houtcome⟩ :=
        refreshAfter_current (by rw [← held, hs₂, q.state]) (by rw [hs₂, q.state]) hf
      rw [hf] at h
      rcases houtcome with ⟨c, u, hgranted, rfl⟩ | ⟨hunsent, rfl⟩
      · simp only at h
        split at h
        · rename_i a' w₄ ha'
          obtain ⟨hv', hq'⟩ := authorization_eq ha'
          rw [← Op.run_bind] at h
          obtain ⟨e', hreq', hn', rfl⟩ := dispatch_accept_eq h
          refine ⟨e :: refresh ++ [e'], by rw [hn', hq'.net, hn₃, hsent₁]; simp, ?_⟩
          exact .retried hv.symm hreq hrefused hrf hgranted hv'.symm hreq'
        · rename_i f w₄ ha'
          obtain ⟨hv', hq'⟩ := authorization_eq ha'
          cases h
          refine ⟨e :: refresh, by rw [hq'.net, hn₃, hsent₁]; simp, ?_⟩
          exact .retryUnpresentable hv.symm hreq hrefused hrf hgranted hv'.symm
      · cases h
        exact ⟨e :: refresh, by rw [hn₃, hsent₁]; simp, .expired hv.symm hreq hrefused hlen hrf hunsent⟩

/-- `AuthorizedSend cfg m path body held sent r`: an authorized request of `m` on `path` with
`body`, started with the credentials `held`, made the exchanges `sent` and answered `r`. -/
inductive AuthorizedSend (cfg : HttpSettings) (m : Http.Method) (path : String)
    (body : Option Json) (held : Option Credentials) :
    List Exchange → Except Failure Http.Response → Prop
  /-- The request cannot be prepared: nothing is sent. -/
  | unprepared {f : Failure} :
      preparedRequest cfg m path body = .error f → AuthorizedSend cfg m path body held [] (.error f)
  /-- The prepared request is sent as `Intercepted` says. -/
  | prepared {req : Http.Request} {sent : List Exchange} {r : Except Failure Http.Response} :
      preparedRequest cfg m path body = .ok req → Intercepted cfg req held sent r →
      AuthorizedSend cfg m path body held sent r

/-- `SentOnce cfg m path body auth sent r`: a request of `m` on `path` with `body`, presented
with `auth` and never retried, as public calls and logouts send theirs, made the exchanges
`sent` and answered `r`. -/
inductive SentOnce (cfg : HttpSettings) (m : Http.Method) (path : String) (body : Option Json)
    (auth : Except Failure (Option Http.HeaderValue)) :
    List Exchange → Except Failure Http.Response → Prop
  /-- The request cannot be prepared: nothing is sent. -/
  | unprepared {f : Failure} :
      preparedRequest cfg m path body = .error f → SentOnce cfg m path body auth [] (.error f)
  /-- The authorization cannot be made: nothing is sent. -/
  | unpresented {req : Http.Request} {f : Failure} :
      preparedRequest cfg m path body = .ok req → auth = .error f →
      SentOnce cfg m path body auth [] (.error f)
  /-- One exchange, whose answer is the call's. -/
  | sent {req : Http.Request} {a : Option Http.HeaderValue} {e : Exchange} :
      preparedRequest cfg m path body = .ok req → auth = .ok a →
      e.request = { req with authorization := a } → SentOnce cfg m path body auth [e] e.answer

theorem authorizedSend_run {cfg : HttpSettings} {t : Http.Transport ν} {m : Http.Method}
    {path : String} {body : Option Json} {w w' : World (Link (ν × List Exchange))}
    {r : Except Failure Http.Response}
    (h : (prepare cfg m path body >>= sendAuthorized cfg t.recorded).run w = (r, w')) :
    ∃ sent, w'.gateway.net.2 = w.gateway.net.2 ++ sent ∧
      AuthorizedSend cfg m path body w.state.credentials sent r := by
  rw [Op.run_bind] at h
  rcases hp : (prepare cfg m path body).run w with ⟨_ | req, w₁⟩ <;> simp only [hp] at h <;>
    obtain ⟨hreq, halike⟩ := prepare_eq hp
  · cases h
    exact ⟨[], by rw [halike.gateway, List.append_nil], .unprepared hreq.symm⟩
  · obtain ⟨sent, hn, hi⟩ := sendAuthorized_intercepted h
    refine ⟨sent, by rw [hn, halike.gateway], ?_⟩
    rw [halike.state] at hi
    exact .prepared hreq.symm hi

/-- A public request is sent once, without credentials, and leaves the session and the vault
alone. -/
theorem sendPublic_run {cfg : HttpSettings} {t : Http.Transport ν} {path : String} {body : Json}
    {w w' : World (Link (ν × List Exchange))} {r : Except Failure Http.Response}
    (h : (sendPublic cfg t.recorded path body).run w = (r, w')) :
    w'.state = w.state ∧ w'.vault = w.vault ∧ ∃ sent, w'.gateway.net.2 = w.gateway.net.2 ++ sent ∧
      SentOnce cfg .post path (some body) (.ok none) sent r := by
  simp only [sendPublic] at h
  rw [Op.run_bind] at h
  rcases hp : (prepare cfg .post path (some body)).run w with ⟨_ | req, w₁⟩ <;>
    simp only [hp] at h <;> obtain ⟨hreq, halike⟩ := prepare_eq hp
  · cases h
    exact ⟨halike.state, halike.vault, [], by rw [halike.gateway, List.append_nil],
      .unprepared hreq.symm⟩
  obtain ⟨e, hreq', hn, rfl, hs, hv⟩ := dispatch_checkStatus_eq h
  refine ⟨by rw [hs, halike.state], by rw [hv, halike.vault], [e], by rw [hn, halike.gateway], ?_⟩
  exact .sent hreq.symm rfl hreq'

/-- A logout sends its request once, with the credentials it is given, and leaves the session
and the vault alone; it never refreshes. -/
theorem logout_run {cfg : HttpSettings} {t : Http.Transport ν} {c : Credentials}
    {w w' : World (Link (ν × List Exchange))} {r : Except Failure Unit}
    (h : (logout cfg t.recorded c).run w = (r, w')) :
    w'.state = w.state ∧ w'.vault = w.vault ∧ ∃ sent answer,
      w'.gateway.net.2 = w.gateway.net.2 ++ sent ∧
      SentOnce cfg .post cfg.endpoints.logout none (authorizationValue (some c)) sent answer ∧
      r = (fun _ => ()) <$> answer := by
  simp only [logout] at h
  rw [Op.run_bind] at h
  rcases hp : (prepare cfg .post cfg.endpoints.logout none).run w with ⟨f | req, w₁⟩ <;>
    simp only [hp] at h <;> obtain ⟨hreq, halike⟩ := prepare_eq hp
  · cases h
    exact ⟨halike.state, halike.vault, [], .error f, by rw [halike.gateway, List.append_nil],
      .unprepared hreq.symm, rfl⟩
  rw [Op.run_bind] at h
  rcases ha : (authorization cfg (some c)).run w₁ with ⟨f | a, w₂⟩ <;>
    simp only [ha] at h <;> obtain ⟨hv, q⟩ := authorization_eq ha
  · cases h
    refine ⟨by rw [q.state, halike.state], by rw [q.vault, halike.vault], [], .error f,
      by rw [q.net, halike.gateway, List.append_nil], .unpresented hreq.symm hv.symm, rfl⟩
  rw [Op.run_bind, Op.run_attempt, ← bind_assoc,
    @Op.run_bind_reader _ _ _ _ (fun _ => pure ()) (fun _ => .ok ()) fun _ _ => rfl] at h
  rcases hd : (dispatch t.recorded req a >>= checkStatus).run w₂ with ⟨answer, w₃⟩
  obtain ⟨e, hreq', hn, rfl, hs, hvault⟩ := dispatch_checkStatus_eq hd
  rw [hd] at h
  simp only [Op.run_bind] at h
  rcases hx : (expireCookie cfg).run w₃ with ⟨rx, w₄⟩
  obtain ⟨rfl, hq'⟩ := expireCookie_eq hx
  rw [hx] at h
  cases h
  refine ⟨by rw [hq'.state, hs, q.state, halike.state], by rw [hq'.vault, hvault, q.vault, halike.vault],
    [e], e.answer, by rw [hq'.net, hn, q.net, halike.gateway], ?_, ?_⟩
  · exact .sent hreq.symm hv.symm hreq'
  · cases e.answer <;> rfl

section Calls

variable {α : Type} {cfg : HttpSettings} {t : Http.Transport ν} {read : Http.Response → Except Failure α}
  {k : Http.Response → Op (Link (ν × List Exchange)) α}

/-- An authorized call: its request goes out as `AuthorizedSend` says, and what comes back is
read without touching the world. -/
theorem authorizedCall_run (hk : ∀ resp w, (k resp).run w = (read resp, w)) (m : Http.Method)
    (path : String) (body : Option Json) (w : World (Link (ν × List Exchange))) :
    let run := ((prepare cfg m path body >>= sendAuthorized cfg t.recorded) >>= k).run w
    ∃ sent answer, run.2.gateway.net.2 = w.gateway.net.2 ++ sent ∧
      AuthorizedSend cfg m path body w.state.credentials sent answer ∧
      run.1 = answer.bind read := by
  simp only [Op.run_bind_reader hk]
  rcases hs : (prepare cfg m path body >>= sendAuthorized cfg t.recorded).run w with ⟨answer, w'⟩
  obtain ⟨sent, hn, ha⟩ := authorizedSend_run hs
  exact ⟨sent, answer, hn, ha, rfl⟩

/-- A public call: its request goes out once without credentials, what comes back is read, and
the session and the vault are left alone. -/
theorem publicCall_run (hk : ∀ resp w, (k resp).run w = (read resp, w)) (path : String)
    (body : Json) (w : World (Link (ν × List Exchange))) :
    let run := (sendPublic cfg t.recorded path body >>= k).run w
    run.2.state = w.state ∧ run.2.vault = w.vault ∧
      ∃ sent answer, run.2.gateway.net.2 = w.gateway.net.2 ++ sent ∧
        SentOnce cfg .post path (some body) (.ok none) sent answer ∧ run.1 = answer.bind read := by
  simp only [Op.run_bind_reader hk]
  rcases hs : (sendPublic cfg t.recorded path body).run w with ⟨answer, w'⟩
  obtain ⟨hst, hv, sent, hn, ha⟩ := sendPublic_run hs
  exact ⟨hst, hv, sent, answer, hn, ha, rfl⟩

end Calls

/-- Authorized calls retry at most once. Fetching the profile or changing the password sends its
request with the credentials held when the call starts and goes on as `Intercepted` says: only a
401 on held credentials leads to a refresh, only a granted refresh to a second send, which
carries the granted credentials, and the answer to the second send is the call's. Public calls
send their request once without credentials, and neither they nor a logout touch the session or
the vault. -/
theorem authorized_calls_retry_at_most_once (cfg : HttpSettings) (t : Http.Transport ν) :
    (∀ w : World (Link (ν × List Exchange)),
      let run := (gateway cfg t.recorded).fetchUser.run w
      ∃ sent answer, run.2.gateway.net.2 = w.gateway.net.2 ++ sent ∧
        AuthorizedSend cfg .get cfg.endpoints.profile none w.state.credentials sent answer ∧
        run.1 = answer.bind fun resp => UserBody.toUser <$> decode UserBody.ofBytes resp) ∧
    (∀ (current : Password.Login) (fresh : Password.Chosen) (w : World (Link (ν × List Exchange))),
      let run := ((gateway cfg t.recorded).changePassword current fresh).run w
      ∃ sent answer, run.2.gateway.net.2 = w.gateway.net.2 ++ sent ∧
        AuthorizedSend cfg .post cfg.endpoints.changePassword
          (some (Api.changePasswordBody current fresh)) w.state.credentials sent answer ∧
        run.1 = answer.bind fun resp =>
          MessageBody.message <$> decodeOrEmpty MessageBody.ofBytes MessageBody.empty resp) ∧
    (∀ (path : String) (body : Json) (w : World (Link (ν × List Exchange))),
      let run := (grantCall cfg t.recorded path body).run w
      run.2.state = w.state ∧ run.2.vault = w.vault ∧
      ∃ sent answer, run.2.gateway.net.2 = w.gateway.net.2 ++ sent ∧
        SentOnce cfg .post path (some body) (.ok none) sent answer ∧
        run.1 = answer.bind fun resp =>
          grantFrom cfg resp <$> decodeOrEmpty AuthBody.ofBytes AuthBody.empty resp) ∧
    (∀ (path : String) (body : Json) (w : World (Link (ν × List Exchange))),
      let run := (messageCall cfg t.recorded path body).run w
      run.2.state = w.state ∧ run.2.vault = w.vault ∧
      ∃ sent answer, run.2.gateway.net.2 = w.gateway.net.2 ++ sent ∧
        SentOnce cfg .post path (some body) (.ok none) sent answer ∧
        run.1 = answer.bind fun resp =>
          MessageBody.message <$> decodeOrEmpty MessageBody.ofBytes MessageBody.empty resp) ∧
    (∀ (c : Credentials) (w : World (Link (ν × List Exchange))),
      let run := (logout cfg t.recorded c).run w
      run.2.state = w.state ∧ run.2.vault = w.vault ∧
      ∃ sent answer, run.2.gateway.net.2 = w.gateway.net.2 ++ sent ∧
        SentOnce cfg .post cfg.endpoints.logout none (authorizationValue (some c)) sent answer ∧
        run.1 = (fun _ => ()) <$> answer) := by
  refine ⟨fun w => ?_, fun current fresh w => ?_, fun path body w => ?_, fun path body w => ?_,
    fun c w => ?_⟩
  · rw [show (gateway cfg t.recorded).fetchUser = (prepare cfg .get cfg.endpoints.profile none >>=
        sendAuthorized cfg t.recorded) >>= fun resp =>
          Op.lift (decode UserBody.ofBytes resp) >>= fun b => pure b.toUser by
      simp only [gateway, bind_assoc]]
    exact authorizedCall_run (fun resp w => by cases decode UserBody.ofBytes resp <;> rfl) _ _ _ w
  · rw [show (gateway cfg t.recorded).changePassword current fresh =
        (prepare cfg .post cfg.endpoints.changePassword (some (Api.changePasswordBody current fresh))
          >>= sendAuthorized cfg t.recorded) >>= fun resp =>
          Op.lift (decodeOrEmpty MessageBody.ofBytes MessageBody.empty resp) >>= fun b =>
            pure b.message by
      simp only [gateway, bind_assoc]]
    exact authorizedCall_run
      (fun resp w => by cases decodeOrEmpty MessageBody.ofBytes MessageBody.empty resp <;> rfl)
      _ _ _ w
  · rw [show grantCall cfg t.recorded path body = sendPublic cfg t.recorded path body >>=
        fun resp => Op.lift (decodeOrEmpty AuthBody.ofBytes AuthBody.empty resp) >>= fun b =>
          pure (grantFrom cfg resp b) by
      simp only [grantCall]]
    exact publicCall_run
      (fun resp w => by cases decodeOrEmpty AuthBody.ofBytes AuthBody.empty resp <;> rfl) _ _ w
  · rw [show messageCall cfg t.recorded path body = sendPublic cfg t.recorded path body >>=
        fun resp => Op.lift (decodeOrEmpty MessageBody.ofBytes MessageBody.empty resp) >>= fun b =>
          pure b.message by
      simp only [messageCall]]
    exact publicCall_run
      (fun resp w => by cases decodeOrEmpty MessageBody.ofBytes MessageBody.empty resp <;> rfl)
      _ _ w
  · rcases hl : (logout cfg t.recorded c).run w with ⟨r, w'⟩
    exact logout_run hl

end Signon.HttpGateway
