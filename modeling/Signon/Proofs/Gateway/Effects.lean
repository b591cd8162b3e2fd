import Signon.Gateway.Http

/-!
What each step of the HTTP gateway changes in the client's world, and a transport that keeps a
record of the exchanges it carries.
-/

namespace Signon

section Except

variable {ε ε' α β : Type}

@[simp] theorem Except.map_ok (f : α → β) (a : α) : (Except.ok a : Except ε α).map f = .ok (f a) :=
  rfl

@[simp] theorem Except.map_error (f : α → β) (e : ε) :
    (Except.error e : Except ε α).map f = .error e := rfl

@[simp] theorem Except.bind_ok (a : α) (f : α → Except ε β) : (Except.ok a).bind f = f a := rfl

@[simp] theorem Except.bind_error (e : ε) (f : α → Except ε β) :
    (Except.error e : Except ε α).bind f = .error e := rfl

@[simp] theorem Except.mapError_ok (f : ε → ε') (a : α) :
    (Except.ok a : Except ε α).mapError f = .ok a := rfl

@[simp] theorem Except.mapError_error (f : ε → ε') (e : ε) :
    (Except.error e : Except ε α).mapError f = .error (f e) := rfl

end Except

/-- One request as it went out, and what came back. -/
structure Exchange where
  request : Http.Request
  outcome : Except Http.TransportError Http.Response

namespace Exchange

/-- What a caller is given for an exchange: a response with a success status, else the failure
its status or the transport makes. -/
def answer (e : Exchange) : Except Failure Http.Response :=
  match e.outcome with
  | .ok r => HttpGateway.ensureSuccess r
  | .error x => .error (.transport x)

def Unauthorized (e : Exchange) : Prop := ∃ r, e.outcome = .ok r ∧ r.status = 401

/-- A request to the refresh endpoint: a post without a body. -/
def IsRefresh (cfg : HttpSettings) (e : Exchange) : Prop :=
  e.request.method = .post ∧ e.request.body = none ∧
    Http.endpointUrl cfg.base cfg.endpoints.refresh = .ok e.request.url

end Exchange

/-- The transport that carries each request through `t` and records it with its outcome. -/
def Http.Transport.recorded {ν : Type} (t : Http.Transport ν) :
    Http.Transport (ν × List Exchange) where
  exchange req jar s :=
    let o := t.exchange req jar s.1
    (o.1, o.2.1, (o.2.2, s.2 ++ [⟨req, o.1⟩]))

/-- The vault once a session is kept at a time: saved when it holds credentials, else emptied. -/
def Vault.persisted (v : Vault) (s : Session) (now : Time.Instant) : Vault :=
  match StoredCredentials.ofSession s now with
  | some c => (v.save c).2
  | none => v.clear.2

namespace World

variable {γ : Type}

/-- Two worlds alike in all but their journals. -/
structure Alike (w w' : World γ) : Prop where
  state : w'.state = w.state
  vault : w'.vault = w.vault
  clock : w'.clock = w.clock
  gateway : w'.gateway = w.gateway

/-- A world of the HTTP gateway changed at most in its journal and its cookie jar. -/
structure Quiet {ν : Type} (w w' : World (Link ν)) : Prop where
  state : w'.state = w.state
  vault : w'.vault = w.vault
  clock : w'.clock = w.clock
  net : w'.gateway.net = w.gateway.net

theorem Quiet.refl {ν : Type} (w : World (Link ν)) : Quiet w w := ⟨rfl, rfl, rfl, rfl⟩

theorem Quiet.trans {ν : Type} {w₁ w₂ w₃ : World (Link ν)} (h₁ : Quiet w₁ w₂) (h₂ : Quiet w₂ w₃) :
    Quiet w₁ w₃ :=
  ⟨h₂.state.trans h₁.state, h₂.vault.trans h₁.vault, h₂.clock.trans h₁.clock, h₂.net.trans h₁.net⟩

theorem Alike.quiet {ν : Type} {w w' : World (Link ν)} (h : Alike w w') : Quiet w w' :=
  ⟨h.state, h.vault, h.clock, by rw [h.gateway]⟩

end World

namespace Op

variable {γ α β : Type} {w w' : World γ}

theorem note_eq {level : Level} {target message : String} {r : Except Failure Unit}
    (h : (note level target message).run w = (r, w')) : r = .ok () ∧ World.Alike w w' := by
  cases h
  exact ⟨rfl, rfl, rfl, rfl, rfl⟩

theorem save_eq {c : StoredCredentials} {r : Except Failure Unit} (h : (save c).run w = (r, w')) :
    r = (w.vault.save c).1 ∧ w'.state = w.state ∧ w'.vault = (w.vault.save c).2 ∧
      w'.clock = w.clock ∧ w'.gateway = w.gateway := by
  rcases hs : w.vault.save c with ⟨_ | u, v⟩ <;> simp only [save, run_bind, run_get, run_modify,
    run_lift, hs] at h
  · cases h; exact ⟨rfl, rfl, rfl, rfl, rfl⟩
  · split at h <;> cases h <;> exact ⟨rfl, rfl, rfl, rfl, rfl⟩

theorem clearVault_eq {r : Except Failure Unit} (h : clearVault.run w = (r, w')) :
    r = w.vault.clear.1 ∧ w'.state = w.state ∧ w'.vault = w.vault.clear.2 ∧
      w'.clock = w.clock ∧ w'.gateway = w.gateway := by
  rcases hs : w.vault.clear with ⟨_ | u, v⟩ <;> simp only [clearVault, run_bind, run_get,
    run_modify, run_lift, hs] at h
  · cases h; exact ⟨rfl, rfl, rfl, rfl, rfl⟩
  · split at h <;> cases h <;> exact ⟨rfl, rfl, rfl, rfl, rfl⟩

/-- Persisting touches the vault and the journal only. -/
theorem persist_run (s : Session) (w : World γ) :
    let w' := ((persist s).run w).2
    w'.state = w.state ∧ w'.vault = w.vault.persisted s w.clock ∧ w'.clock = w.clock ∧
      w'.gateway = w.gateway := by
  rcases hc : StoredCredentials.ofSession s w.clock with _ | c <;>
    simp only [persist, run_bind, run_get, Vault.persisted, hc]
  · rcases hs : clearVault.run w with ⟨r, w'⟩
    exact (clearVault_eq hs).2
  · rcases hs : (save c).run w with ⟨r, w'⟩
    exact (save_eq hs).2

theorem run_bind_reader {x : Op γ α} {k : α → Op γ β} {read : α → Except Failure β}
    (hk : ∀ a w, (k a).run w = (read a, w)) (w : World γ) :
    (x >>= k).run w = ((x.run w).1.bind read, (x.run w).2) := by
  rw [run_bind]
  rcases x.run w with ⟨_ | a, w'⟩
  · rfl
  · exact hk a w'

theorem tolerate_eq {x : Op γ Unit} {r : Except Failure Unit} (h : (tolerate x).run w = (r, w')) :
    r = .ok () ∧ World.Alike (x.run w).2 w' := by
  simp only [tolerate, run_bind, run_attempt] at h
  rcases hx : x.run w with ⟨_ | u, w₁⟩ <;> rw [hx] at h <;> cases h <;>
    exact ⟨rfl, rfl, rfl, rfl, rfl⟩

theorem ext {x y : Op γ α} (h : ∀ w, x.run w = y.run w) : x = y := funext h

@[simp] theorem lift_ok (a : α) : (lift (.ok a) : Op γ α) = pure a := rfl

@[simp] theorem throw_bind (e : Failure) (g : α → Op γ β) :
    ((throw e : Op γ α) >>= g) = throw e := rfl

theorem run_state_bind (f : SessionState → Op γ α) (w : World γ) :
    (state >>= f).run w = (f w.state).run w := rfl

/-- Attempting two operations in a row is attempting the first, then the second unless the first
failed. -/
theorem attempt_bind (x : Op γ α) (f : α → Op γ β) :
    attempt (x >>= f) = attempt x >>= fun
      | .ok a => attempt (f a)
      | .error e => pure (.error e) := by
  apply ext
  intro w
  simp only [run_bind, run_attempt]
  rcases x.run w with ⟨_ | a, w'⟩ <;> rfl

end Op

namespace HttpGateway

variable {ν : Type} {w w' : World (Link ν)}

/-- The `Authorization` value that presents held credentials: the bearer header of an access
token; a cookie travels in the jar, and without credentials nothing is sent. -/
def authorizationValue : Option Credentials → Except Failure (Option Http.HeaderValue)
  | some (.bearer a _) => ((Http.HeaderValue.bearer a.text).map some).mapError .setup
  | _ => .ok none

theorem seedCookie_eq {cfg : HttpSettings} {n v : String} {r : Except Failure Unit}
    (h : (seedCookie cfg n v).run w = (r, w')) : r = .ok () ∧ World.Quiet w w' := by
  simp only [seedCookie, Op.run_bind, Op.run_gateway] at h
  split at h
  · cases h; exact ⟨rfl, .refl w⟩
  · split at h
    · simp only [Op.run_bind, Op.run_setGateway, Op.run_note] at h
      cases h; exact ⟨rfl, rfl, rfl, rfl, rfl⟩
    · cases h; exact ⟨rfl, .refl w⟩

theorem expireCookie_eq {cfg : HttpSettings} {r : Except Failure Unit}
    (h : (expireCookie cfg).run w = (r, w')) : r = .ok () ∧ World.Quiet w w' := by
  simp only [expireCookie, Op.run_bind, Op.run_gateway] at h
  split at h
  · cases h; exact ⟨rfl, .refl w⟩
  · simp only [Op.run_setGateway] at h
    cases h; exact ⟨rfl, rfl, rfl, rfl, rfl⟩

theorem authorization_eq {cfg : HttpSettings} {c : Option Credentials}
    {r : Except Failure (Option Http.HeaderValue)} (h : (authorization cfg c).run w = (r, w')) :
    r = authorizationValue c ∧ World.Quiet w w' := by
  rcases c with _ | ⟨a, rt⟩ | ⟨n, v⟩
  · cases h; exact ⟨rfl, .refl w⟩
  · simp only [authorization, authorizationValue] at h ⊢
    cases hb : Http.HeaderValue.bearer a.text <;> simp only [hb] at h <;> cases h <;>
      exact ⟨rfl, .refl w⟩
  · simp only [authorization, Op.run_bind] at h
    rcases hs : (seedCookie cfg n v).run w with ⟨rs, ws⟩
    obtain ⟨rfl, q⟩ := seedCookie_eq hs
    rw [hs] at h
    cases h
    exact ⟨rfl, q⟩

/-- Dispatching exchanges the request, with its authorization, through the transport. -/
theorem dispatch_eq {t : Http.Transport ν} {req : Http.Request} {a : Option Http.HeaderValue}
    {r : Except Failure Http.Response} (h : (dispatch t req a).run w = (r, w')) :
    let o := t.exchange { req with authorization := a } w.gateway.jar w.gateway.net
    r = o.1.mapError .transport ∧ w'.state = w.state ∧ w'.vault = w.vault ∧ w'.clock = w.clock ∧
      w'.gateway.net = o.2.2 := by
  simp only [dispatch, Op.run_bind, Op.run_note, Op.run_gateway, Op.run_setGateway] at h
  rcases ho : t.exchange { req with authorization := a } w.gateway.jar w.gateway.net with
    ⟨_ | resp, jar, net⟩ <;> simp only [ho, Op.run_bind, Op.run_note, Op.run_throw] at h <;>
    cases h <;> exact ⟨rfl, rfl, rfl, rfl, rfl⟩

/-- Through a recorded transport, a dispatch appends its one exchange to the record. -/
theorem dispatch_recorded_eq {t : Http.Transport ν} {req : Http.Request}
    {a : Option Http.HeaderValue} {w w' : World (Link (ν × List Exchange))}
    {r : Except Failure Http.Response} (h : (dispatch t.recorded req a).run w = (r, w')) :
    let q := { req with authorization := a }
    let o := t.exchange q w.gateway.jar w.gateway.net.1
    r = o.1.mapError .transport ∧ w'.state = w.state ∧ w'.vault = w.vault ∧ w'.clock = w.clock ∧
      w'.gateway.net.2 = w.gateway.net.2 ++ [⟨q, o.1⟩] := by
  obtain ⟨hr, hs, hv, hc, hn⟩ := dispatch_eq h
  exact ⟨hr, hs, hv, hc, by rw [hn]; rfl⟩

/-- The request `prepare` makes: the endpoint resolved against the base, the body encoded, and
no authorization yet. -/
def preparedRequest (cfg : HttpSettings) (m : Http.Method) (path : String) (body : Option Json) :
    Except Failure Http.Request :=
  ((Http.endpointUrl cfg.base path).map fun url =>
    ⟨m, url, body.map fun b => Text.Utf8.ofString b.render, none⟩).mapError .setup

theorem prepare_eq {cfg : HttpSettings} {m : Http.Method} {path : String} {body : Option Json}
    {r : Except Failure Http.Request} (h : (prepare cfg m path body).run w = (r, w')) :
    r = preparedRequest cfg m path body ∧ World.Alike w w' := by
  simp only [prepare, preparedRequest] at h ⊢
  cases hu : Http.endpointUrl cfg.base path <;> simp only [hu, Op.run_bind, Op.run_note,
    Op.run_throw, Op.run_pure] at h <;> cases h <;> exact ⟨rfl, rfl, rfl, rfl, rfl⟩

theorem checkStatus_eq {resp : Http.Response} {r : Except Failure Http.Response}
    (h : (checkStatus resp).run w = (r, w')) : r = ensureSuccess resp ∧ World.Alike w w' := by
  simp only [checkStatus] at h
  cases hs : ensureSuccess resp <;> simp only [hs, Op.run_bind, Op.run_noteFailure,
    Op.run_throw, Op.run_pure] at h <;> cases h <;> exact ⟨rfl, rfl, rfl, rfl, rfl⟩

/-- A response rotates the held session cookie: in cookie mode it sets a session cookie, and the
credentials held are a cookie of another value. -/
structure Rotates (cfg : HttpSettings) (r : Http.Response) (st : SessionState)
    (c : Http.SetCookie) : Prop where
  mode : cfg.mode = .cookie
  sets : setCookie cfg r = some c
  held : ∃ n v, st.credentials = some (.cookie n v) ∧ v ≠ c.value

/-- A rotated cookie replaces the held one, keeping the user, and the vault keeps the new session
as far as it can. -/
theorem trackCookieRotation_of_rotates {cfg : HttpSettings} {resp : Http.Response}
    {c : Http.SetCookie} {r : Except Failure Unit} (hrotates : Rotates cfg resp w.state c)
    (h : (trackCookieRotation cfg resp).run w = (r, w')) :
    r = .ok () ∧ w'.state = w.state.replaceCredentials (.cookie c.name c.value) none ∧
      w'.vault = w.vault.persisted w'.state.session w.clock ∧ w'.clock = w.clock ∧
      w'.gateway = w.gateway := by
  obtain ⟨hmode, hsets, n, v, held, hdiffers⟩ := hrotates
  have hother : (v != c.value) = true := bne_iff_ne.mpr hdiffers
  simp only [trackCookieRotation, hmode, if_true, hsets, Op.run_bind, Op.run_state] at h
  simp only [held, hother, if_true, Op.run_bind, Op.run_note, Op.run_modifyState,
    Op.run_state] at h
  obtain ⟨rfl, halike⟩ := Op.tolerate_eq h
  obtain ⟨hs, hv, hc, hg⟩ := Op.persist_run _ _
  refine ⟨rfl, halike.state.trans hs, ?_, halike.clock.trans hc, halike.gateway.trans hg⟩
  rw [halike.vault.trans hv, halike.state.trans hs]

theorem trackCookieRotation_of_steady {cfg : HttpSettings} {resp : Http.Response}
    {r : Except Failure Unit} (hsteady : ∀ c, ¬ Rotates cfg resp w.state c)
    (h : (trackCookieRotation cfg resp).run w = (r, w')) : r = .ok () ∧ World.Alike w w' := by
  simp only [trackCookieRotation] at h
  split at h
  · rename_i hmode
    split at h
    · cases h; exact ⟨rfl, rfl, rfl, rfl, rfl⟩
    · rename_i c hsets
      simp only [Op.run_bind, Op.run_state] at h
      split at h
      · rename_i n v held
        split at h
        · rename_i hother
          exact absurd ⟨hmode, hsets, n, v, held, bne_iff_ne.mp hother⟩ (hsteady c)
        · cases h; exact ⟨rfl, rfl, rfl, rfl, rfl⟩
      · cases h; exact ⟨rfl, rfl, rfl, rfl, rfl⟩
  · cases h; exact ⟨rfl, rfl, rfl, rfl, rfl⟩

/-- Following a rotated cookie either changes nothing but the journal, or replaces the held
credentials keeping the user and persists them; the gateway's own state is left alone. -/
theorem trackCookieRotation_eq {cfg : HttpSettings} {resp : Http.Response} {r : Except Failure Unit}
    (h : (trackCookieRotation cfg resp).run w = (r, w')) :
    r = .ok () ∧ w'.gateway = w.gateway ∧ w'.clock = w.clock ∧
      (w'.state = w.state ∨ ∃ c, w'.state = w.state.replaceCredentials c none) := by
  by_cases hrotating : ∃ c, Rotates cfg resp w.state c
  · obtain ⟨c, hrotates⟩ := hrotating
    obtain ⟨rfl, hreplaced, -, hc, hg⟩ := trackCookieRotation_of_rotates hrotates h
    exact ⟨rfl, hg, hc, .inr ⟨_, hreplaced⟩⟩
  · obtain ⟨rfl, halike⟩ := trackCookieRotation_of_steady (not_exists.mp hrotating) h
    exact ⟨rfl, halike.gateway, halike.clock, .inl halike.state⟩

/-- Accepting passes a response with a success status and otherwise fails with its status;
cookie rotation may replace the credentials on the way. -/
theorem accept_eq {cfg : HttpSettings} {resp : Http.Response} {r : Except Failure Http.Response}
    (h : (accept cfg resp).run w = (r, w')) :
    r = ensureSuccess resp ∧ w'.gateway = w.gateway ∧ w'.clock = w.clock ∧
      (w'.state = w.state ∨ ∃ c, w'.state = w.state.replaceCredentials c none) := by
  simp only [accept, Op.run_bind] at h
  rcases hc : (checkStatus resp).run w with ⟨rc, wc⟩
  obtain ⟨rfl, halike⟩ := checkStatus_eq hc
  rw [hc] at h
  cases hs : ensureSuccess resp with
  | error f =>
    simp only [hs] at h
    cases h
    exact ⟨rfl, halike.gateway, halike.clock, .inl halike.state⟩
  | ok r' =>
    simp only [hs] at h
    rcases ht : (trackCookieRotation cfg r').run wc with ⟨rt, wt⟩
    obtain ⟨rfl, hg, hk, hst⟩ := trackCookieRotation_eq ht
    rw [ht] at h
    cases h
    refine ⟨rfl, hg.trans halike.gateway, hk.trans halike.clock, ?_⟩
    rcases hst with hst | ⟨c, hst⟩
    · exact .inl (hst.trans halike.state)
    · exact .inr ⟨c, by rw [hst, halike.state]⟩

/-- What a refresh presents for held credentials: the bearer header of the refresh token, or
nothing for a cookie; bearer credentials without a refresh token have nothing to present. -/
def refreshAuthorizationValue : Credentials → Except Failure (Option Http.HeaderValue)
  | .bearer _ (some r) => ((Http.HeaderValue.bearer r.text).map some).mapError .setup
  | .bearer _ none => .error (.invalidInput "Session has no refresh token")
  | .cookie .. => .ok none

theorem refreshAuthorization_eq {cfg : HttpSettings} {c : Credentials}
    {r : Except Failure (Option Http.HeaderValue)} (h : (refreshAuthorization cfg c).run w = (r, w')) :
    r = refreshAuthorizationValue c ∧ World.Quiet w w' := by
  rcases c with ⟨a, _ | rt⟩ | ⟨n, v⟩
  · cases h; exact ⟨rfl, .refl w⟩
  · simp only [refreshAuthorization, refreshAuthorizationValue] at h ⊢
    cases hb : Http.HeaderValue.bearer rt.text <;> simp only [hb] at h <;> cases h <;>
      exact ⟨rfl, .refl w⟩
  · simp only [refreshAuthorization, Op.run_bind] at h
    rcases hs : (seedCookie cfg n v).run w with ⟨rs, ws⟩
    obtain ⟨rfl, q⟩ := seedCookie_eq hs
    rw [hs] at h
    cases h
    exact ⟨rfl, q⟩

/-- Expiring the session clears it, empties the vault and expires the jar's session cookie. -/
theorem expireSession_eq {cfg : HttpSettings} {r : Except Failure Failure}
    (h : (expireSession cfg).run w = (r, w')) :
    r = .ok .sessionExpired ∧ w'.state = w.state.clear ∧ w'.vault = w.vault.clear.2 ∧
      w'.clock = w.clock ∧ w'.gateway.net = w.gateway.net := by
  simp only [expireSession, Op.run_bind, Op.run_note, Op.run_modifyState] at h
  split at h
  · rename_i w₁ hx
    obtain ⟨-, q⟩ := expireCookie_eq hx
    split at h
    · rename_i w₂ htol
      obtain ⟨-, halike⟩ := Op.tolerate_eq htol
      rcases hcv : Op.clearVault.run w₁ with ⟨rv, wv⟩
      obtain ⟨-, hs, hv, hk, hg⟩ := Op.clearVault_eq hcv
      rw [hcv] at halike
      cases h
      refine ⟨rfl, ?_, ?_, ?_, ?_⟩
      · rw [halike.state, hs, q.state]
      · rw [halike.vault, hv, q.vault]
      · rw [halike.clock, hk, q.clock]
      · rw [halike.gateway, hg, q.net]
    · rename_i htol
      exact absurd (Op.tolerate_eq htol).1 (by simp)
  · rename_i hx
    exact absurd (expireCookie_eq hx).1 (by simp)

end HttpGateway

end Signon
