import Signon.Gateway.Contention
import Signon.Proofs.Gateway.Refresh

/-!
Refreshes of authorized sends running side by side. A send issues a refresh only while the
generation is the one it read and holds the lock until the generation moves on, so however the
sends interleave no two refreshes are issued for one generation.
-/

namespace Signon.HttpGateway

variable {ν : Type} {cfg : HttpSettings} {t : Http.Transport ν} {req : Http.Request}
  {w w' : World (Link ν)}

/-- How one step can change the shared session: not at all, by replacing the credentials, or by
signing out. -/
inductive Rewrite (st : SessionState) : SessionState → Prop
  | keep : Rewrite st st
  | replace (c : Credentials) (u : Option User) : Rewrite st (st.replaceCredentials c u)
  | clear : Rewrite st st.clear

namespace Rewrite

variable {st st' : SessionState}

theorem generation_le (h : Rewrite st st') : st.generation ≤ st'.generation := by
  cases h <;> simp

theorem eq_of_generation (h : Rewrite st st') (hsame : st'.generation = st.generation) :
    st' = st := by
  cases h with
  | keep => rfl
  | replace => simp at hsame
  | clear => simp at hsame

theorem keeps (P : SessionState → Prop) {g : Nat} (h : Rewrite st st') (hg : g ≤ st.generation)
    (hp : st.generation = g → P st) : g ≤ st'.generation ∧ (st'.generation = g → P st') := by
  have hle := h.generation_le
  refine ⟨Nat.le_trans hg hle, fun hg' => ?_⟩
  have hsame : st'.generation = st.generation := by omega
  rw [h.eq_of_generation hsame]
  exact hp (by omega)

end Rewrite

def retried (req : Http.Request) (c : Credentials) : Except Failure (Stage × Issue) :=
  (authorizationValue (some c)).map fun a => (.retrying a, .request { req with authorization := a })

theorem retryWith_eq {c : Credentials} {r : Except Failure (Stage × Issue)}
    (h : (retryWith cfg req c).run w = (r, w')) : w'.state = w.state ∧ r = retried req c := by
  simp only [retryWith, Op.run_bind, Op.run_note] at h
  split at h
  · rename_i a w₁ ha
    obtain ⟨hv, q⟩ := authorization_eq ha
    cases h
    exact ⟨q.state, by simp [retried, ← hv]⟩
  · rename_i f w₁ ha
    obtain ⟨hv, q⟩ := authorization_eq ha
    cases h
    exact ⟨q.state, by simp [retried, ← hv]⟩

theorem refreshRequest_eq {current : Credentials}
    {r : Except Failure (Http.Request × Option Http.HeaderValue)}
    (h : (refreshRequest cfg current).run w = (r, w')) :
    w'.state = w.state ∧ r = (refreshAuthorizationValue current).bind fun a =>
      (preparedRequest cfg .post cfg.endpoints.refresh none).map fun rq => (rq, a) := by
  simp only [refreshRequest, Op.run_bind] at h
  split at h
  · rename_i a w₁ ha
    obtain ⟨hv, q⟩ := refreshAuthorization_eq ha
    split at h
    · rename_i rq w₂ hp
      obtain ⟨hrq, halike⟩ := prepare_eq hp
      cases h
      exact ⟨by rw [halike.state, q.state], by rw [← hv, ← hrq]; rfl⟩
    · rename_i f w₂ hp
      obtain ⟨hrq, halike⟩ := prepare_eq hp
      cases h
      exact ⟨by rw [halike.state, q.state], by rw [← hv, ← hrq]; rfl⟩
  · rename_i f w₁ ha
    obtain ⟨hv, q⟩ := refreshAuthorization_eq ha
    cases h
    exact ⟨q.state, by rw [← hv]; rfl⟩

theorem refreshExchange_eq {current : Credentials} {rq : Http.Request}
    {a : Option Http.HeaderValue} {r : Except Failure (Credentials × Option User)}
    (h : (refreshExchange cfg t current rq a).run w = (r, w')) :
    w'.state = w.state ∧ ∀ c u, r = .ok (c, u) →
      ∃ resp, Http.isSuccess resp.status = true ∧ refreshGrant cfg current resp = .ok (c, u) := by
  simp only [refreshExchange, Op.run_bind] at h
  split at h
  · rename_i resp w₁ hd
    obtain ⟨-, hs₁, -⟩ := dispatch_eq hd
    split at h
    · rename_i resp' w₂ hc
      obtain ⟨hok, halike⟩ := checkStatus_eq hc
      obtain ⟨hsucc, rfl⟩ := ensureSuccess_eq_ok.mp hok.symm
      simp only [Op.run_lift] at h
      cases h
      exact ⟨by rw [halike.state, hs₁], fun c u hr => ⟨_, hsucc, hr⟩⟩
    · rename_i f w₂ hc
      cases h
      exact ⟨by rw [(checkStatus_eq hc).2.state, hs₁], fun _ _ hr => by cases hr⟩
  · rename_i f w₁ hd
    cases h
    exact ⟨(dispatch_eq hd).2.1, fun _ _ hr => by cases hr⟩

theorem accept_rewrite {resp : Http.Response} {r : Except Failure Http.Response}
    (h : (accept cfg resp).run w = (r, w')) : Rewrite w.state w'.state := by
  obtain ⟨-, -, -, hst⟩ := accept_eq h
  rcases hst with hst | ⟨c, hst⟩
  · rw [hst]
    exact .keep
  · rw [hst]
    exact .replace c none

/-- `Moves cfg req s st (s', e) st'`: one step of an authorized send of `req` from the stage `s`,
over the session `st`, leaves the send at `s'`, issues `e`, and leaves the session `st'`. -/
inductive Moves (cfg : HttpSettings) (req : Http.Request) :
    Stage → SessionState → Stage × Issue → SessionState → Prop
  /-- The first try goes out, with the credentials and the generation read together. -/
  | start {st : SessionState} {a : Option Http.HeaderValue} :
      authorizationValue st.credentials = .ok a →
      Moves cfg req .ready st
        (.sent st.credentials st.generation a, .request { req with authorization := a }) st
  /-- The credentials read cannot be presented. -/
  | unpresentable {st : SessionState} {f : Failure} :
      authorizationValue st.credentials = .error f →
      Moves cfg req .ready st (.done (.error f), .quiet) st
  /-- The first answer ends the send; accepting it may follow a rotated cookie. -/
  | answered {held : Option Credentials} {seen : Nat} {a : Option Http.HeaderValue}
      {x : Except Failure Http.Response} {st st' : SessionState} :
      Rewrite st st' → Moves cfg req (.sent held seen a) st (.done x, .quiet) st'
  /-- A 401 on held credentials: the send waits for the refresh lock. -/
  | refused {held : Option Credentials} {seen : Nat} {a : Option Http.HeaderValue}
      {st : SessionState} :
      held ≠ none → Moves cfg req (.sent held seen a) st (.waiting seen, .quiet) st
  /-- The generation moved on since the send read it: it retries with the credentials held. -/
  | reuse {seen : Nat} {st : SessionState} {c : Credentials} {a : Option Http.HeaderValue} :
      st.generation ≠ seen → st.credentials = some c → authorizationValue (some c) = .ok a →
      Moves cfg req (.waiting seen) st (.retrying a, .request { req with authorization := a }) st
  /-- The generation moved on, and the credentials held cannot be presented. -/
  | reuseUnpresentable {seen : Nat} {st : SessionState} {c : Credentials} {f : Failure} :
      st.generation ≠ seen → st.credentials = some c → authorizationValue (some c) = .error f →
      Moves cfg req (.waiting seen) st (.done (.error f), .quiet) st
  /-- The generation moved on, and the session is signed out. -/
  | signedOut {seen : Nat} {st : SessionState} :
      st.generation ≠ seen → st.credentials = none →
      Moves cfg req (.waiting seen) st (.done (.error .sessionExpired), .quiet) st
  /-- The generation is the one read, and no credentials are held. -/
  | unheld {seen : Nat} {st : SessionState} :
      st.generation = seen → st.credentials = none →
      Moves cfg req (.waiting seen) st (.done (.error .notAuthenticated), .quiet) st
  /-- The generation is the one read: the send takes the lock and issues the refresh of the
  credentials held. -/
  | issue {seen : Nat} {st : SessionState} {current : Credentials} {rq : Http.Request}
      {a : Option Http.HeaderValue} :
      st.generation = seen → st.credentials = some current →
      refreshAuthorizationValue current = .ok a →
      preparedRequest cfg .post cfg.endpoints.refresh none = .ok rq →
      Moves cfg req (.waiting seen) st
        (.refreshing seen current rq a, .refresh seen { rq with authorization := a }) st
  /-- The generation is the one read, but no refresh can be issued: the session expires. -/
  | unissued {seen : Nat} {st : SessionState} {current : Credentials} :
      st.generation = seen → st.credentials = some current →
      (¬ ∃ rq a, refreshAuthorizationValue current = .ok a ∧
        preparedRequest cfg .post cfg.endpoints.refresh none = .ok rq) →
      Moves cfg req (.waiting seen) st (.done (.error .sessionExpired), .quiet) st.clear
  /-- The refresh is granted: its credentials are adopted, and the send retries with them. -/
  | adopted {seen : Nat} {current : Credentials} {rq : Http.Request}
      {a a' : Option Http.HeaderValue} {st : SessionState} {c : Credentials} {u : Option User} :
      (∃ resp, Http.isSuccess resp.status = true ∧ refreshGrant cfg current resp = .ok (c, u)) →
      authorizationValue (some c) = .ok a' →
      Moves cfg req (.refreshing seen current rq a) st
        (.retrying a', .request { req with authorization := a' }) (st.replaceCredentials c u)
  /-- The refresh is granted, but its credentials cannot be presented. -/
  | adoptedUnpresentable {seen : Nat} {current : Credentials} {rq : Http.Request}
      {a : Option Http.HeaderValue} {st : SessionState} {c : Credentials} {u : Option User}
      {f : Failure} :
      (∃ resp, Http.isSuccess resp.status = true ∧ refreshGrant cfg current resp = .ok (c, u)) →
      authorizationValue (some c) = .error f →
      Moves cfg req (.refreshing seen current rq a) st (.done (.error f), .quiet)
        (st.replaceCredentials c u)
  /-- The refresh is not granted: the session expires. -/
  | expired {seen : Nat} {current : Credentials} {rq : Http.Request}
      {a : Option Http.HeaderValue} {st : SessionState} :
      Moves cfg req (.refreshing seen current rq a) st (.done (.error .sessionExpired), .quiet)
        st.clear
  /-- The second answer ends the send. -/
  | retried {a : Option Http.HeaderValue} {x : Except Failure Http.Response}
      {st st' : SessionState} :
      Rewrite st st' → Moves cfg req (.retrying a) st (.done x, .quiet) st'
  /-- A finished send stays finished. -/
  | idle {r : Except Failure Http.Response} {st : SessionState} :
      Moves cfg req (.done r) st (.done r, .quiet) st

section Advance

variable {r : Except Failure (Stage × Issue)}

theorem ready_moves (h : (Stage.ready.advance cfg t req).run w = (r, w')) :
    Moves cfg req .ready w.state (Stage.outcome r) w'.state := by
  simp only [Stage.advance, Op.run_bind, Op.run_state] at h
  generalize hp : w.state.credentialsWithGeneration = p at h
  obtain ⟨held, seen⟩ := p
  simp only [SessionState.credentialsWithGeneration, Prod.mk.injEq] at hp
  obtain ⟨rfl, rfl⟩ := hp
  split at h
  · rename_i a w₁ ha
    obtain ⟨hv, q⟩ := authorization_eq ha
    cases h
    rw [q.state]
    exact .start hv.symm
  · rename_i f w₁ ha
    obtain ⟨hv, q⟩ := authorization_eq ha
    cases h
    rw [q.state]
    exact .unpresentable hv.symm

theorem sent_moves {held : Option Credentials} {seen : Nat} {a : Option Http.HeaderValue}
    (h : ((Stage.sent held seen a).advance cfg t req).run w = (r, w')) :
    Moves cfg req (.sent held seen a) w.state (Stage.outcome r) w'.state := by
  simp only [Stage.advance, Op.run_bind] at h
  split at h
  · rename_i resp w₁ hd
    have hs₁ := (dispatch_eq hd).2.1
    by_cases hfinal : (resp.status != 401 || held.isNone) = true
    · rw [if_pos hfinal, Op.run_bind] at h
      split at h
      · rename_i r' w₂ hacc
        cases h
        exact .answered (hs₁ ▸ accept_rewrite hacc)
      · rename_i f w₂ hacc
        cases h
        exact .answered (hs₁ ▸ accept_rewrite hacc)
    · rw [if_neg hfinal] at h
      simp only [Op.run_bind, Op.run_note, Op.run_pure] at h
      cases h
      have holding : held ≠ none := (by simpa using hfinal : resp.status = 401 ∧ held ≠ none).2
      exact hs₁ ▸ .refused holding
  · rename_i f w₁ hd
    cases h
    exact .answered ((dispatch_eq hd).2.1 ▸ .keep)

/-- Issuing the second try, seen from the step that does it. -/
theorem retried_moves {s : Stage} {st : SessionState} {c : Credentials}
    (hreuse : ∀ a, authorizationValue (some c) = .ok a →
      Moves cfg req s st (.retrying a, .request { req with authorization := a }) st')
    (hunpresentable : ∀ f, authorizationValue (some c) = .error f →
      Moves cfg req s st (.done (.error f), .quiet) st') :
    Moves cfg req s st (Stage.outcome (retried req c)) st' := by
  rcases hv : authorizationValue (some c) with f | a
  · simpa [retried, hv, Stage.outcome] using hunpresentable f hv
  · simpa [retried, hv, Stage.outcome] using hreuse a hv

theorem waiting_moves {seen : Nat} (h : ((Stage.waiting seen).advance cfg t req).run w = (r, w')) :
    Moves cfg req (.waiting seen) w.state (Stage.outcome r) w'.state := by
  simp only [Stage.advance, Op.run_bind, Op.run_state] at h
  by_cases hmoved : (w.state.generation != seen) = true
  · rw [if_pos hmoved] at h
    have hmoved' : w.state.generation ≠ seen := by simpa using hmoved
    cases hc : w.state.credentials with
    | none =>
      simp only [hc, Op.run_throw] at h
      cases h
      exact .signedOut hmoved' hc
    | some c =>
      simp only [hc, Op.run_bind, Op.run_note] at h
      obtain ⟨hs, rfl⟩ := retryWith_eq h
      rw [hs]
      exact retried_moves (fun a hv => .reuse hmoved' hc hv)
        (fun f hv => .reuseUnpresentable hmoved' hc hv)
  · rw [if_neg hmoved] at h
    have hsame : w.state.generation = seen := by simpa using hmoved
    cases hc : w.state.credentials with
    | none =>
      simp only [hc, Op.run_throw] at h
      cases h
      exact .unheld hsame hc
    | some current =>
      simp only [hc, Op.run_bind, Op.run_attempt] at h
      rcases hq : (refreshRequest cfg current).run w with ⟨_ | ⟨rq, a⟩, w₁⟩ <;>
        simp only [hq] at h <;> obtain ⟨hs₁, hr⟩ := refreshRequest_eq hq
      · rw [Op.run_bind] at h
        rcases hx : (expireSession cfg).run w₁ with ⟨rx, w₂⟩
        obtain ⟨rfl, hs₂, -⟩ := expireSession_eq hx
        simp only [hx, Op.run_throw] at h
        cases h
        rw [hs₂, hs₁]
        refine .unissued hsame hc fun ⟨rq, a, ha, hp⟩ => ?_
        simp [ha, hp] at hr
      · cases h
        rw [hs₁]
        rcases ha : refreshAuthorizationValue current with f | a' <;>
          rcases hp : preparedRequest cfg .post cfg.endpoints.refresh none with g | rq' <;>
          simp [ha, hp] at hr
        obtain ⟨rfl, rfl⟩ := hr
        exact .issue hsame hc ha hp

theorem refreshing_moves {seen : Nat} {current : Credentials} {rq : Http.Request}
    {a : Option Http.HeaderValue}
    (h : ((Stage.refreshing seen current rq a).advance cfg t req).run w = (r, w')) :
    Moves cfg req (.refreshing seen current rq a) w.state (Stage.outcome r) w'.state := by
  simp only [Stage.advance, Op.run_bind, Op.run_attempt] at h
  rcases hx : (refreshExchange cfg t current rq a).run w with ⟨_ | ⟨c, u⟩, w₁⟩ <;>
    simp only [hx] at h <;> obtain ⟨hs₁, hgranted⟩ := refreshExchange_eq hx
  · rw [Op.run_bind] at h
    rcases he : (expireSession cfg).run w₁ with ⟨re, w₂⟩
    obtain ⟨rfl, hs₂, -⟩ := expireSession_eq he
    simp only [he, Op.run_throw] at h
    cases h
    rw [hs₂, hs₁]
    exact .expired
  · simp only [Op.run_modifyState, Op.run_state, Op.run_bind] at h
    split at h
    · rename_i w₂ htol
      obtain ⟨-, halike⟩ := Op.tolerate_eq htol
      have hs₂ := halike.state.trans (Op.persist_run _ _).1
      simp only [Op.run_note, SessionState.replaceCredentials] at h
      obtain ⟨hs, rfl⟩ := retryWith_eq h
      have hkept : w'.state = w.state.replaceCredentials c u := by
        rw [hs]
        exact hs₂.trans (by rw [hs₁])
      rw [hkept]
      exact retried_moves (fun a' hv => .adopted (hgranted c u rfl) hv)
        (fun f hv => .adoptedUnpresentable (hgranted c u rfl) hv)
    · rename_i htol
      exact absurd (Op.tolerate_eq htol).1 (by simp)

theorem retrying_moves {a : Option Http.HeaderValue}
    (h : ((Stage.retrying a).advance cfg t req).run w = (r, w')) :
    Moves cfg req (.retrying a) w.state (Stage.outcome r) w'.state := by
  simp only [Stage.advance, Op.run_bind] at h
  split at h
  · rename_i resp w₁ hd
    have hs₁ := (dispatch_eq hd).2.1
    split at h
    · rename_i r' w₂ hacc
      cases h
      exact .retried (hs₁ ▸ accept_rewrite hacc)
    · rename_i f w₂ hacc
      cases h
      exact .retried (hs₁ ▸ accept_rewrite hacc)
  · rename_i f w₁ hd
    cases h
    exact .retried ((dispatch_eq hd).2.1 ▸ .keep)

theorem advance_moves (s : Stage) (h : (s.advance cfg t req).run w = (r, w')) :
    Moves cfg req s w.state (Stage.outcome r) w'.state := by
  cases s with
  | ready => exact ready_moves h
  | sent held seen a => exact sent_moves h
  | waiting seen => exact waiting_moves h
  | refreshing seen current rq a => exact refreshing_moves h
  | retrying a => exact retrying_moves h
  | done x =>
    cases h
    exact .idle

end Advance

namespace Moves

variable {req : Http.Request} {s s' : Stage} {st st' : SessionState} {e : Issue}

theorem rewrite {p : Stage × Issue} (h : Moves cfg req s st p st') : Rewrite st st' := by
  cases h with
  | answered hw | retried hw => exact hw
  | unissued | expired => exact .clear
  | adopted | adoptedUnpresentable => exact .replace _ _
  | start | unpresentable | refused | reuse | reuseUnpresentable | signedOut | unheld | issue
    | idle => exact .keep

theorem to_sent {held : Option Credentials} {g : Nat} {a : Option Http.HeaderValue}
    (h : Moves cfg req s st (.sent held g a, e) st') :
    held = st.credentials ∧ g = st.generation ∧ st' = st := by
  cases h
  exact ⟨rfl, rfl, rfl⟩

theorem to_waiting {g : Nat} (h : Moves cfg req s st (.waiting g, e) st') :
    ∃ held a, s = .sent held g a ∧ held ≠ none ∧ st' = st := by
  cases h with
  | refused holding => exact ⟨_, _, rfl, holding, rfl⟩

theorem to_refreshing {g : Nat} {current : Credentials} {rq : Http.Request}
    {a : Option Http.HeaderValue} (h : Moves cfg req s st (.refreshing g current rq a, e) st') :
    s = .waiting g ∧ st.generation = g ∧ st' = st := by
  cases h with
  | issue hsame => exact ⟨rfl, hsame, rfl⟩

theorem of_refresh {g : Nat} {rq : Http.Request} (h : Moves cfg req s st (s', .refresh g rq) st') :
    s = .waiting g ∧ st.generation = g ∧ ∃ current rq' a, s' = .refreshing g current rq' a := by
  cases h with
  | issue hsame => exact ⟨rfl, hsame, _, _, _, rfl⟩

/-- The step that ends a refresh writes the session once more. -/
theorem from_refreshing {g : Nat} {current : Credentials} {rq : Http.Request}
    {a : Option Http.HeaderValue} {p : Stage × Issue}
    (h : Moves cfg req (.refreshing g current rq a) st p st') :
    st'.generation = st.generation + 1 := by
  cases h <;> simp

end Moves

theorem refreshSeens_append (l₁ l₂ : List Issue) :
    refreshSeens (l₁ ++ l₂) = refreshSeens l₁ ++ refreshSeens l₂ :=
  List.filterMap_append

namespace Contention

variable {n : Nat} {reqs : Fin n → Http.Request}

/-- A step of the scheduler: the send that moved made one of its `Moves`, the others stayed
where they were, and it took the lock only while no send held it. -/
theorem Step.moves {c c' : Contention n ν} {i : Fin n} {e : Issue}
    (h : Step cfg t reqs c i e c') :
    Moves cfg (reqs i) (c.stages i) c.world.state (c'.stages i, e) c'.world.state ∧
      (∀ j, j ≠ i → c'.stages j = c.stages j) ∧
      ((c.stages i).waitsForLock = true → c.LockFree) := by
  cases h with
  | advance hfree =>
    rcases hr : ((c.stages i).advance cfg t (reqs i)).run c.world with ⟨r, w'⟩
    have hm := advance_moves _ hr
    simp only [step, hr, setStage, if_pos]
    exact ⟨hm, fun j hji => by simp [hji], hfree⟩

/-- What holds of the sends and the refreshes issued so far, all along a run: each refresh issued
was for a generation since passed, unless its sender still holds the lock; a sender holds the
lock for a generation not yet passed; and a send that read generation `g` finds, while the
generation is still `g`, the credentials it read. -/
structure Consistent (c : Contention n ν) (issues : List Issue) : Prop where
  refreshed : ∀ g ∈ refreshSeens issues, g < c.world.state.generation ∨
    ∃ j current rq a, c.stages j = .refreshing g current rq a
  refreshing : ∀ j g current rq a, c.stages j = .refreshing g current rq a →
    g ≤ c.world.state.generation
  sent : ∀ j held g a, c.stages j = .sent held g a →
    g ≤ c.world.state.generation ∧
      (c.world.state.generation = g → c.world.state.credentials = held)
  waiting : ∀ j g, c.stages j = .waiting g →
    g ≤ c.world.state.generation ∧
      (c.world.state.generation = g → c.world.state.credentials ≠ none)

theorem consistent_start (w : World (Link ν)) : Consistent (start w : Contention n ν) [] where
  refreshed := by simp [refreshSeens]
  refreshing := by simp [start]
  sent := by simp [start]
  waiting := by simp [start]

variable {c c' : Contention n ν} {issues : List Issue} {i : Fin n} {e : Issue}

theorem Consistent.fresh {g : Nat} {rq : Http.Request} (hc : Consistent c issues)
    (h : Step cfg t reqs c i (.refresh g rq) c') :
    g ∉ refreshSeens issues ∧ c.world.state.generation = g := by
  obtain ⟨hm, -, hfree⟩ := h.moves
  obtain ⟨hwaits, hsame, -⟩ := hm.of_refresh
  have hlockFree := hfree (by rw [hwaits]; rfl)
  refine ⟨fun hissued => ?_, hsame⟩
  -- an earlier refresh for `g` would still hold the lock, or the generation would have passed
  rcases hc.refreshed g hissued with hpassed | ⟨j, current, rq', a, hj⟩
  · omega
  · have := hlockFree j
    simp [hj, Stage.holdsLock] at this

theorem Consistent.step (hc : Consistent c issues) (h : Step cfg t reqs c i e c') :
    Consistent c' (issues ++ [e]) := by
  obtain ⟨hm, hothers, -⟩ := h.moves
  have hw := hm.rewrite
  constructor
  · intro g hg
    rw [refreshSeens_append] at hg
    rcases List.mem_append.mp hg with hold | hnew
    · rcases hc.refreshed g hold with hpassed | ⟨j, current, rq, a, hj⟩
      · exact .inl (Nat.lt_of_lt_of_le hpassed hw.generation_le)
      · by_cases hji : j = i
        · subst hji
          rw [hj] at hm
          have hends := hm.from_refreshing
          have := hc.refreshing j g current rq a hj
          exact .inl (by omega)
        · exact .inr ⟨j, current, rq, a, (hothers j hji).trans hj⟩
    · cases e with
      | refresh g' rq =>
        simp only [refreshSeens, List.filterMap_cons, List.filterMap_nil, List.mem_singleton] at hnew
        subst hnew
        obtain ⟨-, -, current, rq', a, hs'⟩ := hm.of_refresh
        exact .inr ⟨i, current, rq', a, hs'⟩
      | quiet | request _ => simp [refreshSeens] at hnew
  · intro j g current rq a hj
    by_cases hji : j = i
    · subst hji
      rw [hj] at hm
      obtain ⟨-, hsame, hst⟩ := hm.to_refreshing
      rw [hst]
      exact Nat.le_of_eq hsame.symm
    · rw [hothers j hji] at hj
      exact Nat.le_trans (hc.refreshing j g current rq a hj) hw.generation_le
  · intro j held g a hj
    by_cases hji : j = i
    · subst hji
      rw [hj] at hm
      obtain ⟨rfl, rfl, hst⟩ := hm.to_sent
      rw [hst]
      exact ⟨Nat.le_refl _, fun _ => rfl⟩
    · rw [hothers j hji] at hj
      exact hw.keeps (·.credentials = held) (hc.sent j held g a hj).1 (hc.sent j held g a hj).2
  · intro j g hj
    by_cases hji : j = i
    · subst hji
      rw [hj] at hm
      obtain ⟨held, a, hs, holding, hst⟩ := hm.to_waiting
      obtain ⟨hle, hunchanged⟩ := hc.sent j held g a hs
      rw [hst]
      exact ⟨hle, fun hsame => by rw [hunchanged hsame]; exact holding⟩
    · rw [hothers j hji] at hj
      exact hw.keeps (·.credentials ≠ none) (hc.waiting j g hj).1 (hc.waiting j g hj).2

theorem Run.consistent {w : World (Link ν)} (h : Run cfg t reqs (start w) issues c) :
    Consistent c issues ∧ (refreshSeens issues).Nodup := by
  induction h with
  | nil => exact ⟨consistent_start w, by simp [refreshSeens]⟩
  | @step issues c c' i e _ hstep ih =>
    obtain ⟨hc, hnodup⟩ := ih
    refine ⟨hc.step hstep, ?_⟩
    rw [refreshSeens_append]
    cases e with
    | refresh g rq =>
      have hunissued := (hc.fresh hstep).1
      simp only [refreshSeens, List.filterMap_cons, List.filterMap_nil]
      exact List.nodup_append.mpr ⟨hnodup, by simp,
        fun a ha b hb => by rw [List.mem_singleton] at hb; subst hb; exact fun hsame => hunissued (hsame ▸ ha)⟩
    | quiet | request _ => simpa [refreshSeens] using hnodup

end Contention

open Contention in
/-- However authorized sends interleave, refreshes are issued once per generation. A send issues
a refresh only after it waited for the lock with the generation it read, while no send holds the
lock and the generation is still that one; no two refreshes of a run are for one generation, so
when every refused send read the hsame generation, at most one refresh goes out. A send that
takes the lock retries with the credentials held at that moment once the generation has moved
on, or reports the session expired when it has been signed out; while the generation is the one
it read it finds its credentials still held and refreshes them, or the session expires. The
sender of a refresh retries with the credentials it adopted, or the session expires. -/
theorem refresh_once_per_generation (cfg : HttpSettings) (t : Http.Transport ν) {n : Nat}
    (reqs : Fin n → Http.Request) (w : World (Link ν)) :
    (∀ {issues c i g rq c'}, Run cfg t reqs (start w) issues c →
      Step cfg t reqs c i (.refresh g rq) c' →
      c.stages i = .waiting g ∧ c.LockFree ∧ c.world.state.generation = g ∧
        ∃ current rq' a, c'.stages i = .refreshing g current rq' a) ∧
    (∀ {issues c}, Run cfg t reqs (start w) issues c → (refreshSeens issues).Nodup) ∧
    (∀ {issues c} (g : Nat), Run cfg t reqs (start w) issues c →
      (∀ g' ∈ refreshSeens issues, g' = g) → (refreshSeens issues).length ≤ 1) ∧
    (∀ {issues c i e c' g}, Run cfg t reqs (start w) issues c → c.stages i = .waiting g →
      Step cfg t reqs c i e c' →
      (c.world.state.generation ≠ g ∧
        ((∃ held, c.world.state.credentials = some held ∧
            ((∃ a, authorizationValue (some held) = .ok a ∧ c'.stages i = .retrying a ∧
                e = .request { reqs i with authorization := a }) ∨
              (∃ f, authorizationValue (some held) = .error f ∧ c'.stages i = .done (.error f)))) ∨
          (c.world.state.credentials = none ∧ c'.stages i = .done (.error .sessionExpired)))) ∨
      (c.world.state.generation = g ∧ ∃ current, c.world.state.credentials = some current ∧
        ((∃ rq a, c'.stages i = .refreshing g current rq a) ∨
          (c'.stages i = .done (.error .sessionExpired) ∧
            c'.world.state.session = Session.anonymous)))) ∧
    (∀ {c i e c' g current rq a}, c.stages i = .refreshing g current rq a →
      Step cfg t reqs c i e c' →
      (∃ fresh u, c'.world.state = c.world.state.replaceCredentials fresh u ∧
        ((∃ a', authorizationValue (some fresh) = .ok a' ∧ c'.stages i = .retrying a' ∧
            e = .request { reqs i with authorization := a' }) ∨
          (∃ f, authorizationValue (some fresh) = .error f ∧ c'.stages i = .done (.error f)))) ∨
      (c'.stages i = .done (.error .sessionExpired) ∧
        c'.world.state.session = Session.anonymous)) := by
  refine ⟨?_, fun hrun => hrun.consistent.2, ?_, ?_, ?_⟩
  · intro issues c i g rq c' hrun hstep
    obtain ⟨hm, -, hfree⟩ := hstep.moves
    obtain ⟨hwaits, hsame, hissued⟩ := hm.of_refresh
    exact ⟨hwaits, hfree (by rw [hwaits]; rfl), hsame, hissued⟩
  · -- refreshes for one generation are at most one, since none repeats
    intro issues c g hrun hsame
    have hnodup := hrun.consistent.2
    rcases hr : refreshSeens _ with _ | ⟨g₁, _ | ⟨g₂, rest⟩⟩
    · simp
    · simp
    · rw [hr] at hnodup hsame
      have h₁ := hsame g₁ (by simp)
      have h₂ := hsame g₂ (by simp)
      simp [h₁, h₂] at hnodup
  · intro issues c i e c' g hrun hwaits hstep
    obtain ⟨hm, -, -⟩ := hstep.moves
    have held := (hrun.consistent.1.waiting _ _ hwaits).2
    rw [hwaits] at hm
    generalize c'.stages i = s' at hm ⊢
    generalize c.world.state = st at hm held ⊢
    generalize c'.world.state = st' at hm ⊢
    cases hm with
    | reuse hmoved hc hv => exact .inl ⟨hmoved, .inl ⟨_, hc, .inl ⟨_, hv, rfl, rfl⟩⟩⟩
    | reuseUnpresentable hmoved hc hv => exact .inl ⟨hmoved, .inl ⟨_, hc, .inr ⟨_, hv, rfl⟩⟩⟩
    | signedOut hmoved hc => exact .inl ⟨hmoved, .inr ⟨hc, rfl⟩⟩
    | unheld hsame hc => exact absurd hc (held hsame)
    | issue hsame hc => exact .inr ⟨hsame, _, hc, .inl ⟨_, _, rfl⟩⟩
    | unissued hsame hc => exact .inr ⟨hsame, _, hc, .inr ⟨rfl, by simp⟩⟩
  · intro c i e c' g current rq a hrefreshes hstep
    obtain ⟨hm, -, -⟩ := hstep.moves
    rw [hrefreshes] at hm
    generalize c'.stages i = s' at hm ⊢
    generalize c.world.state = st at hm ⊢
    generalize c'.world.state = st' at hm ⊢
    cases hm with
    | adopted _ hv => exact .inl ⟨_, _, rfl, .inl ⟨_, hv, rfl, rfl⟩⟩
    | adoptedUnpresentable _ hv => exact .inl ⟨_, _, rfl, .inr ⟨_, hv, rfl⟩⟩
    | expired => exact .inr ⟨rfl, by simp⟩

end Signon.HttpGateway
