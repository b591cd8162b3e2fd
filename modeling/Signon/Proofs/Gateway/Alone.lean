import Signon.Proofs.Gateway.Contention

/-!
A send that runs alone: the steps of `Stage.advance`, run from the start of a send to its end
with no other send between them, answer and leave the world as `HttpGateway.sendAuthorized` does.
-/

namespace Signon.HttpGateway

variable {ν : Type} {cfg : HttpSettings} {t : Http.Transport ν} {req : Http.Request}

/-- The second try of `req` with the credentials `fresh`, to its answer. -/
def retryAfter (cfg : HttpSettings) (t : Http.Transport ν) (req : Http.Request)
    (fresh : Credentials) : Op (Link ν) Http.Response := do
  Op.note .debug "auth::infra::http" "Retrying request"
  let auth ← authorization cfg (some fresh)
  accept cfg (← dispatch t req auth)

/-- What is left of an authorized send of `req` at a stage, run to its end without a stop. -/
def Stage.remaining (cfg : HttpSettings) (t : Http.Transport ν) (req : Http.Request) :
    Stage → Op (Link ν) Http.Response
  | .ready => sendAuthorized cfg t req
  | .sent held seen auth => do
    let resp ← dispatch t req auth
    if resp.status != 401 || held.isNone then accept cfg resp
    else
      Op.note .info "auth::infra::http" "Request rejected with 401, refreshing session"
      retryAfter cfg t req (← refreshAfter cfg t seen)
  | .waiting seen => do retryAfter cfg t req (← refreshAfter cfg t seen)
  | .refreshing _ current rq auth =>
    (do
      match ← Op.attempt (refreshExchange cfg t current rq auth) with
      | .error _ => throw (← expireSession cfg)
      | .ok (c, u) =>
        Op.modifyState (·.replaceCredentials c u)
        let s := (← Op.state).session
        Op.tolerate (Op.persist s)
        Op.note .info "auth::infra::http" "Session refreshed"
        pure s) >>= fun s =>
    (match s.credentials with
      | some c => pure c
      | none => throw .sessionExpired) >>= retryAfter cfg t req
  | .retrying auth => do accept cfg (← dispatch t req auth)
  | .done r => Op.lift r

theorem retryWith_remaining (c : Credentials) :
    (retryWith cfg req c >>= fun p => p.1.remaining cfg t req) = retryAfter cfg t req c := by
  simp only [retryWith, retryAfter, Stage.remaining, bind_assoc, pure_bind]

theorem requestRefresh_split (current : Credentials) :
    requestRefresh cfg t current =
      refreshRequest cfg current >>= fun p => refreshExchange cfg t current p.1 p.2 := by
  simp only [requestRefresh, refreshRequest, refreshExchange, bind_assoc, pure_bind]

/-- How many steps a send at this stage is at most from its end. -/
def Stage.rank : Stage → Nat
  | .ready => 5
  | .sent .. => 4
  | .waiting _ => 3
  | .refreshing .. => 2
  | .retrying _ => 1
  | .done _ => 0

theorem remaining_waiting (seen : Nat) :
    (Stage.waiting seen).remaining cfg t req =
      ((Stage.waiting seen).advance cfg t req >>= fun p => p.1.remaining cfg t req) := by
  rw [Stage.remaining]
  simp only [Stage.advance, refreshAfter, bind_assoc]
  apply Op.ext
  intro w
  -- the send reads the state once where the sequential code reads it again to refresh
  simp only [Op.run_state_bind]
  by_cases hmoved : (w.state.generation != seen) = true
  · rw [if_pos hmoved, if_pos hmoved]
    congr 1
    rcases held : w.state.credentials with _ | c
    · simp only [Op.throw_bind]
    · simp only [bind_assoc, pure_bind, retryWith_remaining]
  · rw [if_neg hmoved, if_neg hmoved]
    simp only [refreshLocked, bind_assoc, Op.run_state_bind]
    congr 1
    rcases held : w.state.credentials with _ | current
    · simp only [Op.throw_bind]
    · simp only [bind_assoc]
      rw [requestRefresh_split, Op.attempt_bind, bind_assoc]
      refine bind_congr fun r => ?_
      rcases r with _ | ⟨rq, a⟩
      · simp only [pure_bind, bind_assoc, Op.throw_bind]
      · rfl

theorem remaining_advance (s : Stage) :
    s.remaining cfg t req = (s.advance cfg t req >>= fun p => p.1.remaining cfg t req) := by
  cases s with
  | ready =>
    simp only [Stage.advance, bind_assoc, pure_bind]
    simp only [Stage.remaining, sendAuthorized, retryAfter]
  | sent held seen a =>
    simp only [Stage.advance, bind_assoc]
    refine bind_congr fun resp => ?_
    split
    · simp only [bind_assoc, pure_bind, Stage.remaining, Op.lift_ok, bind_pure]
    · simp only [bind_assoc, pure_bind, Stage.remaining]
  | waiting seen => exact remaining_waiting seen
  | refreshing seen current rq a =>
    rw [Stage.remaining]
    simp only [Stage.advance, bind_assoc]
    refine bind_congr fun r => ?_
    rcases r with _ | ⟨c, u⟩
    · simp only [bind_assoc, Op.throw_bind]
    · simp only [bind_assoc, pure_bind]
      refine bind_congr fun _ => bind_congr fun st => bind_congr fun _ => bind_congr fun _ => ?_
      rcases st.session.credentials with _ | c
      · rfl
      · simp only [pure_bind, retryWith_remaining]
  | retrying a =>
    simp only [Stage.advance, bind_assoc, pure_bind]
    simp only [Stage.remaining, Op.lift_ok, bind_pure]
  | done r => simp only [Stage.advance, pure_bind]

theorem remaining_run (s : Stage) (w : World (Link ν)) :
    (s.remaining cfg t req).run w =
      ((Stage.outcome ((s.advance cfg t req).run w).1).1.remaining cfg t req).run
        ((s.advance cfg t req).run w).2 := by
  rw [remaining_advance, Op.run_bind]
  rcases (s.advance cfg t req).run w with ⟨_ | p, w'⟩ <;> rfl

theorem Moves.rank_lt {s : Stage} {st st' : SessionState} {p : Stage × Issue}
    (h : Moves cfg req s st p st') (hgoing : 0 < s.rank) : p.1.rank < s.rank := by
  cases h <;> simp [Stage.rank] at hgoing ⊢

theorem Stage.done_or_rank_pos (s : Stage) : (∃ r, s = .done r) ∨ 0 < s.rank := by
  cases s <;> simp [Stage.rank]

namespace Contention

variable {n : Nat} {reqs : Fin n → Http.Request} {c₀ : Contention n ν}

/-- Send `i` stepping alone, while no other send holds the refresh lock, ends where the rest of its
code run in one go ends, and leaves the other sends where they were. -/
theorem alone_finishes (i : Fin n) (c : Contention n ν) (issues : List Issue)
    (hrun : Run cfg t reqs c₀ issues c) (hothers : ∀ j, j ≠ i → (c.stages j).holdsLock = false) :
    ∃ issues' c', Run cfg t reqs c₀ issues' c' ∧
      c'.stages i = .done (((c.stages i).remaining cfg t (reqs i)).run c.world).1 ∧
      c'.world = (((c.stages i).remaining cfg t (reqs i)).run c.world).2 ∧
      ∀ j, j ≠ i → c'.stages j = c.stages j := by
  -- on how many steps the send is at most from its end
  induction h : (c.stages i).rank using Nat.strongRecOn generalizing c issues with
  | ind m ih =>
    rcases (c.stages i).done_or_rank_pos with ⟨r, hfinished⟩ | hgoing
    · exact ⟨issues, c, hrun, by rw [hfinished]; rfl, by rw [hfinished]; rfl, fun _ _ => rfl⟩
    have hfree : (c.stages i).waitsForLock = true → c.LockFree := by
      intro hwaits j
      by_cases hj : j = i
      · subst hj
        revert hwaits
        cases c.stages j <;> simp [Stage.waitsForLock, Stage.holdsLock]
      · exact hothers j hj
    rcases hr : ((c.stages i).advance cfg t (reqs i)).run c.world with ⟨r, w'⟩
    have hnext : (c.step cfg t reqs i).1 = c.setStage i (Stage.outcome r).1 w' := by
      simp only [step, hr]
    have hcloser : (Stage.outcome r).1.rank < m := h ▸ (advance_moves _ hr).rank_lt hgoing
    obtain ⟨issues', c', hrun', hstage', hworld', hothers'⟩ :=
      ih _ hcloser (c.step cfg t reqs i).1 (issues ++ [(c.step cfg t reqs i).2])
        (hrun.step (.advance c i hfree))
        (fun j hj => by simpa [hnext, setStage, hj] using hothers j hj)
        (by simp [hnext, setStage])
    have hrest := @remaining_run ν cfg t (reqs i) (c.stages i) c.world
    rw [hr] at hrest
    refine ⟨issues', c', hrun', ?_, ?_, fun j hj => ?_⟩
    · simpa [hrest, hnext, setStage] using hstage'
    · simpa [hrest, hnext, setStage] using hworld'
    · simpa [hnext, setStage, hj] using hothers' j hj

/-- An authorized send stepped alone from the start, while the other sends wait to begin,
answers and leaves the world as the sequential send does. -/
theorem sendAuthorized_alone (cfg : HttpSettings) (t : Http.Transport ν)
    (reqs : Fin n → Http.Request) (w : World (Link ν)) (i : Fin n) :
    ∃ issues c, Run cfg t reqs (start w) issues c ∧
      c.stages i = .done ((sendAuthorized cfg t (reqs i)).run w).1 ∧
      c.world = ((sendAuthorized cfg t (reqs i)).run w).2 ∧
      ∀ j, j ≠ i → c.stages j = .ready :=
  alone_finishes i (start w) [] .nil (fun _ _ => rfl)

end Contention

end Signon.HttpGateway
