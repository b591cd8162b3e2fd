import Signon.Gateway.Http

/-!
Authorized sends running side by side on one HTTP gateway.
-/

namespace Signon.HttpGateway

variable {ν : Type}

/-- Where an authorized send stands, between two of its await points. -/
inductive Stage where
  /-- Not started. -/
  | ready
  /-- The first try is in flight with the authorization `auth`, made from the credentials `held`
  read at generation `seen`. -/
  | sent (held : Option Credentials) (seen : Nat) (auth : Option Http.HeaderValue)
  /-- Refused with 401 on credentials read at generation `seen`; waiting for the refresh lock. -/
  | waiting (seen : Nat)
  /-- Holding the refresh lock, for a send that read generation `seen`: the refresh `rq` of the
  credentials `current` is in flight with the authorization `auth`. -/
  | refreshing (seen : Nat) (current : Credentials) (rq : Http.Request)
      (auth : Option Http.HeaderValue)
  /-- The second try is in flight with the authorization `auth`. -/
  | retrying (auth : Option Http.HeaderValue)
  /-- Finished with this answer. -/
  | done (r : Except Failure Http.Response)

namespace Stage

def holdsLock : Stage → Bool
  | .refreshing .. => true
  | _ => false

def waitsForLock : Stage → Bool
  | .waiting _ => true
  | _ => false

end Stage

/-- What a step puts on the wire. -/
inductive Issue where
  /-- Nothing. -/
  | quiet
  /-- A try of the send's own request. -/
  | request (rq : Http.Request)
  /-- A refresh request, for a send that read generation `seen`. -/
  | refresh (seen : Nat) (rq : Http.Request)

/-- The generations the refresh requests of a run were issued for, in order. -/
def refreshSeens (issues : List Issue) : List Nat :=
  issues.filterMap fun
    | .refresh seen _ => some seen
    | _ => none

/-- The refresh request of the credentials `current`, and the authorization it carries. -/
def refreshRequest (cfg : HttpSettings) (current : Credentials) :
    Op (Link ν) (Http.Request × Option Http.HeaderValue) := do
  let auth ← refreshAuthorization cfg current
  let rq ← prepare cfg .post cfg.endpoints.refresh none
  pure (rq, auth)

/-- Exchanges the refresh request `rq` of `current`, and reads what its answer grants. -/
def refreshExchange (cfg : HttpSettings) (t : Http.Transport ν) (current : Credentials)
    (rq : Http.Request) (auth : Option Http.HeaderValue) :
    Op (Link ν) (Credentials × Option User) := do
  let resp ← checkStatus (← dispatch t rq auth)
  Op.lift (refreshGrant cfg current resp)

/-- Issues the second try of `req` with the credentials `c`. -/
def retryWith (cfg : HttpSettings) (req : Http.Request) (c : Credentials) :
    Op (Link ν) (Stage × Issue) := do
  Op.note .debug "auth::infra::http" "Retrying request"
  let auth ← authorization cfg (some c)
  pure (.retrying auth, .request { req with authorization := auth })

/-- The part of an authorized send of `req` from one await point to the next. -/
def Stage.advance (cfg : HttpSettings) (t : Http.Transport ν) (req : Http.Request) :
    Stage → Op (Link ν) (Stage × Issue)
  | .ready => do
    let (held, seen) := (← Op.state).credentialsWithGeneration
    let auth ← authorization cfg held
    pure (.sent held seen auth, .request { req with authorization := auth })
  | .sent held seen auth => do
    let resp ← dispatch t req auth
    if resp.status != 401 || held.isNone then
      let r ← accept cfg resp
      pure (.done (.ok r), .quiet)
    else
      Op.note .info "auth::infra::http" "Request rejected with 401, refreshing session"
      pure (.waiting seen, .quiet)
  | .waiting seen => do
    let st ← Op.state
    if st.generation != seen then
      match st.credentials with
      | some c =>
        Op.note .debug "auth::infra::http" "Session already refreshed by a concurrent request"
        retryWith cfg req c
      | none => throw .sessionExpired
    else
      match st.credentials with
      | none => throw .notAuthenticated
      | some current =>
        match ← Op.attempt (refreshRequest cfg current) with
        | .error _ => throw (← expireSession cfg)
        | .ok (rq, auth) =>
          pure (.refreshing seen current rq auth, .refresh seen { rq with authorization := auth })
  | .refreshing _ current rq auth => do
    match ← Op.attempt (refreshExchange cfg t current rq auth) with
    | .error _ => throw (← expireSession cfg)
    | .ok (c, u) =>
      Op.modifyState (·.replaceCredentials c u)
      let s := (← Op.state).session
      Op.tolerate (Op.persist s)
      Op.note .info "auth::infra::http" "Session refreshed"
      match s.credentials with
      | some c => retryWith cfg req c
      | none => throw .sessionExpired
  | .retrying auth => do
    let r ← accept cfg (← dispatch t req auth)
    pure (.done (.ok r), .quiet)
  | .done r => pure (.done r, .quiet)

def Stage.outcome : Except Failure (Stage × Issue) → Stage × Issue
  | .ok p => p
  | .error f => (.done (.error f), .quiet)

/-- Authorized sends sharing one world: where each of them stands. -/
structure Contention (n : Nat) (ν : Type) where
  world : World (Link ν)
  stages : Fin n → Stage

namespace Contention

variable {n : Nat}

def start (w : World (Link ν)) : Contention n ν := ⟨w, fun _ => .ready⟩

def setStage (c : Contention n ν) (i : Fin n) (s : Stage) (w : World (Link ν)) :
    Contention n ν :=
  ⟨w, fun j => if j = i then s else c.stages j⟩

/-- Send `i`, sending `reqs i`, advances to its next await point. -/
def step (cfg : HttpSettings) (t : Http.Transport ν) (reqs : Fin n → Http.Request)
    (c : Contention n ν) (i : Fin n) : Contention n ν × Issue :=
  let (r, w) := ((c.stages i).advance cfg t (reqs i)).run c.world
  (c.setStage i (Stage.outcome r).1 w, (Stage.outcome r).2)

def LockFree (c : Contention n ν) : Prop := ∀ j, (c.stages j).holdsLock = false

/-- The steps the scheduler may take: send `i` advances, and takes the refresh lock only while
no send holds it. -/
inductive Step (cfg : HttpSettings) (t : Http.Transport ν) (reqs : Fin n → Http.Request) :
    Contention n ν → Fin n → Issue → Contention n ν → Prop
  | advance (c : Contention n ν) (i : Fin n)
      (free : (c.stages i).waitsForLock = true → c.LockFree) :
      Step cfg t reqs c i (c.step cfg t reqs i).2 (c.step cfg t reqs i).1

/-- The runs of the sends from `c₀`, with what they issued, in order. -/
inductive Run (cfg : HttpSettings) (t : Http.Transport ν) (reqs : Fin n → Http.Request)
    (c₀ : Contention n ν) : List Issue → Contention n ν → Prop
  | nil : Run cfg t reqs c₀ [] c₀
  | step {issues : List Issue} {c c' : Contention n ν} {i : Fin n} {e : Issue} :
      Run cfg t reqs c₀ issues c → Step cfg t reqs c i e c' → Run cfg t reqs c₀ (issues ++ [e]) c'

end Contention

end Signon.HttpGateway
