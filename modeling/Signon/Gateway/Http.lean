import Signon.Api.Requests
import Signon.Api.Responses
import Signon.Http.Exchange
import Signon.Http.Client
import Signon.Config

/-!
The gateway that talks to the server over HTTP, through any transport.
-/

namespace Signon

/-- What the HTTP gateway knows of its server. -/
structure HttpSettings where
  base : Url
  endpoints : Endpoints
  mode : SessionMode
  cookieName : String

def HttpSettings.ofConfig (c : Config) : Except Failure HttpSettings := do
  let base ← (Http.parseBaseUrl c.apiBaseUrl).mapError .setup
  pure ⟨base, c.endpoints, c.sessionMode, c.sessionCookieName⟩

/-- The HTTP gateway's own state: its client's cookie jar, kept in cookie mode only, and the
state of the network. -/
structure Link (ν : Type) where
  jar : Option Http.Jar
  net : ν

def Link.start {ν : Type} (mode : SessionMode) (net : ν) : Link ν :=
  ⟨if mode = .cookie then some Http.Jar.empty else none, net⟩

namespace HttpGateway

variable {ν : Type}

/-- Resolves an endpoint and encodes a body: a request ready to send but for its authorization. -/
def prepare (cfg : HttpSettings) (method : Http.Method) (path : String) (body : Option Json) :
    Op (Link ν) Http.Request :=
  match Http.endpointUrl cfg.base path with
  | .ok url => do
    Op.note .trace "platform::client" "Resolved endpoint URL"
    pure ⟨method, url, body.map fun b => Text.Utf8.ofString b.render, none⟩
  | .error e => throw (.setup e)

/-- Whether a `Cookie` value names a cookie. -/
def namesCookie (header : Option String) (name : String) : Bool :=
  match header with
  | some h => (Text.pieces ';' h.toList).any fun pair =>
    match Text.splitFirst? '=' (Text.trim (String.ofList pair)).toList with
    | some (n, _) => String.ofList n == name
    | none => false
  | none => false

/-- Puts the session cookie into the jar unless one of its name is there already, as after a
restore; a cookie the server rotated since is left alone. -/
def seedCookie (cfg : HttpSettings) (name value : String) : Op (Link ν) Unit := do
  let l ← Op.gateway
  match l.jar with
  | none => pure ()
  | some jar =>
    let sent := (jar.header? cfg.base).bind fun h =>
      (Http.HeaderValue.ofBytes? (Text.Utf8.ofString h)).bind Http.HeaderValue.text?
    if !namesCookie sent name then
      let c : Http.SetCookie :=
        { name, value, path := some "/", httpOnly := true, secure := cfg.base.scheme == "https" }
      Op.setGateway { l with jar := some (jar.add c.header cfg.base) }
      Op.note .debug "auth::infra::http" "Session cookie seeded"

def sessionExpiry (cfg : HttpSettings) : Http.SetCookie :=
  { name := cfg.cookieName, value := "", path := some "/", maxAge := some 0, httpOnly := true }

/-- Removes the session cookie from the jar. -/
def expireCookie (cfg : HttpSettings) : Op (Link ν) Unit := do
  let l ← Op.gateway
  match l.jar with
  | none => pure ()
  | some jar => Op.setGateway { l with jar := some (jar.add (sessionExpiry cfg).header cfg.base) }

/-- The header that carries credentials; cookie credentials travel in the jar instead. -/
def authorization (cfg : HttpSettings) : Option Credentials → Op (Link ν) (Option Http.HeaderValue)
  | some (.bearer a _) =>
    match Http.HeaderValue.bearer a.text with
    | .ok v => pure (some v)
    | .error e => throw (.setup e)
  | some (.cookie name value) => do
    seedCookie cfg name value
    pure none
  | none => pure none

/-- Sends a request through the transport. -/
def dispatch (t : Http.Transport ν) (req : Http.Request) (auth : Option Http.HeaderValue) :
    Op (Link ν) Http.Response := do
  Op.note .debug "auth::infra::http" "Sending request"
  let l ← Op.gateway
  let (r, jar, net) := t.exchange { req with authorization := auth } l.jar l.net
  Op.setGateway ⟨jar, net⟩
  match r with
  | .ok resp => do
    Op.note .debug "auth::infra::http" "Received response"
    pure resp
  | .error e => throw (.transport e)

/-- The failure of a refused status: the most specific message of the body, else the reason
phrase, else `Request failed`. -/
def refusal (status : Nat) (body : List UInt8) : Failure :=
  let message := ((ErrorBody.ofBytes body).toOption.bind ErrorBody.toMessage).getD
    ((Http.reasonPhrase? status).getD "Request failed")
  .api status message

def ensureSuccess (r : Http.Response) : Except Failure Http.Response :=
  if Http.isSuccess r.status then .ok r else .error (refusal r.status (r.body.toOption.getD []))

/-- Passes a response with a success status, noting a refusal. -/
def checkStatus (r : Http.Response) : Op (Link ν) Http.Response :=
  match ensureSuccess r with
  | .ok r => pure r
  | .error f => do
    Op.noteFailure f
    throw f

/-- Decodes a body; a decoding failure is the server's fault. -/
def decode {α : Type} (read : List UInt8 → Except Json.Error α) (r : Http.Response) :
    Except Failure α := do
  let bytes ← r.body.mapError .transport
  (read bytes).mapError fun e => Failure.ofReport (Report.ofJson e)

def isBlankByte (b : UInt8) : Bool := b == 32 || b == 9 || b == 10 || b == 12 || b == 13

/-- Decodes a body, a body of blanks standing for `empty`. -/
def decodeOrEmpty {α : Type} (read : List UInt8 → Except Json.Error α) (empty : α)
    (r : Http.Response) : Except Failure α := do
  let bytes ← r.body.mapError .transport
  if bytes.all isBlankByte then pure empty
  else (read bytes).mapError fun e => Failure.ofReport (Report.ofJson e)

def setCookie (cfg : HttpSettings) (r : Http.Response) : Option Http.SetCookie :=
  (Http.findSetCookie (r.values "set-cookie") cfg.cookieName).bind fun c =>
    if c.isRemoval then none else some c

/-- What a response grants: in cookie mode the session cookie it sets, else the bearer tokens of
its body; the user and message of its body. -/
def grantFrom (cfg : HttpSettings) (r : Http.Response) (body : AuthBody) : Grant :=
  let cookie := if cfg.mode = .cookie then
      (setCookie cfg r).map fun c => Credentials.cookie c.name c.value
    else none
  ⟨cookie.orElse fun _ => body.bearerCredentials, body.user.map UserBody.toUser, body.message⟩

/-- Follows a session cookie the server rotated on an authorized call: the new value replaces the
held one in the session, and the vault keeps it if it can. -/
def trackCookieRotation (cfg : HttpSettings) (r : Http.Response) : Op (Link ν) Unit := do
  if cfg.mode = .cookie then
    match setCookie cfg r with
    | none => pure ()
    | some c =>
      match (← Op.state).credentials with
      | some (.cookie _ v) =>
        if v != c.value then
          Op.note .debug "auth::infra::http" "Session cookie rotated by server"
          Op.modifyState (·.replaceCredentials (.cookie c.name c.value) none)
          Op.tolerate (Op.persist (← Op.state).session)
      | _ => pure ()

/-- Passes a successful answer to an authorized call, following a rotated cookie. -/
def accept (cfg : HttpSettings) (r : Http.Response) : Op (Link ν) Http.Response := do
  let r ← checkStatus r
  trackCookieRotation cfg r
  pure r

/-- Signs the session out after a failed refresh. -/
def expireSession (cfg : HttpSettings) : Op (Link ν) Failure := do
  Op.note .warn "auth::infra::http" "Token refresh failed, clearing session"
  Op.modifyState SessionState.clear
  expireCookie cfg
  Op.tolerate Op.clearVault
  pure .sessionExpired

/-- What a refresh presents: the refresh token as a bearer header, or the session cookie, which
travels in the jar. Bearer credentials without a refresh token cannot be refreshed. -/
def refreshAuthorization (cfg : HttpSettings) : Credentials → Op (Link ν) (Option Http.HeaderValue)
  | .bearer _ (some r) =>
    match Http.HeaderValue.bearer r.text with
    | .ok v => pure (some v)
    | .error e => throw (.setup e)
  | .bearer _ none => throw (.invalidInput "Session has no refresh token")
  | .cookie name value => do
    seedCookie cfg name value
    pure none

/-- What a successful answer to a refresh grants: fresh credentials merged into the held ones and
the user it names. A cookie session keeps its cookie when the answer has none; a bearer session
without a fresh access token fails. -/
def refreshGrant (cfg : HttpSettings) (current : Credentials) (resp : Http.Response) :
    Except Failure (Credentials × Option User) := do
  let body ← decodeOrEmpty AuthBody.ofBytes AuthBody.empty resp
  let grant := grantFrom cfg resp body
  match grant.credentials, current with
  | some fresh, _ => pure (current.mergeRefreshed fresh, grant.user)
  | none, .cookie .. => pure (current, grant.user)
  | none, .bearer .. => throw (.unexpectedResponse "Refresh response did not include an access token")

/-- Exchanges the held credentials for fresh ones. -/
def requestRefresh (cfg : HttpSettings) (t : Http.Transport ν) (current : Credentials) :
    Op (Link ν) (Credentials × Option User) := do
  let auth ← refreshAuthorization cfg current
  let req ← prepare cfg .post cfg.endpoints.refresh none
  let resp ← checkStatus (← dispatch t req auth)
  Op.lift (refreshGrant cfg current resp)

/-- Refreshes the held credentials and commits them; any failure signs the session out. -/
def refreshLocked (cfg : HttpSettings) (t : Http.Transport ν) : Op (Link ν) Session := do
  match (← Op.state).credentials with
  | none => throw .notAuthenticated
  | some current =>
    match ← Op.attempt (requestRefresh cfg t current) with
    | .error _ => throw (← expireSession cfg)
    | .ok (c, u) =>
      Op.modifyState (·.replaceCredentials c u)
      let s := (← Op.state).session
      Op.tolerate (Op.persist s)
      Op.note .info "auth::infra::http" "Session refreshed"
      pure s

/-- Refreshes for a call that read the credentials at generation `seen` and was refused; when the
generation has moved on, the credentials held now serve. -/
def refreshAfter (cfg : HttpSettings) (t : Http.Transport ν) (seen : Nat) :
    Op (Link ν) Credentials := do
  let st ← Op.state
  if st.generation != seen then
    match st.credentials with
    | some c =>
      Op.note .debug "auth::infra::http" "Session already refreshed by a concurrent request"
      pure c
    | none => throw .sessionExpired
  else
    match (← refreshLocked cfg t).credentials with
    | some c => pure c
    | none => throw .sessionExpired

/-- Sends a request with the held credentials, refreshing and sending it again once after a 401. -/
def sendAuthorized (cfg : HttpSettings) (t : Http.Transport ν) (req : Http.Request) :
    Op (Link ν) Http.Response := do
  let (held, seen) := (← Op.state).credentialsWithGeneration
  let auth ← authorization cfg held
  let resp ← dispatch t req auth
  if resp.status != 401 || held.isNone then accept cfg resp
  else
    Op.note .info "auth::infra::http" "Request rejected with 401, refreshing session"
    let fresh ← refreshAfter cfg t seen
    Op.note .debug "auth::infra::http" "Retrying request"
    let auth ← authorization cfg (some fresh)
    accept cfg (← dispatch t req auth)

/-- Sends a public request and passes a successful answer. -/
def sendPublic (cfg : HttpSettings) (t : Http.Transport ν) (path : String) (body : Json) :
    Op (Link ν) Http.Response := do
  let req ← prepare cfg .post path (some body)
  checkStatus (← dispatch t req none)

/-- A public call that may start a session. -/
def grantCall (cfg : HttpSettings) (t : Http.Transport ν) (path : String) (body : Json) :
    Op (Link ν) Grant := do
  let resp ← sendPublic cfg t path body
  pure (grantFrom cfg resp (← Op.lift (decodeOrEmpty AuthBody.ofBytes AuthBody.empty resp)))

/-- A public call that answers with a message. -/
def messageCall (cfg : HttpSettings) (t : Http.Transport ν) (path : String) (body : Json) :
    Op (Link ν) (Option String) := do
  let resp ← sendPublic cfg t path body
  pure (← Op.lift (decodeOrEmpty MessageBody.ofBytes MessageBody.empty resp)).message

/-- Ends the session the credentials belong to, without refreshing; the jar's session cookie
is expired whenever the request went out. -/
def logout (cfg : HttpSettings) (t : Http.Transport ν) (c : Credentials) : Op (Link ν) Unit := do
  let req ← prepare cfg .post cfg.endpoints.logout none
  let auth ← authorization cfg (some c)
  let r ← Op.attempt (do let _ ← checkStatus (← dispatch t req auth))
  expireCookie cfg
  Op.lift r

/-- The gateway over a transport. -/
def gateway (cfg : HttpSettings) (t : Http.Transport ν) : Gateway (Link ν) where
  login e p := grantCall cfg t cfg.endpoints.login (Api.loginBody e p)
  register r := grantCall cfg t cfg.endpoints.register (Api.registerBody r)
  verifyEmail e c := grantCall cfg t cfg.endpoints.verifyEmail (Api.verifyEmailBody e c)
  resendVerification e := messageCall cfg t cfg.endpoints.resendVerification (Api.emailBody e)
  forgotPassword e := messageCall cfg t cfg.endpoints.forgotPassword (Api.emailBody e)
  resetPassword r := messageCall cfg t cfg.endpoints.resetPassword (Api.resetPasswordBody r)
  logout c := logout cfg t c
  refresh := refreshLocked cfg t
  changePassword c p := do
    let req ← prepare cfg .post cfg.endpoints.changePassword (some (Api.changePasswordBody c p))
    let resp ← sendAuthorized cfg t req
    pure (← Op.lift (decodeOrEmpty MessageBody.ofBytes MessageBody.empty resp)).message
  fetchUser := do
    let req ← prepare cfg .get cfg.endpoints.profile none
    let resp ← sendAuthorized cfg t req
    pure (← Op.lift (decode UserBody.ofBytes resp)).toUser

end HttpGateway

end Signon
