import Signon.Session.Basic
import Signon.Time.Rfc3339
import Signon.Json.Stream
import Signon.Failure

/-!
The stored form of a session: the credentials as plain text, the user if known, and when it was
saved. Credentials are an object tagged by `mode`, `bearer` with `access_token` and an optional
`refresh_token`, or `cookie` with `name` and `value`; the time is RFC 3339 text.
-/

namespace Signon

/-- Credentials as stored. -/
inductive StoredToken where
  | bearer (accessToken : String) (refreshToken : Option String)
  | cookie (name value : String)
  deriving DecidableEq

/-- A session as stored. -/
structure StoredCredentials where
  token : StoredToken
  user : Option User
  savedAt : Time.Instant
  deriving DecidableEq

namespace StoredToken

/-- The shape of stored credentials: a family tagged by `mode`. -/
def shape {κ : Type} : Json.Shape κ :=
  .tagged "StoredToken" "mode"
    [(⟨"bearer", "Bearer"⟩,
      [(⟨"access_token", [], .required⟩, .text), (⟨"refresh_token", [], .fill .none⟩, .option .text)]),
     (⟨"cookie", "Cookie"⟩,
      [(⟨"name", [], .required⟩, .text), (⟨"value", [], .required⟩, .text)])]

/-- The stored credentials of a datum decoded by `shape`. -/
def ofDatum {κ : Type} : Json.Datum κ → Option StoredToken
  | .variant 0 [a, r] => do pure (.bearer (← a.text?) (← r.optional? Json.Datum.text?))
  | .variant 1 [n, v] => do pure (.cookie (← n.text?) (← v.text?))
  | _ => none

/-- The stored form, an absent refresh token left out. -/
def toJson : StoredToken → Json
  | .bearer a r =>
    .obj ([("mode", .str "bearer"), ("access_token", .str a)] ++
      match r with
      | some t => [("refresh_token", .str t)]
      | none => [])
  | .cookie n v => .obj [("mode", .str "cookie"), ("name", .str n), ("value", .str v)]

/-- The stored credentials in diagnostics, secrets hidden. -/
def debug : StoredToken → String
  | .bearer _ r =>
    "Bearer \x7b access_token: \"[REDACTED]\", refresh_token: " ++
      (match r with
       | some _ => "Some(\"[REDACTED]\")"
       | none => "None") ++ " \x7d"
  | .cookie n _ => "Cookie \x7b name: " ++ Text.quoteText n ++ ", value: \"[REDACTED]\" \x7d"

def ofCredentials : Credentials → StoredToken
  | .bearer access refresh => .bearer access.text (refresh.map RefreshToken.text)
  | .cookie n v => .cookie n v

end StoredToken

namespace StoredCredentials

def timeExpected : String := "an RFC 3339 formatted date and time string"

/-- The shape of a stored session. -/
def shape : Json.Shape Time.Instant :=
  .record "struct StoredCredentials"
    [(⟨"token", [], .required⟩, StoredToken.shape),
     (⟨"user", [], .fill .none⟩, .option User.shape),
     (⟨"savedAt", [], .required⟩,
      .checked timeExpected fun s => (Time.parseInstant s).mapError Time.ParseError.message)]

/-- The stored session of a datum decoded by `shape`. -/
def ofDatum : Json.Datum Time.Instant → Option StoredCredentials
  | .record [t, u, s] => do
    pure ⟨← StoredToken.ofDatum t, ← u.optional? User.ofDatum, ← s.leaf?⟩
  | _ => none

def ofJson (j : Json) : Except Json.Error StoredCredentials :=
  Json.decodeValueAs shape ofDatum j

def ofText (s : String) : Except Json.Error StoredCredentials :=
  Json.decodeStringAs shape ofDatum s

def ofBytes (bs : List UInt8) : Except Json.Error StoredCredentials :=
  Json.decodeBytesAs shape ofDatum bs

/-- The stored form: credentials, the user when known, and the time in UTC. -/
def toJson (c : StoredCredentials) : Json :=
  .obj ([("token", c.token.toJson)] ++
    (match c.user with
     | some u => [("user", u.toJson)]
     | none => []) ++
    [("savedAt", .str c.savedAt.render)])

/-- The stored session in diagnostics, secrets hidden. -/
def debug (c : StoredCredentials) : String :=
  "StoredCredentials \x7b token: " ++ c.token.debug ++ ", user: " ++
    (match c.user with
     | some u => "Some(" ++ u.debug ++ ")"
     | none => "None") ++ ", saved_at: " ++ c.savedAt.render ++ " \x7d"

def ofSession (s : Session) (now : Time.Instant) : Option StoredCredentials :=
  s.credentials.map fun c => ⟨StoredToken.ofCredentials c, s.user, now⟩

def corrupt (r : Report) : Failure := .storage ("Stored credentials are invalid: " ++ r.message)

/-- The session a stored one restores, its tokens checked again. -/
def toSession (c : StoredCredentials) : Except Failure Session :=
  match c.token with
  | .bearer a r => do
    let access ← (AccessToken.make a).mapError corrupt
    let refresh ← match r with
      | some t => (RefreshToken.make t).map some |>.mapError corrupt
      | none => pure none
    pure (.signedIn (.bearer access refresh) c.user)
  | .cookie n v => pure (.signedIn (.cookie n v) c.user)

end StoredCredentials

end Signon
