import Signon.Session.Credentials
import Signon.Account.User
import Signon.Json.Stream
import Signon.Json.Tree

/-!
The bodies the server answers with. Keys are in camel case and unknown keys are ignored.
-/

namespace Signon

/-- A user as the server sends it. -/
structure UserBody where
  id : Int
  username : String
  email : String
  role : Option String
  roles : List String
  emailVerified : Bool
  twoFactorEnabled : Bool
  deriving DecidableEq

namespace UserBody

/-- The shape of a user body: identifier, name and address required, the rest optional. -/
def shape {κ : Type} : Json.Shape κ :=
  .record "struct UserResponse"
    [(⟨"id", [], .required⟩, .int64),
     (⟨"username", [], .required⟩, .text),
     (⟨"email", [], .required⟩, .text),
     (⟨"role", [], .fill .none⟩, .option .text),
     (⟨"roles", [], .fill (.list [])⟩, .list .text),
     (⟨"emailVerified", [], .fill (.bool false)⟩, .bool),
     (⟨"twoFactorAuthEnabled", ["twoFactorEnabled"], .fill (.bool false)⟩, .bool)]

/-- The user body of a datum decoded by `shape`. -/
def ofDatum {κ : Type} : Json.Datum κ → Option UserBody
  | .record [i, u, e, r, rs, v, t] => do
    pure ⟨← i.int?, ← u.text?, ← e.text?, ← r.optional? Json.Datum.text?,
      ← rs.items? Json.Datum.text?, ← v.bool?, ← t.bool?⟩
  | _ => none

def ofJson (j : Json) : Except Json.Error UserBody := Json.decodeValueAs (shape : Json.Shape Unit) ofDatum j

def ofBytes (bs : List UInt8) : Except Json.Error UserBody :=
  Json.decodeBytesAs (shape : Json.Shape Unit) ofDatum bs

/-- The user: the single role first, then the list, each code read leniently, unknown codes
dropped. -/
def toUser (b : UserBody) : User :=
  { id := ⟨b.id⟩, username := ⟨b.username⟩, email := ⟨b.email⟩,
    roles := RoleSet.ofList ((b.role.toList ++ b.roles).filterMap Role.ofCode?),
    emailVerified := b.emailVerified, twoFactorEnabled := b.twoFactorEnabled }

end UserBody

/-- The server's answer to a sign-in, a registration, a verification or a refresh. -/
structure AuthBody where
  accessToken : Option String
  refreshToken : Option String
  user : Option UserBody
  message : Option String
  deriving DecidableEq

namespace AuthBody

/-- The shape of an answer: every member optional. -/
def shape {κ : Type} : Json.Shape κ :=
  .record "struct AuthResponse"
    [(⟨"accessToken", ["token"], .fill .none⟩, .option .text),
     (⟨"refreshToken", [], .fill .none⟩, .option .text),
     (⟨"user", [], .fill .none⟩, .option UserBody.shape),
     (⟨"message", [], .fill .none⟩, .option .text)]

/-- The answer of a datum decoded by `shape`. -/
def ofDatum {κ : Type} : Json.Datum κ → Option AuthBody
  | .record [a, r, u, m] => do
    pure ⟨← a.optional? Json.Datum.text?, ← r.optional? Json.Datum.text?,
      ← u.optional? UserBody.ofDatum, ← m.optional? Json.Datum.text?⟩
  | _ => none

def ofJson (j : Json) : Except Json.Error AuthBody := Json.decodeValueAs (shape : Json.Shape Unit) ofDatum j

def ofBytes (bs : List UInt8) : Except Json.Error AuthBody :=
  Json.decodeBytesAs (shape : Json.Shape Unit) ofDatum bs

def empty : AuthBody := ⟨none, none, none, none⟩

def usable (t : Option String) : Option String :=
  t.bind fun s => if Text.isBlankText s then none else some (Text.trim s)

def bearerCredentials (b : AuthBody) : Option Credentials :=
  (usable b.accessToken).map fun a => .bearer ⟨a⟩ ((usable b.refreshToken).map RefreshToken.mk)

end AuthBody

/-- An error body. -/
structure ErrorBody where
  message : Option String
  error : Option String
  errors : List Json
  deriving BEq

namespace ErrorBody

/-- The shape of an error body: every member optional. -/
def shape {κ : Type} : Json.Shape κ :=
  .record "struct ErrorBody"
    [(⟨"message", [], .fill .none⟩, .option .text),
     (⟨"error", [], .fill .none⟩, .option .text),
     (⟨"errors", [], .fill (.list [])⟩, .list .json)]

/-- The error body of a datum decoded by `shape`. -/
def ofDatum {κ : Type} : Json.Datum κ → Option ErrorBody
  | .record [m, e, es] => do
    pure ⟨← m.optional? Json.Datum.text?, ← e.optional? Json.Datum.text?,
      ← es.items? Json.Datum.json?⟩
  | _ => none

def ofJson (j : Json) : Except Json.Error ErrorBody := Json.decodeValueAs (shape : Json.Shape Unit) ofDatum j

def ofBytes (bs : List UInt8) : Except Json.Error ErrorBody :=
  Json.decodeBytesAs (shape : Json.Shape Unit) ofDatum bs

def nonBlank (s : String) : Option String := if Text.isBlankText s then none else some s

/-- The message of an entry of `errors`: a text, or an object's `message`, else its
`defaultMessage`, whichever is first a string. -/
def entryMessage : Json → Option String
  | .str s => nonBlank s
  | j@(.obj _) =>
    match (j.field? "message").bind Json.text? with
    | some s => nonBlank s
    | none => ((j.field? "defaultMessage").bind Json.text?).bind nonBlank
  | _ => none

def toMessage (b : ErrorBody) : Option String :=
  (b.message.bind nonBlank).orElse fun _ =>
    (b.error.bind nonBlank).orElse fun _ => b.errors.findSome? entryMessage

end ErrorBody

/-- An answer that carries only a message. -/
structure MessageBody where
  message : Option String
  deriving DecidableEq

namespace MessageBody

def shape {κ : Type} : Json.Shape κ :=
  .record "struct MessageResponse" [(⟨"message", [], .fill .none⟩, .option .text)]

def ofDatum {κ : Type} : Json.Datum κ → Option MessageBody
  | .record [m] => do pure ⟨← m.optional? Json.Datum.text?⟩
  | _ => none

def ofBytes (bs : List UInt8) : Except Json.Error MessageBody :=
  Json.decodeBytesAs (shape : Json.Shape Unit) ofDatum bs

def empty : MessageBody := ⟨none⟩

end MessageBody

end Signon
