import Signon.Account.Role
import Signon.Account.UserId
import Signon.Account.Username
import Signon.Account.Email
import Signon.Json.Tree
import Signon.Text.Escape

/-!
The signed-in user as the server reports it: an identifier, a name, an address, the roles granted
and two account flags. Name and address are kept as the server sent them, unchecked.
-/

namespace Signon

def Role.shape {κ : Type} : Json.Shape κ := .cases (Role.all.map Role.code)

def Role.ofDatum? {κ : Type} (d : Json.Datum κ) : Option Role := do
  Role.all[← d.case?]?

def Role.ofJson (j : Json) : Except Json.Error Role :=
  Json.decodeValueAs (Role.shape : Json.Shape Unit) Role.ofDatum? j

/-- A set of roles. -/
structure RoleSet where
  employee : Bool
  admin : Bool
  deriving DecidableEq, Repr

namespace RoleSet

def empty : RoleSet := ⟨false, false⟩

def contains (s : RoleSet) : Role → Bool
  | .employee => s.employee
  | .admin => s.admin

def insert (s : RoleSet) : Role → RoleSet
  | .employee => { s with employee := true }
  | .admin => { s with admin := true }

def ofList (rs : List Role) : RoleSet := rs.foldl insert empty

def toList (s : RoleSet) : List Role := Role.all.filter s.contains

def primary? (s : RoleSet) : Option Role := s.toList.getLast?

def debug (s : RoleSet) : String :=
  "\x7b" ++ ", ".intercalate (s.toList.map Role.debugName) ++ "\x7d"

end RoleSet

/-- A user as the server reports it. -/
structure User where
  id : UserId
  username : Username
  email : Email
  roles : RoleSet
  emailVerified : Bool
  twoFactorEnabled : Bool
  deriving DecidableEq

namespace User

def primaryRole (u : User) : Option Role := u.roles.primary?

def hasRole (u : User) (r : Role) : Bool := u.roles.contains r

/-- The shape of the stored form: every field required, roles by their exact codes. -/
def shape {κ : Type} : Json.Shape κ :=
  .record "struct User"
    [(⟨"id", [], .required⟩, .int64),
     (⟨"username", [], .required⟩, .text),
     (⟨"email", [], .required⟩, .text),
     (⟨"roles", [], .required⟩, .list Role.shape),
     (⟨"emailVerified", [], .required⟩, .bool),
     (⟨"twoFactorEnabled", [], .required⟩, .bool)]

/-- The user of a datum decoded by `shape`. -/
def ofDatum {κ : Type} : Json.Datum κ → Option User
  | .record [i, u, e, r, v, t] => do
    pure ⟨⟨← i.int?⟩, ⟨← u.text?⟩, ⟨← e.text?⟩, RoleSet.ofList (← r.items? Role.ofDatum?),
      ← v.bool?, ← t.bool?⟩
  | _ => none

/-- The stored form, its keys in this order. -/
def toJson (u : User) : Json :=
  .obj [("id", Json.ofInt u.id.value), ("username", .str u.username.text),
    ("email", .str u.email.text), ("roles", .arr (u.roles.toList.map fun r => .str r.code)),
    ("emailVerified", .bool u.emailVerified), ("twoFactorEnabled", .bool u.twoFactorEnabled)]

/-- The user in diagnostics. -/
def debug (u : User) : String :=
  "User \x7b id: " ++ u.id.debug ++ ", username: Username(" ++ Text.quoteText u.username.text ++
    "), email: Email(" ++ Text.quoteText u.email.text ++ "), roles: " ++ u.roles.debug ++
    ", email_verified: " ++ toString u.emailVerified ++ ", two_factor_enabled: " ++
    toString u.twoFactorEnabled ++ " \x7d"

end User

end Signon
