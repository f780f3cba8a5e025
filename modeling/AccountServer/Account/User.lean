import AccountServer.Account.Role
import AccountServer.Time.Reader
import AccountServer.Uuid

/-!
# Users

A `User` is the full record that stores keep. `User.summary` is what clients get to see of it: all
but the password hash, and optional values only if they are there.
-/

namespace AccountServer

/-- The record of an account. -/
structure User where
  id : Uuid
  username : String
  /-- In the PHC format; never empty in a store. -/
  passwordHash : String
  email : Option String
  role : Role
  created : Instant
  modified : Instant
  lastLogin : Option Instant
  lastLogout : Option Instant
  deriving DecidableEq

namespace User

/-- A record to hand to a store, which assigns the ID and both times. -/
def draft (username passwordHash : String) (role : Role) (email : Option String := none)
    (stamp : Instant := default) : User where
  id := .nil
  username := username
  passwordHash := passwordHash
  email := email
  role := role
  created := stamp
  modified := stamp
  lastLogin := none
  lastLogout := none

def isAdmin (u : User) : Bool := u.role == .admin

end User

/-! ## JSON forms -/

namespace Uuid

def toJson (id : Uuid) : Json := .string id.toText

def decode : Json.Decoder Uuid := Json.decodeText parse?

end Uuid

namespace Instant

def toJson (t : Instant) : Json := .string t.toText

def decode : Json.Decoder Instant := Json.decodeText parse?

end Instant

/-- What clients see of a user. -/
structure UserSummary where
  id : Uuid
  username : String
  email : Option String
  role : Role
  created : Instant
  modified : Instant
  lastLogin : Option Instant
  lastLogout : Option Instant
  deriving DecidableEq

/-- The part of a record that may leave the server. -/
def User.summary (u : User) : UserSummary where
  id := u.id
  username := u.username
  email := u.email
  role := u.role
  created := u.created
  modified := u.modified
  lastLogin := u.lastLogin
  lastLogout := u.lastLogout

/-- A member for a value that is there. -/
def Json.present {α : Type} (name : String) (toJson : α → Json) : Option α → List (String × Json)
  | some a => [(name, toJson a)]
  | none => []

namespace UserSummary

/-- Absent values are left out. -/
def toJson (u : UserSummary) : Json :=
  .object ([("id", u.id.toJson), ("username", .string u.username)] ++
    Json.present "email" .string u.email ++
    [("role", u.role.toJson), ("created", u.created.toJson), ("modified", u.modified.toJson)] ++
    Json.present "last_login" Instant.toJson u.lastLogin ++
    Json.present "last_logout" Instant.toJson u.lastLogout)

open Json in
def decode : Json.Decoder UserSummary :=
  Fields.decode
    (UserSummary.mk <$> .required "id" Uuid.decode
      <*> .required "username" decodeString
      <*> .optional "email" decodeString
      <*> .required "role" Role.decode
      <*> .required "created" Instant.decode
      <*> .required "modified" Instant.decode
      <*> .optional "last_login" Instant.decode
      <*> .optional "last_logout" Instant.decode)

end UserSummary

end AccountServer
