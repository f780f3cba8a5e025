import AccountServer.Account.User

/-!
# What clients send about accounts

The bodies of the requests on accounts and the answer to a login.
-/

namespace AccountServer

open Json

/-- A username with its password. -/
structure LoginCredentials where
  username : String
  password : String
  deriving DecidableEq, Repr

namespace LoginCredentials

def toJson (c : LoginCredentials) : Json :=
  .object [("username", .string c.username), ("password", .string c.password)]

def decode : Decoder LoginCredentials :=
  Fields.decode
    (LoginCredentials.mk <$> .required "username" decodeString
      <*> .required "password" decodeString)

end LoginCredentials

/-- A user to be registered. -/
structure NewUser where
  username : String
  password : String
  email : Option String
  role : Option Role
  deriving DecidableEq, Repr

namespace NewUser

def toJson (u : NewUser) : Json :=
  .object [("username", .string u.username), ("password", .string u.password),
    ("email", .ofOption .string u.email), ("role", .ofOption Role.toJson u.role)]

def decode : Decoder NewUser :=
  Fields.decode
    (NewUser.mk <$> .required "username" decodeString
      <*> .required "password" decodeString
      <*> .withDefault "email" (decodeOption decodeString) none
      <*> .withDefault "role" (decodeOption Role.decode) none)

end NewUser

/-- A change to the identity of a user. What is absent stays as it is, and an empty email takes
the email away. -/
structure UserChange where
  id : Option String
  username : String
  email : Option String
  role : Option Role
  deriving DecidableEq, Repr

namespace UserChange

def toJson (u : UserChange) : Json :=
  .object [("id", .ofOption .string u.id), ("username", .string u.username),
    ("email", .ofOption .string u.email), ("role", .ofOption Role.toJson u.role)]

def decode : Decoder UserChange :=
  Fields.decode
    (UserChange.mk <$> .withDefault "id" (decodeOption decodeString) none
      <*> .required "username" decodeString
      <*> .withDefault "email" (decodeOption decodeString) none
      <*> .withDefault "role" (decodeOption Role.decode) none)

end UserChange

/-- A new password. -/
structure PasswordChange where
  password : String
  deriving DecidableEq, Repr

namespace PasswordChange

def toJson (p : PasswordChange) : Json := .object [("password", .string p.password)]

def decode : Decoder PasswordChange :=
  Fields.decode (PasswordChange.mk <$> .required "password" decodeString)

end PasswordChange

/-- A token and whom it was issued to. -/
structure IssuedToken where
  userId : Uuid
  token : String
  deriving DecidableEq, Repr

namespace IssuedToken

def toJson (t : IssuedToken) : Json :=
  .object [("user_id", t.userId.toJson), ("token", .string t.token)]

def decode : Decoder IssuedToken :=
  Fields.decode
    (IssuedToken.mk <$> .required "user_id" Uuid.decode <*> .required "token" decodeString)

end IssuedToken

end AccountServer
