import AccountServer.Account.User
import AccountServer.Number.Word

/-!
# Claims

What a token says about its bearer. The times are seconds since 1970.
-/

namespace AccountServer

open Json

/-- The claims of a token. -/
structure Claims where
  subject : Uuid
  username : String
  role : Role
  issuer : String
  issuedAt : Int
  expires : Int
  deriving DecidableEq, Repr

namespace Claims

/-- The members in the order in which a token has them. -/
def toJson (c : Claims) : Json :=
  .object [("sub", c.subject.toJson), ("username", .string c.username), ("role", c.role.toJson),
    ("iss", .string c.issuer), ("iat", .int c.issuedAt), ("exp", .int c.expires)]

/-- The range of the times. -/
def minTime : Int := Word.minInt64

def maxTime : Int := Word.maxInt64

def decode : Decoder Claims :=
  Fields.decode
    (Claims.mk <$> .required "sub" Uuid.decode
      <*> .required "username" decodeString
      <*> .required "role" Role.decode
      <*> .required "iss" decodeString
      <*> .required "iat" (decodeInt minTime maxTime)
      <*> .required "exp" (decodeInt minTime maxTime))

end Claims

end AccountServer
