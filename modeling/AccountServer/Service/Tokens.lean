import AccountServer.Service.Accounts
import AccountServer.Token.Codec
import AccountServer.Token.Settings

/-!
# The token service

Issues tokens and finds the user whom a token stands for. What a token says about its user is not
believed: the answer is the record that the store has now.
-/

namespace AccountServer

/-- Issuing and checking of tokens, given the settings and the function that signs. -/
structure Tokens where
  settings : TokenSettings
  mac : Token.Mac := Crypto.Sha256.hmac

namespace Tokens

/-- Issues a token that is signed with any secret. -/
def issueWith (mac : Token.Mac) (secret : List UInt8) (lifetime : Nat) (u : User) :
    Action String := do
  let now ← Plan.clock
  .ofExcept (Token.generate mac secret u lifetime now.seconds)

/-- Finds the user of a token that is signed with any secret. -/
def checkWith (mac : Token.Mac) (secret : List UInt8) (token : String) : Action User := do
  let fault {α : Type} (r : Except TokenFault α) : Action α :=
    .ofExcept (r.mapError .invalidToken)
  let claims ← fault (Token.unverified token)
  match ← Plan.call (.get claims.subject) with
  | .error _ => throw (.invalidToken .unknownSubject)
  | .ok user =>
    let now ← Plan.clock
    let _ ← fault (Token.verify mac (Token.signingKey secret user) now.seconds token)
    return user

/-- Issues a token for a user. -/
def issue (t : Tokens) (u : User) : Action String :=
  issueWith t.mac t.settings.secret t.settings.lifetime u

/-- Finds the user of a token. -/
def authenticate (t : Tokens) (token : String) : Action User :=
  checkWith t.mac t.settings.secret token

end Tokens

end AccountServer
