import AccountServer.Account.Error
import AccountServer.Json.Decode
import AccountServer.Number.Word
import AccountServer.Text.Split

/-!
# Settings of tokens

`AuthSettings` is what the configuration says about accounts. `TokenSettings` is a secret of a
length that is good for signing, together with the lifetime of the tokens.
-/

namespace AccountServer

open Json

/-- A secret and a lifetime in seconds. -/
structure TokenSettings where
  secret : List UInt8
  lifetime : Nat
  deriving DecidableEq

namespace TokenSettings

def minSecret : Nat := 32

def maxSecret : Nat := 64

/-- A secret has 32 to 64 bytes. -/
def make (secret : List UInt8) (lifetime : Nat) : Except AccountError TokenSettings :=
  if minSecret ≤ secret.length && secret.length ≤ maxSecret then .ok ⟨secret, lifetime⟩
  else .error (.badArgument (.secretLength secret.length))

/-- How the lifetime is shown; no time at all is shown in the smallest unit. -/
def shownLifetime (s : TokenSettings) : String :=
  if s.lifetime = 0 then "0ns" else toString s.lifetime ++ "s"

/-- How the settings are shown, which is without the secret. -/
def shown (s : TokenSettings) : String :=
  "JwtConfig \x7b secret: \"<redacted>\", token_ttl: " ++ s.shownLifetime ++ " \x7d"

end TokenSettings

/-- What the configuration says about accounts. -/
structure AuthSettings where
  /-- The secret; one is made up at the start when there is none. -/
  secret : Option String := none
  /-- The lifetime of tokens in seconds. -/
  lifetime : Nat := 3600
  /-- `username:password` of an admin that has to exist. -/
  admin : Option String := none
  deriving DecidableEq, Repr

namespace AuthSettings

def decode : Decoder AuthSettings :=
  Fields.decode
    (AuthSettings.mk <$> .withDefault "secret" (decodeOption decodeString) none
      <*> .withDefault "token_ttl_secs" (decodeNat Word.max64) 3600
      <*> .withDefault "set_admin" (decodeOption decodeString) none)

/-- The settings of the tokens that are signed with a secret. -/
def tokenSettings (s : AuthSettings) (secret : List UInt8) : Except AccountError TokenSettings :=
  if s.lifetime = 0 then .error (.badArgument .lifetimeZero)
  else TokenSettings.make secret s.lifetime

/-- Username and password of the admin; the first colon divides them. -/
def adminCredentials (s : AuthSettings) : Except AccountError (Option (String × String)) :=
  match s.admin with
  | none => .ok none
  | some text =>
    match Text.splitFirst ':' text.toList with
    | some (c :: username, d :: password) =>
      .ok (some (String.ofList (c :: username), String.ofList (d :: password)))
    | _ => .error (.badArgument .adminForm)

end AuthSettings

end AccountServer
