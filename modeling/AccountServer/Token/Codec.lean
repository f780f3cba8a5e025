import AccountServer.Account.Error
import AccountServer.Crypto.Base64
import AccountServer.Crypto.Sha256
import AccountServer.Json.Printer
import AccountServer.Text.Split
import AccountServer.Token.Claims

/-!
# Tokens

A token has three parts with points between them: a header, the claims, and a signature over the
two, all in base 64. Header and claims are JSON.

The key of the signature is made of the server's secret, the password hash of the user and the time
of the last logout. So a token stops being valid as soon as its user logs out or gets another
password. Because the key depends on the user, a token is read twice: `unverified` gives the claims
on trust, from which the user is looked up, and `verify` checks the signature with the user's key
and then the claims.

The function that signs is an argument, `mac key message`.
-/

namespace AccountServer.Token

open Crypto Json

/-- A function that signs a message with a key. -/
abbrev Mac := Bytes → Bytes → Bytes

/-- The issuer of all tokens. -/
def issuer : String := "jelly"

/-! ## Keys -/

/-- The time of the last logout as it goes into the key: microseconds, or 0 for none. -/
def logoutMicros (u : User) : Int :=
  match u.lastLogout with
  | some t => t.micros
  | none => 0

/-- The key that signs the tokens of a user. -/
def signingKey (secret : Bytes) (u : User) : Bytes :=
  secret ++ utf8 u.passwordHash ++ utf8 (toString (logoutMicros u))

/-! ## Issuing -/

/-- A part that holds a JSON value. -/
def part (j : Json) : List Char := Base64.encode .forUrl (utf8 j.text)

/-- The header of all tokens that are issued. -/
def header : Json := .object [("typ", .string "JWT"), ("alg", .string "HS256")]

/-- The signature over a message, as a part. -/
def signature (mac : Mac) (key : Bytes) (message : List Char) : List Char :=
  Base64.encode .forUrl (mac key (utf8 (String.ofList message)))

/-- The token that holds the claims, signed with a key. -/
def sign (mac : Mac) (key : Bytes) (claims : Claims) : String :=
  let message := part header ++ '.' :: part claims.toJson
  String.ofList (message ++ '.' :: signature mac key message)

/-- What a token says about a user, from a second on and for so many seconds. -/
def claimsFor (u : User) (now lifetime : Int) : Claims where
  subject := u.id
  username := u.username
  role := u.role
  issuer := issuer
  issuedAt := now
  expires := min (now + lifetime) Claims.maxTime

/-- A token for a user. -/
def generate (mac : Mac) (secret : Bytes) (u : User) (lifetime : Nat) (now : Int) :
    Except AccountError String :=
  if (lifetime : Int) ≤ Claims.maxTime then
    .ok (sign mac (signingKey secret u) (claimsFor u now lifetime))
  else .error (.badArgument .lifetimeTooLong)

/-! ## Reading -/

/-- The parts of a token. Points in front of the last two belong to the header. -/
structure Parts where
  header : List Char
  claims : List Char
  signature : List Char

namespace Parts

def ofText? (token : String) : Option Parts := do
  let (message, signature) ← Text.splitLast '.' token.toList
  let (header, claims) ← Text.splitLast '.' message
  return ⟨header, claims, signature⟩

/-- What the signature is over. -/
def message (p : Parts) : List Char := p.header ++ '.' :: p.claims

end Parts

/-- Reads the JSON of a part. -/
def readPart {α : Type} (decode : Decoder α) (cs : List Char) : Except TokenFault α :=
  match Base64.decode? .forUrl cs with
  | none => .error .base64
  | some bytes =>
    match String.fromUTF8? ⟨bytes.toArray⟩ with
    | none => .error .json
    | some text => (decodeDocument decode text).mapError fun _ => .json

/-- Header and claims as they are written, whatever they are; nothing for a part that is no JSON. -/
def contents (token : String) : Json × Json :=
  let shown (cs : List Char) : Json := (readPart decodeAny cs).toOption.getD .null
  match Parts.ofText? token with
  | some parts => (shown parts.header, shown parts.claims)
  | none => (.null, .null)

/-- Algorithms that a header may name. -/
inductive Algorithm where
  /-- The one that is used here. -/
  | hs256
  | other
  deriving DecidableEq, Repr

def Algorithm.decode : Decoder Algorithm :=
  decodeVariant
    [("HS256", .hs256), ("HS384", .other), ("HS512", .other), ("ES256", .other),
     ("ES384", .other), ("RS256", .other), ("RS384", .other), ("RS512", .other),
     ("PS256", .other), ("PS384", .other), ("PS512", .other), ("EdDSA", .other)] []

/-- Reads the header, of which only the algorithm is of interest. -/
def decodeHeader : Decoder Algorithm :=
  Fields.decode
    ((fun _ algorithm _ _ _ _ _ _ _ _ => algorithm) <$> .optional "typ" decodeString
      <*> .required "alg" Algorithm.decode
      <*> .optional "cty" decodeString
      <*> .optional "jku" decodeString
      <*> .optional "jwk" decodeAny
      <*> .optional "kid" decodeString
      <*> .optional "x5u" decodeString
      <*> .optional "x5c" (decodeList decodeString)
      <*> .optional "x5t" decodeString
      <*> .optional "x5t#S256" decodeString)

/-- Whether a value names an audience. -/
def isAudience : Json → Bool
  | .string _ => true
  | .array items => items.all fun
    | .string _ => true
    | _ => false
  | _ => false

/-- Whether a value can stand for a time before which a token is not valid, which is not looked
at but must be a single value. -/
def isPlain : Json → Bool
  | .array (_ :: _) | .object (_ :: _) => false
  | _ => true

/-- What the part of the claims holds. -/
structure Reading where
  claims : Claims
  /-- Whether it names an audience. -/
  audience : Bool

/-- Reads the part of the claims, an object. Neither audience nor starting time may come twice. -/
def decodeReading : Decoder Reading := fun j => do
  let claims ← Claims.decode j
  match j with
  | .object members =>
    let named (name : String) : List Json :=
      (members.filter fun (key, _) => key = name).map Prod.snd
    let audiences := named "aud"
    let starts := named "nbf"
    if 1 < audiences.length || 1 < starts.length || !starts.all isPlain then throw .unfit
    return ⟨claims, audiences.any isAudience⟩
  | _ => throw .unfit

/-- What a token says, which nobody has vouched for. A token for an audience is for someone
else. -/
def unverified (token : String) : Except TokenFault Claims :=
  match Parts.ofText? token with
  | none => .error .form
  | some parts => do
    let _ ← readPart decodeHeader parts.header
    let reading ← readPart decodeReading parts.claims
    if reading.audience then throw .audience
    return reading.claims

/-- Checks claims at a second: a time of expiry, which is not past, and the issuer. -/
def checkClaims (now : Int) (claims : Claims) : Except TokenFault Unit :=
  if claims.expires < 0 then .error .missingClaim
  else if claims.expires < now then .error .expired
  else if claims.issuer ≠ issuer then .error .issuer
  else .ok ()

/-- What a token says, if it is signed with the key and the claims are good at the second `now`. -/
def verify (mac : Mac) (key : Bytes) (now : Int) (token : String) : Except TokenFault Claims :=
  match Parts.ofText? token with
  | none => .error .form
  | some parts => do
    let algorithm ← readPart decodeHeader parts.header
    if algorithm ≠ .hs256 then throw .algorithm
    if signature mac key parts.message ≠ parts.signature then throw .signature
    let reading ← readPart decodeReading parts.claims
    checkClaims now reading.claims
    if reading.audience then throw .audience
    return reading.claims

end AccountServer.Token
