import AccountServer.Account.Validation
import AccountServer.Password.Error
import AccountServer.Store.Error

/-!
# Failures of the account service

Every failure that leaves the service is an `AccountError`. Failures of the store are sorted on
the way out: `ofStore` keeps the two that mean something to a client and wraps the rest.
-/

namespace AccountServer

/-- Why a token was turned down. -/
inductive TokenFault where
  /-- Not three parts with points between them. -/
  | form
  /-- A part is not in the alphabet of base 64. -/
  | base64
  /-- A part is not the JSON it should be. -/
  | json
  | signature
  | algorithm
  | expired
  | issuer
  | audience
  /-- A claim that has to be there is not. -/
  | missingClaim
  /-- The claims name a user who does not exist. -/
  | unknownSubject
  | other (message : String)
  deriving DecidableEq, Repr

def TokenFault.message : TokenFault → String
  | .form => "InvalidToken"
  | .base64 => "Base64 error"
  | .json => "JSON error"
  | .signature => "InvalidSignature"
  | .algorithm => "InvalidAlgorithm"
  | .expired => "ExpiredSignature"
  | .issuer => "InvalidIssuer"
  | .audience => "InvalidAudience"
  | .missingClaim => "Missing required claim"
  | .unknownSubject => "unknown subject"
  | .other message => message

/-- Why a caller may not do what was asked. -/
inductive Refusal where
  | notAdmin
  | notSelf
  | idChange
  | roleChange
  | other (message : String)
  deriving DecidableEq, Repr

def Refusal.message : Refusal → String
  | .notAdmin => "admin role required"
  | .notSelf => "not allowed to act on another user"
  | .idChange => "only an admin may change a user ID"
  | .roleChange => "only an admin may change a role"
  | .other message => message

/-- What stands behind an unexpected failure. -/
inductive Cause where
  | store (error : StoreError)
  | password (error : PasswordError)
  deriving DecidableEq

def Cause.message : Cause → String
  | .store error => error.message
  | .password error => error.message

/-- Why the service did not do what it was asked. -/
inductive AccountError where
  | badArgument (fault : ArgumentFault)
  | badCredentials
  | notFound
  | alreadyExists (clash : Clash)
  | invalidToken (fault : TokenFault)
  /-- No credentials were presented. -/
  | unauthorized
  | forbidden (refusal : Refusal)
  /-- The store or the hashing failed in a way that says nothing to a client. -/
  | store (cause : Cause)
  | internal (message : String)
  deriving DecidableEq

namespace AccountError

/-- Sorts a failure of the store. -/
def ofStore : StoreError → AccountError
  | .notFound => .notFound
  | .constraint clash => .alreadyExists clash
  | error => .store (.store error)

def message : AccountError → String
  | .badArgument fault => fault.message
  | .badCredentials => "incorrect username or password"
  | .notFound => "the requested resource was not found"
  | .alreadyExists clash => clash.message
  | .invalidToken fault => "invalid token: " ++ fault.message
  | .unauthorized => "authorization is required"
  | .forbidden refusal => refusal.message
  | .store cause => "store error: " ++ cause.message
  | .internal message => "internal error: " ++ message

/-- The kind of failure in one word, as reports show it. -/
def name : AccountError → String
  | .badArgument _ => "BadArgument"
  | .badCredentials => "BadCredentials"
  | .notFound => "NotFound"
  | .alreadyExists _ => "AlreadyExists"
  | .invalidToken _ => "InvalidToken"
  | .unauthorized => "Unauthorized"
  | .forbidden _ => "Forbidden"
  | .store _ => "Store"
  | .internal _ => "Internal"

/-- The HTTP status that the failure is answered with. -/
def status : AccountError → Nat
  | .badArgument _ => 400
  | .badCredentials | .invalidToken _ | .unauthorized => 401
  | .forbidden _ => 403
  | .notFound => 404
  | .alreadyExists _ => 409
  | .store _ | .internal _ => 500

/-- What a client is told. It learns neither what failed inside nor why a token was turned
down. -/
def publicMessage : AccountError → String
  | .store _ | .internal _ => "An internal server error occurred"
  | .invalidToken _ => "Authorization is required"
  | error => error.message

end AccountError

end AccountServer
