import AccountServer.Component.Echo
import AccountServer.Component.Hello
import AccountServer.Http.Request
import AccountServer.Http.Router
import AccountServer.Service.Access
import AccountServer.Service.Tokens

/-!
# Endpoints

An `Endpoint` is something that the server can be asked for. Its `Guard` says what has to be known
about the caller before anything else is looked at. What is done for a request is a plan whose
failure is a response too, so that every request is answered.
-/

namespace AccountServer

/-- The name of the server. -/
def serverName : String := "jelly"

/-- The version of the server. -/
def serverVersion : String := "0.1.0"

/-- What is done on the way to an answer; a failure is the answer of a request that ends early. -/
abbrev Handling (α : Type) := Plan Response α

namespace Handling

/-- A part of a request. -/
def part {α : Type} (r : Except Rejection α) : Handling α :=
  .ofExcept (r.mapError Rejection.response)

/-- A step of the account service. -/
def account {α : Type} (action : Action α) : Handling α := action.mapError AccountError.response

end Handling

/-- The services behind the endpoints. -/
structure Services where
  accounts : Accounts
  tokens : Tokens

/-! ## Callers -/

/-- What has to be known about the caller. -/
inductive Guard where
  | none
  /-- The caller is named if there is a good token; a bad one does not matter. -/
  | optional
  /-- There has to be a good token. -/
  | required
  deriving DecidableEq, Repr

/-- Finds out who is calling. -/
def Services.caller (s : Services) (guard : Guard) (r : Request) : Handling (Option User) :=
  match guard, r.bearer? with
  | .none, _ | .optional, none => pure none
  | .required, none => throw AccountError.unauthorized.response
  | .optional, some token => do
    let result ← (s.tokens.authenticate token).attempt
    return result.toOption
  | .required, some token => some <$> Handling.account (s.tokens.authenticate token)

/-- A request that has found its endpoint. -/
structure Inquiry where
  request : Request
  /-- The parameters of the path, as they are written. -/
  parameters : List (List Char)
  caller : Option User

namespace Inquiry

/-- The caller, who has to be known. -/
def user (q : Inquiry) : Handling User :=
  match q.caller with
  | some user => pure user
  | none => throw AccountError.unauthorized.response

/-- The only parameter of the path. -/
def parameter (q : Inquiry) : Handling String :=
  .part <|
    match q.parameters.mapM Text.percentText? with
    | none => .error .pathText
    | some [value] => .ok value
    | some values => .error (.pathCount values.length)

/-- The body of the request. -/
def body {α : Type} (q : Inquiry) (decode : Json.Decoder α) : Handling α :=
  .part (q.request.json decode)

end Inquiry

/-! ## Endpoints -/

/-- What the server can be asked for. -/
inductive Endpoint where
  | health
  | version
  | login
  | logout
  /-- A fresh token for the caller. -/
  | renewToken
  | listUsers
  | createUser
  | getUser
  | updateUser
  | deleteUser
  | updatePassword
  | echo
  | nice
  | rude
  /-- A nice or a rude greeting, at random. -/
  | either
  | secret
  deriving DecidableEq, Repr

namespace Endpoint

def guard : Endpoint → Guard
  | .health | .version | .login | .nice | .rude | .either => .none
  | .echo => .optional
  | .logout | .renewToken | .listUsers | .createUser | .getUser | .updateUser | .deleteUser
  | .updatePassword | .secret => .required

/-- The routes of the account service. -/
def accountRoutes : List (String × List (Method × Endpoint)) :=
  [("/login", [(.post, .login)]),
   ("/info", [(.get, .version)]),
   ("/login/:id", [(.delete, .logout)]),
   ("/tokens", [(.post, .renewToken)]),
   ("/users", [(.get, .listUsers), (.post, .createUser)]),
   ("/users/:id", [(.get, .getUser), (.put, .updateUser), (.delete, .deleteUser)]),
   ("/users/:id/password", [(.put, .updatePassword)])]

/-- The routes of the echo component. -/
def echoRoutes : List (String × List (Method × Endpoint)) := [("/", [(.post, .echo)])]

/-- The routes of the hello component. -/
def helloRoutes : List (String × List (Method × Endpoint)) :=
  [("/nice", [(.get, .nice)]),
   ("/rude", [(.get, .rude)]),
   ("/random", [(.get, .either)]),
   ("/secret", [(.get, .secret)])]

/-- The routes outside of all components. -/
def serverRoutes : List (String × List (Method × Endpoint)) := [("/health", [(.get, .health)])]

end Endpoint

/-! ## Answers -/

namespace Services

/-- The answer that shows a user. -/
def shown (status : Nat) (user : User) : Response := .json status user.summary.toJson

/-- The answer of a greeting. -/
def greeting (message : String) : Response := .json 200 (Greeting.toJson ⟨message⟩)

/-- Issues a token for a user. -/
def issue (s : Services) (user : User) : Handling Response := do
  let token ← .account (s.tokens.issue user)
  return .json 201 (IssuedToken.toJson ⟨user.id, token⟩)

/-- Sends a message back, with the name of the caller if that is known. -/
def echo (q : Inquiry) : Handling Response := do
  let message := (← q.body EchoRequest.decode).message
  if message.isEmpty then throw (ComponentError.badRequest .emptyMessage).response
  return .json 200 (EchoResponse.toJson ⟨message, q.caller.map User.username⟩)

/-- What an endpoint answers. The caller is wanted first, then the parts of the request in the
order in which they stand there. -/
def answer (s : Services) (hello : HelloSettings) (e : Endpoint) (q : Inquiry) : Handling Response := do
  match e with
  | .health =>
    return .json 200 (.object
      [("status", .string "ok"), ("service", .string serverName), ("version", .string serverVersion)])
  | .version => return .json 200 (.object [("version", .string serverVersion)])
  | .login =>
    let c ← q.body LoginCredentials.decode
    s.issue (← .account (s.accounts.login c.username c.password))
  | .logout =>
    let caller ← q.user
    let id ← q.parameter
    let _ ← .account (Accounts.logoutBy caller id)
    return .bare 204
  | .renewToken => s.issue (← q.user)
  | .listUsers =>
    let caller ← q.user
    let query ← .part (q.request.queryFields UserQuery.decode)
    let users ← .account (Accounts.listUsersBy caller query)
    return .json 200 (.array (users.map (·.summary.toJson)))
  | .createUser =>
    let caller ← q.user
    let user ← q.body NewUser.decode
    shown 201 <$> .account (s.accounts.createUserBy caller user)
  | .getUser =>
    let caller ← q.user
    let id ← q.parameter
    shown 200 <$> .account (Accounts.getUserBy caller id)
  | .updateUser =>
    let caller ← q.user
    let id ← q.parameter
    let change ← q.body UserChange.decode
    shown 200 <$> .account (Accounts.updateUserBy caller id change)
  | .deleteUser =>
    let caller ← q.user
    let id ← q.parameter
    shown 200 <$> .account (Accounts.deleteUserBy caller id)
  | .updatePassword =>
    let caller ← q.user
    let id ← q.parameter
    let change ← q.body PasswordChange.decode
    shown 200 <$> .account (s.accounts.updatePasswordBy caller id change)
  | .echo => echo q
  | .nice => return greeting hello.nice
  | .rude => return greeting hello.rude
  | .either => return greeting (hello.pick (← Plan.question .random))
  | .secret =>
    let caller ← q.user
    return greeting ("The secret is safe with you, " ++ caller.username ++ ".")

end Services

end AccountServer
