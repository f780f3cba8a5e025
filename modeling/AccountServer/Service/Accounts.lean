import AccountServer.Account.Error
import AccountServer.Password.Hashing
import AccountServer.Service.Plan

/-!
# The account service

The operations on accounts, as plans over any store. Arguments are checked before the store is
asked for anything; what the store refuses is told to the caller if it means something to him and
wrapped otherwise.
-/

namespace AccountServer

/-- What the account service does. -/
abbrev Action (α : Type) := Plan AccountError α

/-- The operations on accounts, given how passwords are hashed. -/
structure Accounts where
  hasher : PasswordHasher

namespace Accounts

/-- A check of an argument. -/
def argument {α : Type} (r : Except ArgumentFault α) : Action α :=
  .ofExcept (r.mapError .badArgument)

/-- Calls the store and sorts its failures. -/
def ask (call : StoreCall) : Action call.Result := do
  match ← Plan.call call with
  | .ok a => return a
  | .error e => throw (.ofStore e)

/-- Calls the store and wraps any failure. -/
def demand (call : StoreCall) : Action call.Result := do
  match ← Plan.call call with
  | .ok a => return a
  | .error e => throw (.store (.store e))

/-- Calls the store; `none` says that there is no such record, other failures are wrapped. -/
def lookUp (call : StoreCall) : Action (Option call.Result) := do
  match ← Plan.call call with
  | .ok a => return some a
  | .error .notFound => return none
  | .error e => throw (.store (.store e))

variable (s : Accounts)

/-- Hashes a password with fresh salt. -/
def hashPassword (password : String) : Action String := do
  let salt ← Plan.question .salt
  .ofExcept ((s.hasher.hash salt password).mapError fun e => .store (.password e))

/-- Checks a password against a kept hash. -/
def verifyPassword (password stored : String) : Action Unit :=
  match s.hasher.verify password stored with
  | .ok () => pure ()
  | .error .mismatch => throw .badCredentials
  | .error e => throw (.store (.password e))

/-- Checks a username with its password and records the time. -/
def login (username password : String) : Action User := do
  match ← lookUp (.byUsername username) with
  | none => throw .badCredentials
  | some user =>
    s.verifyPassword password user.passwordHash
    let now ← Plan.clock
    demand (.update user.id { user with lastLogin := some now })

/-- Records a logout, after which no token issued before is valid. -/
def logout (id : Uuid) : Action User := do
  let user ← ask (.get id)
  let now ← Plan.clock
  demand (.update id { user with lastLogout := some now })

def getUser (id : String) : Action User := do
  let id ← argument (Validation.userId id)
  ask (.get id)

def getUserByUsername (username : String) : Action User := ask (.byUsername username)

def getAllUsers : Action (List User) := ask .all

def findUsers (filter : UserFilter) : Action (List User) := ask (.find filter)

/-- Fails if anybody has the name. -/
def ensureUsernameFree (username : String) : Action Unit := do
  match ← lookUp (.byUsername username) with
  | some _ => throw (.alreadyExists (.usernameTaken username))
  | none => return ()

/-- Registers a user. The empty email stands for none. -/
def createUser (username password email : String) (role : Role) : Action User := do
  argument (Validation.username username)
  argument (Validation.password password)
  let email ← argument (Validation.optionalEmail email)
  ensureUsernameFree username
  let hash ← s.hashPassword password
  ask (.create (.draft username hash role email))

/-- Changes who a user is; the password stays. -/
def updateUser (currentId newId username email : String) (role : Role) : Action User := do
  argument (Validation.username username)
  let email ← argument (Validation.optionalEmail email)
  let currentId ← argument (Validation.userId currentId)
  let newId ← argument (Validation.userId newId)
  let current ← ask (.get currentId)
  if newId ≠ currentId then
    if (← lookUp (.get newId)).isSome then throw (.alreadyExists (.idInUse newId))
  if username ≠ current.username then
    ensureUsernameFree username
  ask (.update currentId { current with id := newId, username, email, role })

/-- Gives a user another password and leaves all else as it is. -/
def updatePassword (id password : String) : Action User := do
  argument (Validation.password password)
  let id ← argument (Validation.userId id)
  let user ← ask (.get id)
  let hash ← s.hashPassword password
  ask (.update id { user with passwordHash := hash })

/-- Removes a user and answers the last state of the record. -/
def deleteUser (id : String) : Action User := do
  let id ← argument (Validation.userId id)
  ask (.delete id)

/-- Makes sure that there is an admin of this name with this password. -/
def ensureAdmin (username password : String) : Action User := do
  match ← lookUp (.byUsername username) with
  | some user =>
    argument (Validation.password password)
    let hash ← s.hashPassword password
    ask (.update user.id { user with role := .admin, passwordHash := hash })
  | none => s.createUser username password "" .admin

end Accounts

end AccountServer
