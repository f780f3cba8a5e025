import AccountServer.Account.Payload
import AccountServer.Service.Accounts

/-!
# Access to accounts

What a caller may ask for. Users may act on their own record; admins may act on every record, list
the users and register new ones. Whether a caller may act is decided by the identifier, in whatever
form it was written.
-/

namespace AccountServer

namespace User

/-- Whether a caller may act on the record of an identifier. -/
def mayActOn (caller : User) (target : Uuid) : Bool := caller.id = target || caller.isAdmin

end User

namespace Accounts

/-- Refuses callers who are no admins. -/
def requireAdmin (caller : User) : Action Unit :=
  if caller.isAdmin then pure () else throw (.forbidden .notAdmin)

/-- Refuses callers who ask about others without being an admin; the answer is the identifier that
was written. -/
def requireSelfOrAdmin (caller : User) (id : String) : Action Uuid := do
  let target ← argument (Validation.userId id)
  if caller.mayActOn target then pure target else throw (.forbidden .notSelf)

/-- Logs a user out. -/
def logoutBy (caller : User) (id : String) : Action User := do
  let target ← requireSelfOrAdmin caller id
  logout target

/-- Lists the users that a query is about. -/
def listUsersBy (caller : User) (query : UserQuery) : Action (List User) := do
  requireAdmin caller
  match query.filter? with
  | some filter => findUsers filter
  | none => getAllUsers

/-- Shows a user. -/
def getUserBy (caller : User) (id : String) : Action User := do
  let _ ← requireSelfOrAdmin caller id
  getUser id

/-- Refuses changes that only an admin may make: to another identifier and to another role. -/
def checkChange (caller : User) (target : Uuid) (current : User) (newId : String) (role : Role) :
    Action Unit := do
  if !caller.isAdmin then
    let newId ← argument (Validation.userId newId)
    if newId ≠ target then throw (.forbidden .idChange)
    if role ≠ current.role then throw (.forbidden .roleChange)

/-- Changes who a user is. What the change leaves out stays as it is. -/
def updateUserBy (caller : User) (id : String) (change : UserChange) : Action User := do
  let target ← requireSelfOrAdmin caller id
  let current ← getUser id
  let newId := change.id.getD id
  let role := change.role.getD current.role
  checkChange caller target current newId role
  let email := (change.email.or current.email).getD ""
  updateUser id newId change.username email role

/-- Removes a user. -/
def deleteUserBy (caller : User) (id : String) : Action User := do
  let _ ← requireSelfOrAdmin caller id
  deleteUser id

variable (s : Accounts)

/-- Registers a user, who is a normal one unless said otherwise. -/
def createUserBy (caller : User) (user : NewUser) : Action User := do
  requireAdmin caller
  s.createUser user.username user.password (user.email.getD "") (user.role.getD default)

/-- Gives a user another password. -/
def updatePasswordBy (caller : User) (id : String) (change : PasswordChange) : Action User := do
  let _ ← requireSelfOrAdmin caller id
  s.updatePassword id change.password

end Accounts

end AccountServer
