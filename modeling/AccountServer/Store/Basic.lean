import AccountServer.Account.Query
import AccountServer.Store.Error

/-!
# Stores

A store of users answers calls, one at a time. A `StoreCall` is a call with its arguments, and
`StoreCall.Result` the type of its answer. What a call takes from outside, the time and random
identifiers, comes as `Surroundings`, so that a store is a function of its state.
-/

namespace AccountServer

/-- What the outside supplies to one step of the server. -/
structure Surroundings where
  now : Instant
  /-- Random identifiers, one after the other. A store in memory takes the first one that is free,
  of as many as could be taken and one more; a table takes the first. -/
  draws : Nat → Uuid
  /-- Random bytes for a password. -/
  salt : List UInt8
  /-- 64 random bits. -/
  random : UInt64

/-- A call to a store. -/
inductive StoreCall where
  /-- Takes in a new user. The store assigns the identifier and both times. -/
  | create (user : User)
  | get (id : Uuid)
  | byUsername (username : String)
  | all
  /-- Puts a record in place of the one under an identifier. It may carry another identifier. -/
  | update (id : Uuid) (user : User)
  /-- Removes a record and answers its last state. -/
  | delete (id : Uuid)
  /-- The users that pass a filter. -/
  | find (filter : UserFilter)
  | close

/-- What a call is answered with when all goes well. -/
abbrev StoreCall.Result : StoreCall → Type
  | .create _ | .get _ | .byUsername _ | .update .. | .delete _ => User
  | .all | .find _ => List User
  | .close => Unit

/-- The answer to a call. -/
abbrev StoreCall.Answer (call : StoreCall) : Type := Except StoreError call.Result

/-- A store whose state is a `σ`. -/
class AccountStore (σ : Type) where
  perform : (call : StoreCall) → Surroundings → σ → call.Answer × σ

/-- Whether one user comes before another where users are listed: by time of creation, then by
identifier. -/
def User.precedes (a b : User) : Bool :=
  match PartialCompare.compare? a.created b.created with
  | some .lt => true
  | some .gt => false
  | _ => PartialCompare.atMost a.id b.id

/-- Users in the order in which they are listed. -/
def User.sorted (users : List User) : List User := users.mergeSort User.precedes

/-- A record without a password hash is refused. -/
def User.checkHash (u : User) : Except StoreError Unit :=
  if u.passwordHash.isEmpty then .error (.invalid .noHash) else .ok ()

end AccountServer
