import AccountServer.Store.Basic

/-!
# The store in memory

Users are kept in a table by identifier. Every operation that changes the table answers the new
one, so an operation that fails has changed nothing. Usernames are compared with those of all other
records, and a record that moves to another identifier leaves its old place.
-/

namespace AccountServer

/-- Users by identifier. -/
structure MemoryStore where
  records : List (Uuid × User)

namespace MemoryStore

def empty : MemoryStore := ⟨[]⟩

/-- All users, in the order of the table. -/
def users (s : MemoryStore) : List User := s.records.map Prod.snd

/-- The record under an identifier. -/
def get? (s : MemoryStore) (id : Uuid) : Option User := s.records.lookup id

/-- Whether there is a record under an identifier. -/
def contains (s : MemoryStore) (id : Uuid) : Bool := (s.get? id).isSome

/-- The table without the record under an identifier. -/
def erase (s : MemoryStore) (id : Uuid) : MemoryStore :=
  ⟨s.records.filter fun (key, _) => key ≠ id⟩

/-- The table with a record under its own identifier, in place of an earlier one. -/
def insert (s : MemoryStore) (u : User) : MemoryStore := ⟨(u.id, u) :: (s.erase u.id).records⟩

/-- Whether a user other than the one of an identifier has the name. -/
def usernameTaken (s : MemoryStore) (username : String) (except : Option Uuid) : Bool :=
  s.users.any fun u => u.username = username && some u.id ≠ except

/-- The first draw that is free, of so many as there are records and one. Among so many different
draws one is free, so only a stream that repeats itself can go on longer. No run is lost that way: a
draw that is taken leaves no trace, so what a longer search comes to is what the stream from its
first free draw on comes to. -/
def freeDraw? (s : MemoryStore) (draws : Nat → Uuid) : Option Uuid :=
  ((List.range (s.records.length + 1)).map draws).find? fun id => !s.contains id

/-- Takes in a new user under the first draw that is free. Where none is free among those that are
looked at, the answer is that the last one clashes, as it is in a table of rows. No run of a server
comes to that, since its search goes on, as it does here with a stream that begins further on. -/
def create (s : MemoryStore) (around : Surroundings) (u : User) :
    Except StoreError (User × MemoryStore) := do
  u.checkHash
  if s.usernameTaken u.username none then
    throw (.constraint (.usernameTaken u.username))
  match s.freeDraw? around.draws with
  | none => throw (.constraint (.idInUse (around.draws s.records.length)))
  | some id =>
    let stored := { u with id := id, created := around.now, modified := around.now }
    return (stored, s.insert stored)

def get (s : MemoryStore) (id : Uuid) : Except StoreError User :=
  match s.get? id with
  | some u => .ok u
  | none => .error .notFound

def byUsername (s : MemoryStore) (username : String) : Except StoreError User :=
  match s.users.find? fun u => u.username = username with
  | some u => .ok u
  | none => .error .notFound

def all (s : MemoryStore) : List User := User.sorted s.users

/-- Puts a record in place of the one under an identifier. It keeps the time of creation of the one
that it replaces. -/
def update (s : MemoryStore) (around : Surroundings) (id : Uuid) (u : User) :
    Except StoreError (User × MemoryStore) := do
  u.checkHash
  match s.get? id with
  | none => throw .notFound
  | some current =>
    if u.id ≠ id && s.contains u.id then throw (.constraint (.idInUse u.id))
    if s.usernameTaken u.username (some id) then
      throw (.constraint (.usernameTaken u.username))
    let stored := { u with created := current.created, modified := around.now }
    return (stored, (s.erase id).insert stored)

def delete (s : MemoryStore) (id : Uuid) : Except StoreError (User × MemoryStore) :=
  match s.get? id with
  | some u => .ok (u, s.erase id)
  | none => .error .notFound

/-- The users that pass a filter. Its bounds on the time of creation are tried first. -/
def find (s : MemoryStore) (filter : UserFilter) : List User :=
  let limits := filter.indexLimits
  if limits.isImpossible PartialCompare.greater then []
  else User.sorted (s.users.filter fun u =>
    limits.contains PartialCompare.greater u.created && filter.matches? u)

/-- The answer to a change and the table after it. -/
def changed {α : Type} (s : MemoryStore) : Except StoreError (α × MemoryStore) →
    Except StoreError α × MemoryStore
  | .ok (a, s') => (.ok a, s')
  | .error e => (.error e, s)

/-- Answers a call. -/
def perform (call : StoreCall) (around : Surroundings) (s : MemoryStore) :
    call.Answer × MemoryStore :=
  match call with
  | .create u => s.changed (s.create around u)
  | .get id => (s.get id, s)
  | .byUsername username => (s.byUsername username, s)
  | .all => (.ok s.all, s)
  | .update id u => s.changed (s.update around id u)
  | .delete id => s.changed (s.delete id)
  | .find filter => (.ok (s.find filter), s)
  | .close => (.ok (), s)

instance : AccountStore MemoryStore := ⟨perform⟩

end MemoryStore

end AccountServer
