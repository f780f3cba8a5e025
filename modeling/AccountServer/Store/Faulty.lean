import AccountServer.Store.Memory

/-!
# A store that fails

A store in memory whose calls can be made to fail, for trying out what becomes of failures. It has
no search of its own: it lists all users and picks from the list.
-/

namespace AccountServer

/-- The kinds of calls. -/
inductive StoreCall.Kind where
  | create
  | get
  | byUsername
  | all
  | update
  | delete
  | close
  deriving DecidableEq, Repr

/-- The kind of a call; a search is a call for the list. -/
def StoreCall.kind : StoreCall → StoreCall.Kind
  | .create _ => .create
  | .get _ => .get
  | .byUsername _ => .byUsername
  | .all | .find _ => .all
  | .update .. => .update
  | .delete _ => .delete
  | .close => .close

/-- A store in memory, and how calls of some kinds fail. -/
structure FaultyStore where
  inner : MemoryStore
  faults : List (StoreCall.Kind × StoreError)

namespace FaultyStore

def empty : FaultyStore := ⟨.empty, []⟩

/-- Makes the calls of a kind fail from now on, or work again. -/
def fault (f : FaultyStore) (kind : StoreCall.Kind) (error : Option StoreError) : FaultyStore :=
  { f with faults := (error.map fun e => (kind, e)).toList ++
      f.faults.filter fun (other, _) => other ≠ kind }

/-- Answers a call as the store in memory does. -/
def pass (f : FaultyStore) (call : StoreCall) (around : Surroundings) :
    call.Answer × FaultyStore :=
  let (answer, inner) := AccountStore.perform call around f.inner
  (answer, { f with inner })

/-- Answers a call. -/
def perform (call : StoreCall) (around : Surroundings) (f : FaultyStore) :
    call.Answer × FaultyStore :=
  match f.faults.lookup call.kind with
  | some e => (.error e, f)
  | none =>
    match call with
    | .find filter => (.ok (f.inner.all.filter filter.matches?), f)
    | other => f.pass other around

instance : AccountStore FaultyStore := ⟨perform⟩

end FaultyStore

end AccountServer
