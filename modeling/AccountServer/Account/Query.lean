import AccountServer.Account.User
import AccountServer.Filter.Codec

/-!
# Queries for users

A `UserCondition` holds criteria on the fields of a user, all of which have to pass; a field
without criterion accepts every user. The time of creation is the indexed field. `UserQuery` is
the short form that clients send in a query string.
-/

namespace AccountServer

/-- Criteria on the fields of a user. -/
structure UserCondition where
  id : Option (Criterion Uuid) := none
  username : Option (Criterion String) := none
  email : Option (Criterion String) := none
  role : Option (Criterion Role) := none
  created : Option (Criterion Instant) := none
  lastLogin : Option (Criterion Instant) := none
  deriving DecidableEq

namespace UserCondition

/-- A criterion that is not set accepts everything. -/
def passes {α : Type} [PartialCompare α] (c : Option (Criterion α)) (value : α) : Bool :=
  match c with
  | some c => c.accepts value
  | none => true

/-- The same for a field that may be absent. -/
def passesOptional {α : Type} [PartialCompare α] (c : Option (Criterion α))
    (value : Option α) : Bool :=
  match c with
  | some c => c.acceptsOptional value
  | none => true

/-- Whether a user passes every criterion. -/
def holds (w : UserCondition) (u : User) : Bool :=
  passes w.id u.id && passes w.username u.username && passesOptional w.email u.email &&
    passes w.role u.role && passes w.created u.created && passesOptional w.lastLogin u.lastLogin

/-- The bounds that the criterion on the time of creation sets. -/
def createdLimits (w : UserCondition) : Limits Instant :=
  match w.created with
  | some c => c.limits
  | none => .unbounded

instance : Condition UserCondition User Instant := ⟨holds, createdLimits⟩

/-- Criteria that are not set are left out. -/
def toJson (w : UserCondition) : Json :=
  .object (Json.present "id" (·.toJson Uuid.toJson) w.id ++
    Json.present "username" (·.toJson .string) w.username ++
    Json.present "email" (·.toJson .string) w.email ++
    Json.present "role" (·.toJson Role.toJson) w.role ++
    Json.present "created" (·.toJson Instant.toJson) w.created ++
    Json.present "last_login" (·.toJson Instant.toJson) w.lastLogin)

/-- A criterion that may be `null` or absent. -/
def field {α : Type} (name : String) (value : Json.Decoder α) :
    Json.Fields (Option (Criterion α)) :=
  .withDefault name (Json.decodeOption (Criterion.decode value)) none

def decode : Json.Decoder UserCondition :=
  Json.Fields.decode
    (UserCondition.mk <$> field "id" Uuid.decode
      <*> field "username" Json.decodeString
      <*> field "email" Json.decodeString
      <*> field "role" Role.decode
      <*> field "created" Instant.decode
      <*> field "last_login" Instant.decode)

/-- Reads a criterion on the field of a name; `all` stands for no criterion. -/
def decodeOn? (field : String) : Option (Json.Decoder UserCondition) :=
  let on {α : Type} (value : Json.Decoder α) (make : Criterion α → UserCondition) :=
    some fun j => (Criterion.decode value j).map make
  match field with
  | "id" => on Uuid.decode fun c => { id := some c }
  | "username" => on Json.decodeString fun c => { username := some c }
  | "email" => on Json.decodeString fun c => { email := some c }
  | "role" => on Role.decode fun c => { role := some c }
  | "created" => on Instant.decode fun c => { created := some c }
  | "last_login" => on Instant.decode fun c => { lastLogin := some c }
  | "all" => some fun _ => .ok {}
  | _ => none

end UserCondition

/-- A filter on users. -/
abbrev UserFilter := Filter UserCondition

namespace UserFilter

def toJson (f : UserFilter) : Json := Filter.toJson UserCondition.toJson f

def decode : Json.Decoder UserFilter := Filter.decode UserCondition.decode

def decodeFromText : Json.Decoder UserFilter := Filter.decodeFromText UserCondition.decode

/-- A filter of one condition. -/
def only (w : UserCondition) : UserFilter := .condition w

end UserFilter

/-- What a client may ask of the list of users; all that is given has to hold. -/
structure UserQuery where
  username : Option String
  role : Option Role
  createdAfter : Option Instant
  createdBefore : Option Instant
  deriving DecidableEq

namespace UserQuery

/-- The conditions that were given, in the order of the fields. -/
def conditions (q : UserQuery) : List UserCondition :=
  (q.username.map fun v => { username := some (.eq v) : UserCondition }).toList ++
    (q.role.map fun v => { role := some (.eq v) : UserCondition }).toList ++
    (q.createdAfter.map fun v => { created := some (.gt v) : UserCondition }).toList ++
    (q.createdBefore.map fun v => { created := some (.lt v) : UserCondition }).toList

/-- The filter of a query: a single condition as it is, several joined by `and`, none at all for
none. -/
def filter? (q : UserQuery) : Option UserFilter :=
  match q.conditions with
  | [] => none
  | [w] => some (.condition w)
  | w :: rest => some (Filter.andAll (.condition w) (rest.map .condition))

def decode : Json.Decoder UserQuery :=
  Json.Fields.decode
    (UserQuery.mk <$> .optional "username" Json.decodeString
      <*> .optional "role" Role.decode
      <*> .optional "created_after" Instant.decode
      <*> .optional "created_before" Instant.decode)

end UserQuery

end AccountServer
