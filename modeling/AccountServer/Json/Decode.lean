import AccountServer.Json.Reader

/-!
# Typed values from JSON

A `Decoder α` reads an `α` from a value. What can go wrong is a `Fault`: the text is no JSON at
the place where something is wanted, or the value there does not fit.

Records are read from an object, whose members may stand in any order, or from an array of the
fields in their order. A record decoder looks at the members in the order of the text, so the
fault it reports is the first one; `Fields` describes what it looks for.

Variants are read from the name of the variant or from an object of one member, the name with the
payload.
-/

namespace AccountServer

namespace Json

/-- Why a typed value could not be read. -/
inductive Fault where
  /-- The text is not JSON here. -/
  | malformed
  /-- The value is of the wrong shape. -/
  | unfit
  deriving DecidableEq, Repr

/-- Reads a typed value. -/
abbrev Decoder (α : Type) := Json → Except Fault α

/-- The fault of finding this where something else is wanted. -/
def mismatch : Json → Fault
  | .broken | .refused => .malformed
  | _ => .unfit

/-! ## Plain values -/

def decodeString : Decoder String
  | .string s => .ok s
  | j => .error j.mismatch

def decodeBool : Decoder Bool
  | .bool b => .ok b
  | j => .error j.mismatch

/-- A whole number between the bounds. A number written with a point is none. -/
def decodeInt (low high : Int) : Decoder Int
  | .int n => if low ≤ n && n ≤ high then .ok n else .error .unfit
  | j => .error j.mismatch

/-- A natural number up to the bound. -/
def decodeNat (high : Nat) : Decoder Nat
  | .int n => if 0 ≤ n && n ≤ high then .ok n.toNat else .error .unfit
  | j => .error j.mismatch

/-- A double; whole numbers are taken too. -/
def decodeFloat : Decoder Binary64
  | .float x => .ok x
  | .int n => .ok (Binary64.ofInt n)
  | j => .error j.mismatch

/-- A value that may be `null`. -/
def decodeOption {α : Type} (decode : Decoder α) : Decoder (Option α)
  | .null => .ok none
  | j => (decode j).map some

def decodeList {α : Type} (decode : Decoder α) : Decoder (List α)
  | .array items => items.mapM decode
  | j => .error j.mismatch

/-- An object of any names; the last value of a name counts. -/
def decodeMap {α : Type} (decode : Decoder α) : Decoder (List (String × α))
  | .object members =>
    members.foldlM (fun done (name, j) => return insert done name (← decode j)) []
  | j => .error j.mismatch

/-- Text that has to be read further. -/
def decodeText {α : Type} (read : String → Option α) : Decoder α := fun j => do
  match read (← decodeString j) with
  | some a => .ok a
  | none => .error .unfit

/-- Any value at all, as long as it is one. -/
def decodeAny : Decoder Json := fun j => if j.isSound then .ok j else .error .malformed

/-- Passes over a value that nobody asked for. -/
def ignore : Decoder Unit := fun j => if j.isBroken then .error .malformed else .ok ()

/-! ## Records -/

/-- A decoder that only reports. -/
abbrev Check := Json → Except Fault Unit

/-- The fields of a record in their order, and how the record is put together from the values at
hand. `build` is told whether the values come from an array. -/
structure Fields (α : Type) where
  checks : List (String × Check)
  build : Bool → List (String × Json) → Except Fault α

namespace Fields

variable {α β : Type}

/-- A field that has to be there. -/
def required (name : String) (decode : Decoder α) : Fields α where
  checks := [(name, fun j => (decode j).map fun _ => ())]
  build := fun _ values =>
    match values.lookup name with
    | some j => decode j
    | none => .error .unfit

/-- A field with a value to fall back on. -/
def withDefault (name : String) (decode : Decoder α) (fallback : α) : Fields α where
  checks := [(name, fun j => (decode j).map fun _ => ())]
  build := fun _ values =>
    match values.lookup name with
    | some j => decode j
    | none => .ok fallback

/-- A field that may be `null`, and may be absent from an object but not from an array. -/
def optional (name : String) (decode : Decoder α) : Fields (Option α) where
  checks := [(name, fun j => (decodeOption decode j).map fun _ => ())]
  build := fun positional values =>
    match values.lookup name with
    | some j => decodeOption decode j
    | none => if positional then .error .unfit else .ok none

instance : Functor Fields where
  map f r := ⟨r.checks, fun positional values => (r.build positional values).map f⟩

/-- Two groups of fields, one behind the other. -/
def both (f : Fields (α → β)) (r : Unit → Fields α) : Fields β where
  checks := f.checks ++ (r ()).checks
  build := fun positional values => do
    let g ← f.build positional values
    let a ← (r ()).build positional values
    return g a

instance : Seq Fields := ⟨both⟩

/-- Checks the members from the first to the last. A known name must not come twice, and an
unknown one is passed over. -/
def checkMembers (checks : List (String × Check)) :
    List String → List (String × Json) → Except Fault Unit
  | _, [] => .ok ()
  | seen, (name, j) :: rest =>
    match checks.lookup name with
    | some check => do
      if seen.contains name then throw .unfit
      check j
      checkMembers checks (name :: seen) rest
    | none => do
      ignore j
      checkMembers checks seen rest

/-- Checks the items against the fields in order. Items too many are a mistake in a text. -/
def checkItems : List (String × Check) → List Json → Except Fault Unit
  | _, [] => .ok ()
  | [], _ :: _ => .error .malformed
  | (_, check) :: checks, j :: rest => do
    check j
    checkItems checks rest

/-- Reads the record from an object. -/
def ofObject (r : Fields α) (members : List (String × Json)) : Except Fault α := do
  checkMembers r.checks [] members
  r.build false members

/-- Reads the record from an array. When an item is missing that is said before anything about the
number of items. -/
def ofArray (r : Fields α) (items : List Json) : Except Fault α := do
  checkItems (r.checks) (items.take r.checks.length)
  let value ← r.build true ((r.checks.map Prod.fst).zip items)
  if r.checks.length < items.length then throw .malformed
  return value

/-- Reads the record from an object or from an array. -/
def decode (r : Fields α) : Decoder α
  | .object members => r.ofObject members
  | .array items => r.ofArray items
  | j => .error j.mismatch

/-- Checks the members of a record that takes members of any other name. -/
def checkOpenMembers (checks : List (String × Check)) :
    List String → List (String × Json) → Except Fault Unit
  | _, [] => .ok ()
  | seen, (name, j) :: rest =>
    match checks.lookup name with
    | some check => do
      if seen.contains name then throw .unfit
      check j
      checkOpenMembers checks (name :: seen) rest
    | none => do
      let _ ← decodeAny j
      checkOpenMembers checks seen rest

/-- The members that are none of the fields; the last one of a name counts. -/
def others (r : Fields α) (members : List (String × Json)) : List (String × Json) :=
  (members.filter fun (name, _) => (r.checks.lookup name).isNone).foldl
    (fun done (name, j) => insert done name j.lastWins) []

/-- Reads a record that keeps the members of other names. It is read from objects only. -/
def decodeOpen (r : Fields (List (String × Json) → α)) : Decoder α
  | .object members => do
    checkOpenMembers r.checks [] members
    let make ← r.build false members
    return make (r.others members)
  | j => .error j.mismatch

end Fields

/-! ## Variants -/

/-- Reads one of several variants: those of `plain` have no payload, the others decode theirs. -/
def decodeVariant {α : Type} (plain : List (String × α)) (carrying : List (String × Decoder α)) :
    Decoder α
  | .string name =>
    match plain.lookup name with
    | some a => .ok a
    | none => .error .unfit
  | .object ((name, payload) :: more) => do
    let value ←
      match plain.lookup name, carrying.lookup name with
      | some a, _ =>
        match payload with
        | .null => .ok a
        | _ => .error payload.mismatch
      | none, some decode => decode payload
      | none, none =>
        match name, payload with
        | "", .broken => .error .malformed
        | _, _ => .error .unfit
    if more.isEmpty then .ok value else .error .malformed
  | _ => .error .malformed

/-- A payload of two values. -/
def decodePair {α β : Type} (first : Decoder α) (second : Decoder β) : Decoder (α × β)
  | .array (a :: b :: more) => do
    let a ← first a
    let b ← second b
    if more.isEmpty then .ok (a, b) else .error .malformed
  | .array [a] => do
    let _ ← first a
    .error .unfit
  | j => .error j.mismatch

/-- Reads a text that holds one value and nothing else. -/
def decodeDocument {α : Type} (decode : Decoder α) (text : String) : Except Fault α := do
  let document := read text
  let value ← decode document.value
  if document.ends then .ok value else .error .malformed

end Json

end AccountServer
