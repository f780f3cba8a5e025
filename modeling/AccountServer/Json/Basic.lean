import AccountServer.Number.Binary64

/-!
# JSON values

Numbers are kept apart by how they were written: a whole number in the range of 64 bits is an
`int`, everything else is a `float`.

Two constructors stand for text that is not a value. A reader that meets a mistake closes the
open lists and objects with `broken`, so that what was read before the mistake can still be looked
at in order. `refused` stands for a stretch of text that can be passed over but not read: a
string with half a surrogate pair, or a number too large for a double.
-/

namespace AccountServer

/-- A JSON value, or what a reader made of a text. -/
inductive Json where
  | null
  | bool (value : Bool)
  | int (value : Int)
  | float (value : Binary64)
  | string (value : String)
  | array (items : List Json)
  | object (members : List (String × Json))
  /-- Where a text stops being JSON. A member whose name could not be read has the name "". -/
  | broken
  /-- Well formed, but without a value. -/
  | refused

namespace Json

instance : Inhabited Json := ⟨.null⟩

mutual

/-- Whether the text broke off somewhere inside. -/
def isBroken : Json → Bool
  | .broken => true
  | .array items => anyBroken items
  | .object members => anyMemberBroken members
  | _ => false

/-- Whether some item of the list is broken. -/
def anyBroken : List Json → Bool
  | [] => false
  | j :: rest => j.isBroken || anyBroken rest

/-- Whether some member of the list is broken. -/
def anyMemberBroken : List (String × Json) → Bool
  | [] => false
  | (_, j) :: rest => j.isBroken || anyMemberBroken rest

end

mutual

/-- Whether the value has neither breaks nor refused parts. -/
def isSound : Json → Bool
  | .broken | .refused => false
  | .array items => allSound items
  | .object members => allMembersSound members
  | _ => true

/-- Whether every item of the list is sound. -/
def allSound : List Json → Bool
  | [] => true
  | j :: rest => j.isSound && allSound rest

/-- Whether every member of the list is sound. -/
def allMembersSound : List (String × Json) → Bool
  | [] => true
  | (_, j) :: rest => j.isSound && allMembersSound rest

end

mutual

/-- The number of levels, a value without parts being one. -/
def depth : Json → Nat
  | .array items => depthAll items + 1
  | .object members => depthMembers members + 1
  | _ => 1

/-- The depth of the deepest item. -/
def depthAll : List Json → Nat
  | [] => 0
  | j :: rest => max j.depth (depthAll rest)

/-- The depth of the deepest member. -/
def depthMembers : List (String × Json) → Nat
  | [] => 0
  | (_, j) :: rest => max j.depth (depthMembers rest)

end

/-- Puts a value under a name, in place of an earlier one. -/
def insert {α : Type} (members : List (String × α)) (name : String) (value : α) :
    List (String × α) :=
  match members with
  | [] => [(name, value)]
  | (key, old) :: rest =>
    if key = name then (key, value) :: rest else (key, old) :: insert rest name value

mutual

/-- Keeps the last of several members of one name, everywhere. -/
def lastWins : Json → Json
  | .array items => .array (lastWinsAll items)
  | .object members => .object (lastWinsMembers members [])
  | j => j

/-- Keeps the last of several members in every item. -/
def lastWinsAll : List Json → List Json
  | [] => []
  | j :: rest => j.lastWins :: lastWinsAll rest

/-- Moves the members over to `done`, a later one replacing an earlier one of its name. -/
def lastWinsMembers (members : List (String × Json)) (done : List (String × Json)) :
    List (String × Json) :=
  match members with
  | [] => done
  | (name, j) :: rest => lastWinsMembers rest (insert done name j.lastWins)

end

/-- The member of a name, if the value is an object that has one. -/
def get? : Json → String → Option Json
  | .object members, name => members.lookup name
  | _, _ => none

/-- Text as a value. -/
def ofString (s : String) : Json := .string s

/-- The value, or `null` for none. -/
def ofOption {α : Type} (toJson : α → Json) : Option α → Json
  | some a => toJson a
  | none => .null

end Json

end AccountServer
