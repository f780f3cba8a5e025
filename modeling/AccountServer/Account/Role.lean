import AccountServer.Json.Decode
import AccountServer.Text.Blank

/-!
# Roles

Four access levels, ordered from `guest` to `admin`. A store keeps a role as a number. Its name is
lower case; `parse` takes any case, JSON only the name itself.
-/

namespace AccountServer

/-- The access level of a user. -/
inductive Role where
  | guest
  | unverified
  | normal
  | admin
  deriving DecidableEq, Repr

namespace Role

/-- New users are `normal` unless said otherwise. -/
instance : Inhabited Role := ⟨.normal⟩

/-- The number a store keeps. -/
def value : Role → Int
  | .guest => 0
  | .unverified => 1
  | .normal => 2
  | .admin => 100

/-- The role of a stored number. -/
def ofValue? (n : Int) : Option Role :=
  if n = 0 then some .guest
  else if n = 1 then some .unverified
  else if n = 2 then some .normal
  else if n = 100 then some .admin
  else none

/-- Roles compare by access level, which is also the order of their numbers. -/
instance : PartialCompare Role := ⟨fun a b => some (compare a.value b.value)⟩

def name : Role → String
  | .guest => "guest"
  | .unverified => "unverified"
  | .normal => "normal"
  | .admin => "admin"

/-- All roles under their names. -/
def named : List (String × Role) :=
  [("guest", .guest), ("unverified", .unverified), ("normal", .normal), ("admin", .admin)]

/-- The role of a name in any case, or else the name in lower case. -/
def parse (text : String) : Except String Role :=
  let lower := Text.lowerAscii text
  match named.lookup lower with
  | some role => .ok role
  | none => .error lower

/-- What is said of a name that is no role. -/
def unknownMessage (lower : String) : String := "unknown role '" ++ lower ++ "'"

def toJson (r : Role) : Json := .string r.name

def decode : Json.Decoder Role := Json.decodeVariant named []

end Role

end AccountServer
