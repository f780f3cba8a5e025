import AccountServer.Uuid

/-!
# Texts that are no identifier

`Uuid.Fault` says what is wrong with a text that `Uuid.parse?` refuses: the first character that
belongs to no identifier, or else the number of digits or groups.
-/

namespace AccountServer.Uuid

/-- Why a text is no identifier. -/
inductive Fault where
  /-- A character that is neither digit nor hyphen, and its byte position counted from 1. -/
  | character (found : Char) (position : Nat)
  /-- No hyphens, and not 32 digits. -/
  | length (found : Nat)
  /-- Not five groups. -/
  | groupCount (found : Nat)
  /-- A group that is too short or too long; groups are counted from 0. -/
  | groupLength (group found : Nat)
  deriving DecidableEq, Repr

namespace Fault

/-- What is said about it. -/
def message : Fault → String
  | .character found position =>
    "invalid character: found `" ++ String.singleton found ++ "` at " ++ toString position
  | .length found => "invalid length: found " ++ toString found
  | .groupCount found => "invalid group count: found " ++ toString found
  | .groupLength group found =>
    "invalid group length in group " ++ toString group ++ ": found " ++ toString found

/-- The inner part of a text, the bytes in front of it, and whether nothing was around it. -/
def unwrapped (cs : List Char) : List Char × Nat × Bool :=
  if isUrn cs then (cs.drop 9, 9, false)
  else if cs.head? = some '{' && cs.getLast? = some '}' && 1 < cs.length then
    ((cs.drop 1).dropLast, 1, false)
  else (cs, 0, true)

/-- The first character that belongs to no identifier, with its byte position. -/
def firstStrange? (position : Nat) : List Char → Option (Char × Nat)
  | [] => none
  | c :: rest =>
    if c = '-' || (Text.hexValue? c).isSome then firstStrange? (position + c.utf8Size) rest
    else some (c, position)

/-- The byte positions of the hyphens. -/
def hyphens (cs : List Char) : List Nat :=
  (cs.zipIdx.filter fun (c, _) => c = '-').map Prod.snd

/-- Where the groups begin in a well formed text. -/
def groupStarts : List Nat := [0, 9, 14, 19, 24]

/-- The first of the four hyphens that stands in a wrong place gives away the length of the group
in front of it. -/
def misplaced? (places : List Nat) : Option (Nat × Nat) :=
  ((places.zip (groupStarts.zip (groupStarts.drop 1))).zipIdx.find? fun ((place, _, next), _) =>
    place + 1 ≠ next).map fun ((place, start, _), group) => (group, place - start)

/-- What is wrong with a text that is no identifier. -/
def of (text : String) : Fault :=
  let cs := text.toList
  let (inner, offset, bare) := unwrapped cs
  match firstStrange? (offset + 1) inner with
  | some (c, position) => .character c position
  | none =>
    let places := hyphens inner
    if places.isEmpty && bare then .length cs.length
    else if places.length ≠ 4 then .groupCount (places.length + 1)
    else
      match misplaced? places with
      | some (group, found) => .groupLength group found
      | none => .groupLength 4 (cs.length - 24)

end Fault

end AccountServer.Uuid
