import AccountServer.Json.Decode
import AccountServer.Number.Numeral
import AccountServer.Number.Shortest
import AccountServer.Number.Word
import AccountServer.Text.Lowercase

/-!
# How settings are read

Settings come as JSON, where every value has its type, and from files and variables, where a value
is taken for what is wanted if that is possible at all: `"9090"` for a number, `1` for a truth
value, `5` for a text. `SettingReader.strict` and `SettingReader.lenient` are these two manners; the
sections of a configuration can be read in either.
-/

namespace AccountServer

open Json

/-- How the parts of settings are read. -/
structure SettingReader where
  text : Decoder String
  flag : Decoder Bool
  /-- A number up to a bound. -/
  natural : Nat → Decoder Nat
  /-- One of several names. -/
  choice : {α : Type} → List (String × α) → Decoder α
  record : {α : Type} → Fields α → Decoder α

namespace SettingReader

/-- Every value has to be of the type that is wanted. -/
def strict : SettingReader where
  text := decodeString
  flag := decodeBool
  natural := decodeNat
  choice named := decodeVariant named []
  record := Fields.decode

/-! ## Taking values for what is wanted -/

/-- The text of a value without parts. -/
def lenientText : Decoder String
  | .string s => .ok s
  | .bool b => .ok (toString b)
  | .int n => .ok (toString n)
  | .float x => .ok x.toText
  | _ => .error .unfit

/-- The truth value of a word, in any case. -/
def wordFlag? (text : String) : Option Bool :=
  let word := Text.lowercase text
  if ["true", "on", "yes"].contains word then some true
  else if ["false", "off", "no"].contains word then some false
  else none

/-- The truth value of a value; a number is true if it is not zero. -/
def lenientFlag : Decoder Bool
  | .bool b => .ok b
  | .int n => .ok (n ≠ 0)
  | .float x => .ok (!x.isZero)
  | .string s =>
    match wordFlag? s with
    | some b => .ok b
    | none => if s = "1" then .ok true else if s = "0" then .ok false else .error .unfit
  | _ => .error .unfit

/-- The largest number of 64 bits. -/
def maxNatural : Nat := Word.max64

/-- The number of a value, if there is one. Numbers with a point are rounded and brought into the
range. -/
def lenientNatural? : Json → Option Int
  | .int n => some n
  | .bool b => some (if b then 1 else 0)
  | .float x => some (x.roundInto 0 maxNatural)
  | .string s =>
    match wordFlag? s with
    | some b => some (if b then 1 else 0)
    | none => Numeral.integer? 10 0 maxNatural s.toList
  | _ => none

/-- The number of a value, up to a bound. -/
def lenientNatural (high : Nat) : Decoder Nat := fun j =>
  match lenientNatural? j with
  | some n => if 0 ≤ n && n ≤ high then .ok n.toNat else .error .unfit
  | none => .error .unfit

/-- What a name in any case stands for. -/
def named? {α : Type} (named : List (String × α)) (text : String) : Except Fault α :=
  match named.find? fun (name, _) => Text.lowercase name = Text.lowercase text with
  | some (_, a) => .ok a
  | none => .error .unfit

/-- What a name stands for; it may also be the name of the only member of an object. -/
def lenientChoice {α : Type} (named : List (String × α)) : Decoder α
  | .string s => named? named s
  | .object [(name, _)] => named? named name
  | _ => .error .unfit

/-- A record, from whose array items too many do no harm. -/
def lenientRecord {α : Type} (fields : Fields α) : Decoder α
  | .array items => fields.decode (.array (items.take fields.checks.length))
  | j => fields.decode j

/-- Values are taken for what is wanted. -/
def lenient : SettingReader where
  text := lenientText
  flag := lenientFlag
  natural := lenientNatural
  choice := lenientChoice
  record := lenientRecord

end SettingReader

end AccountServer
