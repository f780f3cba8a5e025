import AccountServer.Filter.Order
import AccountServer.Text.Hex

/-!
# Identifiers

A `Uuid` is 128 bits. It is written as 32 lower case hexadecimal digits in groups of 8, 4, 4, 4
and 12 with hyphens between them. It is read in any letter case in that form, also in braces or
behind `urn:uuid:`, or as the 32 digits alone.
-/

namespace AccountServer

/-- An identifier of 128 bits. -/
structure Uuid where
  bits : BitVec 128
  deriving DecidableEq, Repr

namespace Uuid

/-- The identifier whose bits are all zero. -/
def nil : Uuid := ⟨0⟩

instance : Inhabited Uuid := ⟨nil⟩

/-- Identifiers compare byte by byte, which is the order of their bits as a number. -/
instance : PartialCompare Uuid := ⟨fun a b => some (compare a.bits.toNat b.bits.toNat)⟩

/-- The 32 digits. -/
def digits (id : Uuid) : List Char := Text.hexDigits 32 id.bits.toNat

/-- Puts hyphens between the groups of 32 digits. -/
def hyphenate (ds : List Char) : List Char :=
  ds.take 8 ++ '-' :: ((ds.drop 8).take 4 ++ '-' :: ((ds.drop 12).take 4 ++
    '-' :: ((ds.drop 16).take 4 ++ '-' :: ds.drop 20)))

/-- The hyphenated form. -/
def toText (id : Uuid) : String := String.ofList (hyphenate id.digits)

/-- The 32 digits without hyphens. -/
def simpleText (id : Uuid) : String := String.ofList id.digits

/-- The identifier of 32 hexadecimal digits. -/
def ofDigits? (ds : List Char) : Option Uuid :=
  if ds.length = 32 then (Text.hexNumber? ds).map fun n => ⟨BitVec.ofNat 128 n⟩ else none

/-- Takes the hyphens out of the hyphenated form; `none` when one is missing. -/
def unhyphenate? (cs : List Char) : Option (List Char) :=
  if cs.length = 36 && cs[8]? = some '-' && cs[13]? = some '-' && cs[18]? = some '-' &&
      cs[23]? = some '-' then
    some (cs.take 8 ++ (cs.drop 9).take 4 ++ (cs.drop 14).take 4 ++ (cs.drop 19).take 4 ++
      cs.drop 24)
  else none

/-- What stands in front of an identifier that is written as a name. -/
def urnMark : List Char := ['u', 'r', 'n', ':', 'u', 'u', 'i', 'd', ':']

/-- Whether a text begins as a name does, in any letter case. -/
def isUrn (cs : List Char) : Bool := (cs.take 9).map Char.toLower = urnMark

/-- Takes off the braces or the urn in front, each of which is told by the length of the text. -/
def unwrap? (cs : List Char) : Option (List Char) :=
  if cs.length = 36 then some cs
  else if cs.length = 38 && cs.head? = some '{' && cs.getLast? = some '}' then
    some (cs.tail.take 36)
  else if cs.length = 45 && isUrn cs then some (cs.drop 9)
  else none

/-- Reads an identifier in one of its forms. -/
def parse? (text : String) : Option Uuid :=
  let cs := text.toList
  if cs.length = 32 then ofDigits? cs
  else (unwrap? cs).bind unhyphenate? |>.bind ofDigits?

/-- The random identifier made of 128 random bits: version 4 in bits 76 to 79, variant 2 in bits
62 and 63. -/
def ofRandom (random : BitVec 128) : Uuid :=
  ⟨random.extractLsb' 80 48 ++ (4 : BitVec 4) ++ random.extractLsb' 64 12 ++ (2 : BitVec 2) ++
    random.extractLsb' 0 62⟩

end Uuid

end AccountServer
