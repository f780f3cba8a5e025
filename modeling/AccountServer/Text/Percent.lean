import AccountServer.Text.Hex
import AccountServer.Text.Split
import AccountServer.Text.Utf8

/-!
# Percent encoding

In a path or a query a byte may be written as a percent sign and two hexadecimal digits. A percent
sign without digits behind it stands for itself. `formPairs` reads the names and values of a query
string.
-/

namespace AccountServer.Text

/-- The byte that is encoded by a byte and those behind it. -/
def escaped? (b : UInt8) : List UInt8 → Option UInt8
  | high :: low :: _ => do
    if b ≠ 0x25 then none
    else
      let h ← hexValue? (Char.ofNat high.toNat)
      let l ← hexValue? (Char.ofNat low.toNat)
      return .ofNat (h * 16 + l)
  | _ => none

/-- The bytes that an encoded text stands for. -/
def percentDecode : List UInt8 → List UInt8
  | [] => []
  | b :: rest =>
    match escaped? b rest with
    | some byte => byte :: percentDecode (rest.drop 2)
    | none => b :: percentDecode rest
  termination_by bytes => bytes.length
  decreasing_by all_goals (simp_wf; try omega)

/-- The text that an encoded one stands for, if it is one. -/
def percentText? (cs : List Char) : Option String :=
  (decode? (percentDecode (utf8 cs))).map String.ofList

/-- A name or a value in a query, in which a plus sign stands for a blank. -/
def formText (cs : List Char) : String :=
  String.ofList (decodeLossy (percentDecode (utf8 (cs.map fun c => if c = '+' then ' ' else c))))

/-- The name and the value of a part of a query; the first equals sign divides them. -/
def formPair (cs : List Char) : String × String :=
  match splitFirst '=' cs with
  | some (name, value) => (formText name, formText value)
  | none => (formText cs, "")

/-- The names and values of a query, in their order. Empty parts do not count. -/
def formPairs (query : String) : List (String × String) :=
  ((splitAll '&' query.toList).filter fun part => !part.isEmpty).map formPair

end AccountServer.Text
