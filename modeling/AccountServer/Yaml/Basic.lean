import AccountServer.Number.Numeral
import AccountServer.Number.Word

/-!
# YAML values

A plain scalar stands for a number, a truth value or nothing if it is written like one, and
otherwise for itself as text; `Yaml.ofPlain` decides. A number with a point keeps its text.
-/

namespace AccountServer

/-- A YAML value. -/
inductive Yaml where
  | null
  | bool (value : Bool)
  | int (value : Int)
  | real (text : String)
  | string (text : String)
  | sequence (items : List Yaml)
  | mapping (members : List (Yaml × Yaml))
  deriving Inhabited

namespace Yaml

/-- A whole number of 64 bits. -/
def integer? (base : Nat) (cs : List Char) : Option Int :=
  Numeral.integer? base Word.minInt64 Word.maxInt64 cs

/-- The whole number that a plain scalar is written like: hexadecimal, octal or decimal. -/
def plainInteger? (text : String) : Option Int :=
  match text.toList with
  | '0' :: 'x' :: rest => integer? 16 rest
  | '0' :: 'o' :: rest => integer? 8 rest
  | '+' :: rest => integer? 10 rest
  | cs => integer? 10 cs

/-- Spellings of the numbers that have no digits. -/
def specials : List String :=
  [".inf", ".Inf", ".INF", "+.inf", "+.Inf", "+.INF", "-.inf", "-.Inf", "-.INF", ".nan", ".NAN"]

/-- Whether a plain scalar is written like a number with a point. -/
def isReal (text : String) : Bool :=
  specials.contains text || (Numeral.real? text.toList).isSome

/-- What a plain scalar stands for. -/
def ofPlain (text : String) : Yaml :=
  match plainInteger? text with
  | some n => .int n
  | none =>
    if text = "~" || text = "null" then .null
    else if text = "true" then .bool true
    else if text = "false" then .bool false
    else if isReal text then .real text
    else .string text

/-- What a plain scalar stands for whose type is given by name. Nothing comes of one that does not
fit its type. -/
def ofTyped (type text : String) : Yaml :=
  match type with
  | "bool" => if text = "true" then .bool true else if text = "false" then .bool false else .null
  | "int" => ((integer? 10 text.toList).map Yaml.int).getD .null
  | "float" => if isReal text then .real text else .null
  | "null" => .null
  | _ => .string text

/-- Puts a member into a mapping, in place of an earlier one with the same text as its key. -/
def insert (members : List (Yaml × Yaml)) (key value : Yaml) : List (Yaml × Yaml) :=
  match members with
  | [] => [(key, value)]
  | (other, old) :: rest =>
    let same := match other, key with
      | .string a, .string b => a == b
      | .int a, .int b => a == b
      | _, _ => false
    if same then (other, value) :: rest else (other, old) :: insert rest key value

end Yaml

end AccountServer
