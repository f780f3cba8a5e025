import AccountServer.Json.Basic
import AccountServer.Number.Shortest
import AccountServer.Text.Hex

/-!
# Writing JSON

The compact form: no blanks, members in the order they have, and every character as it is except
the quote, the backslash and the control characters below the space.
-/

namespace AccountServer

namespace Json

/-- One character inside a string. -/
def escape (c : Char) : List Char :=
  match c with
  | '"' => ['\\', '"']
  | '\\' => ['\\', '\\']
  | '\x08' => ['\\', 'b']
  | '\t' => ['\\', 't']
  | '\n' => ['\\', 'n']
  | '\x0c' => ['\\', 'f']
  | '\r' => ['\\', 'r']
  | c => if c.toNat < 0x20 then '\\' :: 'u' :: Text.hexDigits 4 c.toNat else [c]

/-- A quoted string. -/
def quote (s : String) : List Char := '"' :: (s.toList.flatMap escape ++ ['"'])

/-- A floating point number, with a point even when it is whole. -/
def floatChars (x : Binary64) : List Char :=
  if x.isFinite then
    let text := x.toText.toList
    if text.contains '.' then text else text ++ ['.', '0']
  else ['n', 'u', 'l', 'l']

mutual

/-- The text of a value. -/
def chars : Json → List Char
  | .null | .broken | .refused => ['n', 'u', 'l', 'l']
  | .bool true => ['t', 'r', 'u', 'e']
  | .bool false => ['f', 'a', 'l', 's', 'e']
  | .int n => (toString n).toList
  | .float x => floatChars x
  | .string s => quote s
  | .array [] => ['[', ']']
  | .array (j :: rest) => '[' :: (j.chars ++ itemChars rest)
  | .object [] => ['{', '}']
  | .object ((name, j) :: rest) => '{' :: (quote name ++ ':' :: (j.chars ++ memberChars rest))

/-- The items after the first one, and the closing bracket. -/
def itemChars : List Json → List Char
  | [] => [']']
  | j :: rest => ',' :: (j.chars ++ itemChars rest)

/-- The members after the first one, and the closing brace. -/
def memberChars : List (String × Json) → List Char
  | [] => ['}']
  | (name, j) :: rest => ',' :: (quote name ++ ':' :: (j.chars ++ memberChars rest))

end

/-- The text of a value. -/
def text (j : Json) : String := String.ofList j.chars

end Json

end AccountServer
