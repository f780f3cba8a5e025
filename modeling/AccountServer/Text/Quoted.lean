import AccountServer.Text.Hex
import AccountServer.Text.Printable

/-!
# Quoted text

The form in which a message shows a text that a client sent: between double quotes, with a
backslash in front of quotes and backslashes, and with every character that would not show, or
would change the one before it, written by its code point.
-/

namespace AccountServer.Text

/-- One character of a quoted text. -/
def quotedChar (c : Char) : List Char :=
  match c with
  | '"' => ['\\', '"']
  | '\\' => ['\\', '\\']
  | '\n' => ['\\', 'n']
  | '\r' => ['\\', 'r']
  | '\t' => ['\\', 't']
  | '\x00' => ['\\', '0']
  | c =>
    if isPrintable c && !isExtending c then [c]
    else '\\' :: 'u' :: '\x7b' :: (hex c.toNat ++ ['\x7d'])

/-- The text between quotes. -/
def quoted (s : String) : String :=
  String.ofList ('"' :: (s.toList.flatMap quotedChar ++ ['"']))

end AccountServer.Text
