import AccountServer.Number.Numeral

/-!
# Places in a text

A `Cursor` is a text from some place on, together with the line and the column of that place. A line
ends with a line feed, a carriage return, or both.
-/

namespace AccountServer.Yaml

def isBlank (c : Char) : Bool := c == ' ' || c == '\t'

def isBreak (c : Char) : Bool := c == '\n' || c == '\r'

/-- The characters with a meaning of their own in lists and mappings written in brackets. -/
def isFlow (c : Char) : Bool := [',', '[', ']', '{', '}'].contains c

/-- The characters of names of anchors. -/
def isNameChar (c : Char) : Bool := c.isAlphanum || c == '_' || c == '-'

/-- A place in a text. -/
structure Cursor where
  rest : List Char
  /-- How many characters stand in front. -/
  index : Nat := 0
  line : Nat := 0
  column : Nat := 0

namespace Cursor

/-- The character that is so many places ahead. -/
def peek? (c : Cursor) (ahead : Nat := 0) : Option Char := c.rest[ahead]?

/-- Whether the text ends here, or the character that is so many places ahead passes the test. -/
def isAt (c : Cursor) (test : Char → Bool) (ahead : Nat := 0) : Bool :=
  match c.peek? ahead with
  | some x => test x
  | none => true

/-- Whether a blank, the end of the line or the end of the text is so many places ahead. -/
def isGap (c : Cursor) (ahead : Nat := 0) : Bool := c.isAt (fun x => isBlank x || isBreak x) ahead

/-- Whether the line ends here. -/
def isLineEnd (c : Cursor) : Bool := c.isAt isBreak

/-- The place so many characters further on in the line. -/
def skip (c : Cursor) (n : Nat := 1) : Cursor :=
  { c with rest := c.rest.drop n, index := c.index + n, column := c.column + n }

/-- The beginning of the next line, from the end of this one. -/
def skipBreak (c : Cursor) : Cursor :=
  match c.rest with
  | '\r' :: '\n' :: rest => ⟨rest, c.index + 2, c.line + 1, 0⟩
  | x :: rest => if isBreak x then ⟨rest, c.index + 1, c.line + 1, 0⟩ else c
  | [] => c

/-- The characters from here on that pass the test, all in one line, and the place behind them. -/
def takeWhile (c : Cursor) (test : Char → Bool) : List Char × Cursor :=
  let taken := c.rest.takeWhile test
  (taken, c.skip taken.length)

/-- Passes over a comment, if there is one. -/
def skipComment (c : Cursor) : Cursor :=
  if c.peek? = some '#' then (c.takeWhile fun x => !isBreak x).2 else c

/-- Whether a line of three marks, hyphens or points, begins a new document or ends one. -/
def isMark (c : Cursor) (mark : Char) : Bool :=
  c.column = 0 && c.rest.take 3 = [mark, mark, mark] && c.isGap 3

/-- Whether a document begins or ends here. -/
def isBoundary (c : Cursor) : Bool := c.isMark '-' || c.isMark '.'

/-- Passes over blanks and line breaks. The answer holds the blanks in front of the first break and
the number of breaks. -/
def takeGap : Nat → Cursor → List Char × Nat × Cursor
  | 0, c => ([], 0, c)
  | fuel + 1, c =>
    let (blanks, c) := c.takeWhile isBlank
    if c.isLineEnd && !c.rest.isEmpty then
      let (_, breaks, c) := takeGap fuel c.skipBreak
      ([], breaks + 1, c)
    else (blanks, 0, c)

end Cursor

/-- What a gap inside a scalar stands for: blanks for themselves, one break for a blank, and several
for one less. -/
def folded (blanks : List Char) (breaks : Nat) : List Char :=
  match breaks with
  | 0 => blanks
  | 1 => [' ']
  | n + 1 => List.replicate n '\n'

end AccountServer.Yaml
