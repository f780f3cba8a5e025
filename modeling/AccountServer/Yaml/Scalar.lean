import AccountServer.Yaml.Cursor

/-!
# Reading scalars

A scalar is written in quotes, as a block below a `|` or a `>`, or plainly. Each reader answers the
text and the place behind it; `none` stands for a mistake. Every round of a reader takes a character
at least, so `fuel` need not exceed the length of the text.
-/

namespace AccountServer.Yaml

/-! ## In quotes -/

/-- The characters behind a backslash that stand for one character. -/
def escapes : List (Char × Char) :=
  [('0', '\x00'), ('a', '\x07'), ('b', '\x08'), ('t', '\t'), ('\t', '\t'), ('n', '\n'),
   ('v', '\x0b'), ('f', '\x0c'), ('r', '\r'), ('e', '\x1b'), (' ', ' '), ('"', '"'),
   ('\'', '\''), ('\\', '\\'), ('N', '\u0085'), ('_', '\u00a0'), ('L', '\u2028'),
   ('P', '\u2029')]

/-- The characters behind a backslash that announce so many hexadecimal digits. -/
def numbered : List (Char × Nat) := [('x', 2), ('u', 4), ('U', 8)]

/-- The character with a number, if there is one. -/
def charOf? (n : Nat) : Option Char := if n.isValidChar then some (Char.ofNat n) else none

/-- Reads an escape; the cursor is at the backslash. -/
def escape? (c : Cursor) : Option (Char × Cursor) := do
  let letter ← c.peek? 1
  match escapes.lookup letter, numbered.lookup letter with
  | some x, _ => return (x, c.skip 2)
  | none, some length =>
    let digits := (c.skip 2).rest.take length
    if digits.length < length then none
    else return (← charOf? (← Numeral.natural? 16 digits), c.skip (2 + length))
  | none, none => none

/-- Reads on in quotes, up to and with the closing one. `done` is the text so far in reverse. -/
def quoted (single : Bool) : Nat → List Char → Cursor → Option (List Char × Cursor)
  | 0, _, _ => none
  | fuel + 1, done, c => do
    if c.isBoundary then none
    let x ← c.peek?
    if single && x = '\'' then
      if c.peek? 1 = some '\'' then quoted single fuel ('\'' :: done) (c.skip 2)
      else some (done.reverse, c.skip)
    else if !single && x = '"' then some (done.reverse, c.skip)
    else if !single && x = '\\' then
      if (c.peek? 1).any isBreak then
        let (_, breaks, c) := (c.skip.skipBreak).takeGap fuel
        quoted single fuel (List.replicate breaks '\n' ++ done) c
      else
        let (x, c) ← escape? c
        quoted single fuel (x :: done) c
    else if isBlank x || isBreak x then
      let (blanks, breaks, c) := c.takeGap fuel
      quoted single fuel ((folded blanks breaks).reverse ++ done) c
    else quoted single fuel (x :: done) c.skip

/-! ## Plainly -/

/-- Whether a plain scalar goes on at a character that is no gap. -/
def goesOn (inFlow : Bool) (c : Cursor) : Bool :=
  match c.peek? with
  | none => false
  | some x =>
    if x = ':' then !(c.isGap 1 || (inFlow && (c.peek? 1).any isFlow))
    else !(inFlow && isFlow x)

/-- Reads on in a plain scalar, whose lines have to begin at the column `indent` or behind. `gap` is
what stands between the text so far and this place. The answer says too whether the scalar was left
at the beginning of a line. -/
def plain (inFlow : Bool) (indent : Nat) :
    Nat → List Char → List Char → Bool → Cursor → Option (List Char × Bool × Cursor)
  | 0, done, _, fresh, c => some (done.reverse, fresh, c)
  | fuel + 1, done, gap, fresh, c =>
    if c.isGap then
      let (blanks, breaks, next) := c.takeGap fuel
      if next.index = c.index then some (done.reverse, fresh, c)
      else
        let fresh := breaks ≠ 0
        if (!inFlow && next.column < indent) || next.isBoundary || next.peek? = some '#' then
          some (done.reverse, fresh, next)
        else plain inFlow indent fuel done ((folded blanks breaks).reverse ++ gap) fresh next
    else if goesOn inFlow c then
      match c.peek? with
      | some x => plain inFlow indent fuel (x :: (gap ++ done)) [] false c.skip
      | none => some (done.reverse, fresh, c)
    else some (done.reverse, fresh, c)

/-! ## As a block -/

/-- What becomes of the line breaks at the end of a block. -/
inductive Chomping where
  | strip
  | clip
  | keep
  deriving DecidableEq, Repr

/-- The head of a block: how it ends, and by how much it is indented if that is said. -/
def blockHead (c : Cursor) : Option (Chomping × Option Nat × Cursor) :=
  let mark (c : Cursor) : Option Chomping :=
    match c.peek? with
    | some '+' => some .keep
    | some '-' => some .strip
    | _ => none
  let digit (c : Cursor) : Option Nat := (c.peek?.bind (Numeral.digitValue? 10))
  let (chomping, c) := match mark c with
    | some m => (some m, c.skip)
    | none => (none, c)
  let (increment, c) := match digit c with
    | some n => (some n, c.skip)
    | none => (none, c)
  let (chomping, c) := match chomping, increment, mark c with
    | none, some _, some m => (some m, c.skip)
    | chomping, _, _ => (chomping, c)
  let c := ((c.takeWhile isBlank).2).skipComment
  if increment = some 0 || !c.isLineEnd then none
  else some (chomping.getD .clip, increment, c.skipBreak)

/-- Passes over empty lines and over the indentation of the next line, which has `indent` columns if
that is known. The answer holds the number of empty lines and the deepest indentation. -/
def blockGap (indent : Option Nat) : Nat → Nat → Cursor → Option (Nat × Nat × Cursor)
  | 0, _, _ => none
  | fuel + 1, deepest, c =>
    let room := match indent with
      | some n => n - c.column
      | none => c.rest.length
    let c := c.skip ((c.rest.take room).takeWhile (· == ' ')).length
    let deepest := max deepest c.column
    if indent.all (c.column < ·) && c.peek? = some '\t' then none
    else if c.isLineEnd && !c.rest.isEmpty then do
      let (lines, deepest, c) ← blockGap indent fuel deepest c.skipBreak
      return (lines + 1, deepest, c)
    else some (0, deepest, c)

/-- Reads the lines of a block. `pending` are the line breaks behind the text so far: whether a line
was read, and how many empty ones came after it. `flush` says whether the last line began with a
blank. -/
def blockLines (literal : Bool) (indent : Nat) :
    Nat → List Char → Bool × Nat → Bool → Cursor → Option (List Char × (Bool × Nat) × Cursor)
  | 0, _, _, _, _ => none
  | fuel + 1, done, (broken, empty), flush, c =>
    if c.column ≠ indent || c.rest.isEmpty then some (done, (broken, empty), c)
    else do
      let blank := c.peek?.any isBlank
      let joint :=
        if !broken then []
        else if literal || flush || blank then ['\n']
        else if empty = 0 then [' ']
        else []
      let (line, c) := c.takeWhile fun x => !isBreak x
      let done := line.reverse ++ List.replicate empty '\n' ++ joint ++ done
      if c.rest.isEmpty then some (done, (false, 0), c)
      else
        let (empty, _, c) ← blockGap (some indent) fuel 0 c.skipBreak
        blockLines literal indent fuel done (true, empty) blank c

/-- Reads a block scalar behind its mark. `outer` is the column of the block around it, -1 if there
is none. -/
def block (literal : Bool) (outer : Int) (c : Cursor) : Option (List Char × Cursor) := do
  let fuel := c.rest.length + 1
  let (chomping, increment, c) ← blockHead c
  let known := increment.map fun n => (max outer 0).toNat + n
  let (empty, deepest, c) ← blockGap known fuel 0 c
  let indent := known.getD (max deepest (max (outer + 1).toNat 1))
  let (done, (broken, empty), c) ← blockLines literal indent fuel [] (false, empty) false c
  let ending := match chomping with
    | .strip => []
    | .clip => if broken then ['\n'] else []
    | .keep => (if broken then ['\n'] else []) ++ List.replicate empty '\n'
  return ((ending ++ done).reverse, c)

end AccountServer.Yaml
