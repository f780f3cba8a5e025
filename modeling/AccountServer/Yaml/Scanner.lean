import AccountServer.Yaml.Scalar

/-!
# Tokens

A YAML text is cut into tokens, among them those that stand for a change of indentation. Whether a
scalar is a key is seen only when the colon behind it is reached; so a place for tokens is kept in
front of everything that could be a key, and filled if the colon comes in the same line.
-/

namespace AccountServer.Yaml

/-- A piece of a YAML text. -/
inductive Token where
  | directive
  | documentStart
  | documentEnd
  | blockSequenceStart
  | blockMappingStart
  | blockEnd
  | flowSequenceStart
  | flowSequenceEnd
  | flowMappingStart
  | flowMappingEnd
  /-- The hyphen in front of an item. -/
  | entry
  | comma
  | key
  | value
  | alias (name : List Char)
  | anchor (name : List Char)
  | tag (handle suffix : List Char)
  | scalar (isPlain : Bool) (text : String)
  deriving DecidableEq, Repr

/-- Something that could turn out to be a key. -/
structure Candidate where
  /-- Which of the places for tokens was kept for it. -/
  place : Nat
  index : Nat
  line : Nat
  column : Nat
  /-- Whether it has to be a key. -/
  required : Bool

/-- The state of the scanner. -/
structure Scan where
  cursor : Cursor
  /-- The tokens so far, and the places that were kept. -/
  places : Array (List Token) := #[]
  /-- The column of the innermost block, -1 outside of all. -/
  indent : Int := -1
  /-- The columns of the blocks around it. -/
  outer : List Int := []
  /-- Whether a key may begin here. -/
  keyAllowed : Bool := true
  /-- The candidate of the block, and those of the open brackets, the innermost first. -/
  candidates : List (Option Candidate) := [none]
  /-- Behind which place a colon needs no blank. -/
  adjacent : Option Nat := none

namespace Scan

/-- Whether the place is inside of brackets. -/
def inFlow (s : Scan) : Bool := 1 < s.candidates.length

def push (s : Scan) (t : Token) : Scan := { s with places := s.places.push [t] }

/-- Puts out a token of so many characters. -/
def take (s : Scan) (t : Token) (length : Nat := 1) : Scan :=
  { s.push t with cursor := s.cursor.skip length }

def allowKey (s : Scan) (allowed : Bool) : Scan := { s with keyAllowed := allowed }

/-- Replaces the innermost candidate. -/
def setCandidate (s : Scan) (candidate : Option Candidate) : Scan :=
  { s with candidates := candidate :: s.candidates.tail }

/-- The innermost candidate. -/
def candidate? (s : Scan) : Option Candidate := s.candidates.head?.join

/-- Gives up the innermost candidate, which is a mistake if it has to be a key. -/
def dropCandidate (s : Scan) : Option Scan :=
  if s.candidate?.any (·.required) then none else some (s.setCandidate none)

/-- Makes what comes a candidate, if a key may begin here. -/
def saveCandidate (s : Scan) : Option Scan :=
  if s.keyAllowed then do
    let required := s.inFlow && s.indent = s.cursor.column
    let s ← s.dropCandidate
    let candidate : Candidate :=
      ⟨s.places.size, s.cursor.index, s.cursor.line, s.cursor.column, required⟩
    return { s.setCandidate (some candidate) with places := s.places.push [] }
  else some s

/-- Gives up the candidates that are in an earlier line or too far away. -/
def dropStale (s : Scan) : Option Scan := do
  let candidates ← s.candidates.mapM fun
    | none => some none
    | some c =>
      if c.line < s.cursor.line || c.index + 1024 < s.cursor.index then
        if c.required then none else some none
      else some (some c)
  return { s with candidates }

/-- Opens a block at a column, if that is further in than the innermost one. The token stands at a
place that was kept, or at the end. -/
def openBlock (s : Scan) (column : Nat) (t : Token) : Scan :=
  if s.inFlow || (column : Int) ≤ s.indent then s
  else { s.push t with outer := s.indent :: s.outer, indent := column }

/-- Closes the blocks that are further in than a column. -/
def closeBlocks (column : Int) : List Int → Scan → Scan
  | [], s => s
  | around :: outer, s =>
    if s.inFlow || s.indent ≤ column then s
    else closeBlocks column outer { s.push .blockEnd with indent := around, outer }

/-- Closes the blocks that are further in than a column. -/
def closeTo (s : Scan) (column : Int) : Scan := closeBlocks column s.outer s

/-- Passes over blanks, comments and line breaks. In a block a key may begin in a new line. -/
def skipGap : Nat → Scan → Scan
  | 0, s => s
  | fuel + 1, s =>
    match s.cursor.peek? with
    | some '\n' | some '\r' =>
      skipGap fuel { s with cursor := s.cursor.skipBreak, keyAllowed := s.keyAllowed || !s.inFlow }
    | some '#' => skipGap fuel { s with cursor := s.cursor.skipComment }
    | some x =>
      if x = ' ' || (x = '\t' && (s.inFlow || !s.keyAllowed)) then
        skipGap fuel { s with cursor := s.cursor.skip }
      else s
    | none => s

/-! ## Single tokens -/

/-- A mark between documents. -/
def boundary (s : Scan) (t : Token) : Option Scan := do
  let s ← (s.closeTo (-1)).dropCandidate
  return (s.allowKey false).take t 3

/-- A line with a percent sign. -/
def directive (s : Scan) : Option Scan := do
  let s ← (s.closeTo (-1)).dropCandidate
  return { (s.allowKey false).push .directive with
    cursor := (s.cursor.takeWhile fun x => !isBreak x).2 }

def openBracket (s : Scan) (t : Token) : Option Scan := do
  let s ← s.saveCandidate
  return ({ s with candidates := none :: s.candidates }.allowKey true).take t

def closeBracket (s : Scan) (t : Token) : Option Scan := do
  let s ← s.dropCandidate
  let candidates := if s.inFlow then s.candidates.tail else s.candidates
  return ({ s with candidates }.allowKey false).take t

def comma (s : Scan) : Option Scan := do
  let s ← s.dropCandidate
  return (s.allowKey true).take .comma

/-- The hyphen in front of an item. -/
def entry (s : Scan) : Option Scan :=
  if s.inFlow || !s.keyAllowed then none
  else do
    let s ← (s.openBlock s.cursor.column .blockSequenceStart).dropCandidate
    return (s.allowKey true).take .entry

/-- The question mark in front of a key. -/
def key (s : Scan) : Option Scan :=
  if !s.inFlow && !s.keyAllowed then none
  else do
    let s ← (s.openBlock s.cursor.column .blockMappingStart).dropCandidate
    return (s.allowKey (!s.inFlow)).take .key

/-- The colon behind a key. -/
def value (s : Scan) : Option Scan :=
  match s.candidate? with
  | some c =>
    let opens := !s.inFlow && s.indent < c.column
    let kept := if opens then [.blockMappingStart, .key] else [.key]
    let s := { s with places := s.places.setIfInBounds c.place kept }
    let s := if opens then { s with outer := s.indent :: s.outer, indent := c.column } else s
    some (((s.setCandidate none).allowKey false).take .value)
  | none =>
    if !s.inFlow && !s.keyAllowed then none
    else
      let s := s.openBlock s.cursor.column .blockMappingStart
      some ((s.allowKey (!s.inFlow)).take .value)

/-- The name of an anchor, behind its mark. -/
def named (s : Scan) (make : List Char → Token) : Option Scan := do
  let s ← s.saveCandidate
  let (name, cursor) := s.cursor.skip.takeWhile isNameChar
  if name.isEmpty || !(cursor.isGap || cursor.isAt "?:,]\x7d%@`".toList.contains) then none
  else return { (s.allowKey false).push (make name) with cursor }

/-- Whether a character may stand in the name of a type. -/
def isTagChar (x : Char) : Bool := isNameChar x || ";/?:@&=+$,.!~*'()[]%".toList.contains x

/-- The name of a type. -/
def tag (s : Scan) : Option Scan := do
  let s ← s.saveCandidate
  let cursor := s.cursor.skip
  let (handle, suffix, cursor) ←
    if cursor.peek? = some '<' then
      let (name, cursor) := cursor.skip.takeWhile isTagChar
      if cursor.peek? = some '>' then some ([], name, cursor.skip) else none
    else
      let (name, after) := cursor.takeWhile isNameChar
      if after.peek? = some '!' then
        let (suffix, cursor) := after.skip.takeWhile isTagChar
        some ('!' :: name ++ ['!'], suffix, cursor)
      else
        let (suffix, cursor) := cursor.takeWhile isTagChar
        some (['!'], suffix, cursor)
  if cursor.isGap then return { (s.allowKey false).push (.tag handle suffix) with cursor }
  else none

def quotedScalar (s : Scan) (single : Bool) : Option Scan := do
  let s ← s.saveCandidate
  let (text, cursor) ← quoted single (s.cursor.rest.length + 1) [] s.cursor.skip
  return { (s.allowKey false).push (.scalar false (String.ofList text)) with
    cursor, adjacent := some cursor.index }

def plainScalar (s : Scan) : Option Scan := do
  let s ← s.saveCandidate
  let (text, fresh, cursor) ←
    plain s.inFlow (s.indent + 1).toNat (s.cursor.rest.length + 1) [] [] false s.cursor
  return { (s.allowKey fresh).push (.scalar true (String.ofList text)) with cursor }

def blockScalar (s : Scan) (literal : Bool) : Option Scan := do
  let s ← s.saveCandidate
  let (text, cursor) ← block literal s.indent s.cursor.skip
  return { (s.allowKey true).push (.scalar false (String.ofList text)) with cursor }

/-- Whether the colon at this place stands behind a key. -/
def isValueMark (s : Scan) : Bool :=
  s.cursor.isGap 1 ||
    (s.inFlow && ((s.cursor.peek? 1).any isFlow || s.adjacent = some s.cursor.index))

/-- The next token; its first character is `x`. -/
def next (s : Scan) (x : Char) : Option Scan :=
  let gap := s.cursor.isGap 1
  if x = '%' && s.cursor.column = 0 then s.directive
  else if s.cursor.isMark '-' then s.boundary .documentStart
  else if s.cursor.isMark '.' then s.boundary .documentEnd
  else match x with
    | '[' => s.openBracket .flowSequenceStart
    | '{' => s.openBracket .flowMappingStart
    | ']' => s.closeBracket .flowSequenceEnd
    | '}' => s.closeBracket .flowMappingEnd
    | ',' => s.comma
    | '*' => s.named .alias
    | '&' => s.named .anchor
    | '!' => s.tag
    | '\'' => s.quotedScalar true
    | '"' => s.quotedScalar false
    | '%' | '@' | '\x60' => none
    | '-' => if gap then s.entry else s.plainScalar
    | '?' => if gap then s.key else s.plainScalar
    | ':' => if s.isValueMark then s.value else s.plainScalar
    | '|' | '>' => if s.inFlow then s.plainScalar else s.blockScalar (x = '|')
    | _ => s.plainScalar

/-- Goes on to the end of the text. Every token takes a character at least, so `fuel` need not
exceed the length of the text. -/
def run : Nat → Scan → Option Scan
  | 0, _ => none
  | fuel + 1, s => do
    let s ← (skipGap fuel s).dropStale
    let s := s.closeTo s.cursor.column
    match s.cursor.peek? with
    | some x => run fuel (← s.next x)
    | none => (s.closeTo (-1)).dropCandidate

end Scan

/-- The tokens of a text, which ends at a character with the number zero. -/
def tokens? (text : String) : Option (List Token) := do
  let cs := text.toList.takeWhile (· != '\x00')
  let s ← Scan.run (cs.length + 2) { cursor := { rest := cs } }
  return s.places.toList.flatten

end AccountServer.Yaml
