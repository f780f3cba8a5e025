import AccountServer.Json.Basic
import AccountServer.Number.Word
import AccountServer.Text.Hex

/-!
# Reading JSON

`Json.read` makes a value of any text. Where the text stops being JSON the value has a `broken`
part, and nothing behind it is looked at, so that the parts in front of it can be decoded in the
order in which they stand. Containers nest at most 127 levels deep; a deeper one counts as broken.

A number that needs a double is rounded in two steps, as `Binary64.ofScaledDecimal` does.
-/

namespace AccountServer

namespace Json

/-- What a step read, and the text behind it unless it broke off. -/
abbrev Reading := Json × Option (List Char)

/-- A step that found a mistake. -/
def Reading.stop : Reading := (.broken, none)

/-- The four blanks of JSON. -/
def isBlank (c : Char) : Bool := c == ' ' || c == '\n' || c == '\t' || c == '\r'

/-- The text from the first character on that is not blank. -/
def skipBlanks (cs : List Char) : List Char := cs.dropWhile isBlank

/-! ## Strings -/

/-- The character behind a backslash, for the escapes of one letter. -/
def unescape? (c : Char) : Option Char :=
  match c with
  | '"' => some '"'
  | '\\' => some '\\'
  | '/' => some '/'
  | 'b' => some '\x08'
  | 'f' => some '\x0c'
  | 'n' => some '\n'
  | 'r' => some '\r'
  | 't' => some '\t'
  | _ => none

def isHighSurrogate (n : Nat) : Bool := 0xD800 ≤ n && n < 0xDC00

def isLowSurrogate (n : Nat) : Bool := 0xDC00 ≤ n && n < 0xE000

/-- The character of a surrogate pair. -/
def joinSurrogates (high low : Nat) : Char :=
  Char.ofNat (0x10000 + (high - 0xD800) * 0x400 + (low - 0xDC00))

/-- Reads on in a string, the characters so far being `acc` in reverse. A surrogate `high` waits
for its other half; half a pair makes the string unsound. The answer is `none` for a mistake, and
otherwise the string, if it is sound, and the text behind the closing quote. -/
def stringBody (acc : List Char) (high : Option Nat) (sound : Bool) :
    List Char → Option (Option String × List Char)
  | [] => none
  | '"' :: rest =>
    some (if sound && high.isNone then some (String.ofList acc.reverse) else none, rest)
  | '\\' :: 'u' :: a :: b :: c :: d :: rest =>
    match Text.hexNumber? [a, b, c, d] with
    | none => none
    | some n =>
      match high with
      | some h =>
        if isLowSurrogate n then stringBody (joinSurrogates h n :: acc) none sound rest
        else if isHighSurrogate n then stringBody acc (some n) false rest
        else stringBody (Char.ofNat n :: acc) none false rest
      | none =>
        if isHighSurrogate n then stringBody acc (some n) sound rest
        else if isLowSurrogate n then stringBody acc none false rest
        else stringBody (Char.ofNat n :: acc) none sound rest
  | '\\' :: c :: rest =>
    match unescape? c with
    | some x => stringBody (x :: acc) none (sound && high.isNone) rest
    | none => none
  | c :: rest =>
    if c.toNat < 0x20 || c == '\\' then none
    else stringBody (c :: acc) none (sound && high.isNone) rest

/-- A string, its opening quote being read already. -/
def readString (cs : List Char) : Reading :=
  match stringBody [] none true cs with
  | some (some s, rest) => (.string s, some rest)
  | some (none, rest) => (.refused, some rest)
  | none => .stop

/-! ## Numbers -/

/-- The number that decimal digits stand for. -/
def digitsValue (ds : List Char) : Nat := ds.foldl (fun n d => n * 10 + (d.toNat - 0x30)) 0

/-- The largest significand that is collected before digits are dropped. -/
def maxSignificand : Nat := Word.max64

/-- Collects the digits of the whole part. Once a digit does not fit, that one and those behind it
only count as places. -/
def wholePart : List Char → Nat → Nat × Int
  | [], significand => (significand, 0)
  | d :: rest, significand =>
    let next := significand * 10 + (d.toNat - 0x30)
    if next ≤ maxSignificand then wholePart rest next else (significand, rest.length + 1)

/-- Collects the digits behind the point until one does not fit. -/
def fractionPart : List Char → Nat × Int → Nat × Int
  | [], state => state
  | d :: rest, (significand, exponent) =>
    let next := significand * 10 + (d.toNat - 0x30)
    if next ≤ maxSignificand then fractionPart rest (next, exponent - 1)
    else (significand, exponent)

/-- The parts of a number as written. -/
structure Numeral where
  negative : Bool
  whole : List Char
  /-- The digits behind a point. -/
  fraction : Option (List Char)
  /-- The sign and the digits of an exponent. -/
  exponent : Option (Bool × List Char)

/-- The value of a numeral. Without point and exponent it is a whole number if that fits into 64
bits; `-0` is a double. -/
def Numeral.value (n : Numeral) : Json :=
  let plain := n.fraction.isNone && n.exponent.isNone
  let whole := digitsValue n.whole
  if plain && !n.negative && whole ≤ maxSignificand then .int whole
  else if plain && n.negative && 0 < whole && Word.minInt64 ≤ -whole then .int (-whole)
  else
    let (significand, place) := fractionPart (n.fraction.getD []) (wholePart n.whole 0)
    let exponent : Int :=
      match n.exponent with
      | some (true, ds) => place - digitsValue ds
      | some (false, ds) => place + digitsValue ds
      | none => place
    match Binary64.ofScaledDecimal n.negative significand exponent with
    | some x => .float x
    | none => .refused

/-- Reads a numeral; `none` when the text does not begin with one. -/
def numeral? (cs : List Char) : Option (Numeral × List Char) :=
  let (negative, cs) :=
    match cs with
    | '-' :: rest => (true, rest)
    | _ => (false, cs)
  let whole := cs.takeWhile Char.isDigit
  let cs := cs.dropWhile Char.isDigit
  if whole.isEmpty || (whole.head? == some '0' && 1 < whole.length) then none
  else do
    let (fraction, cs) ←
      match cs with
      | '.' :: rest =>
        let ds := rest.takeWhile Char.isDigit
        if ds.isEmpty then none else some (some ds, rest.dropWhile Char.isDigit)
      | _ => some (none, cs)
    let (exponent, cs) ←
      match cs with
      | e :: rest =>
        if e == 'e' || e == 'E' then
          let (sign, rest) :=
            match rest with
            | '+' :: rest => (false, rest)
            | '-' :: rest => (true, rest)
            | _ => (false, rest)
          let ds := rest.takeWhile Char.isDigit
          if ds.isEmpty then none else some (some (sign, ds), rest.dropWhile Char.isDigit)
        else some (none, cs)
      | [] => some (none, cs)
    return (⟨negative, whole, fraction, exponent⟩, cs)

/-! ## Values -/

/-- A value without parts. -/
def readScalar (cs : List Char) : Reading :=
  match cs with
  | 'n' :: 'u' :: 'l' :: 'l' :: rest => (.null, some rest)
  | 't' :: 'r' :: 'u' :: 'e' :: rest => (.bool true, some rest)
  | 'f' :: 'a' :: 'l' :: 's' :: 'e' :: rest => (.bool false, some rest)
  | '"' :: rest => readString rest
  | _ =>
    match numeral? cs with
    | some (n, rest) => (n.value, some rest)
    | none => .stop

/-- The items of a list, the first of which begins the text; `done` holds those before it in
reverse. Every item takes a character, so `fuel` need not exceed the length of the text. -/
def readItems (element : List Char → Reading) : Nat → List Json → List Char → Reading
  | 0, done, _ => (.array (Json.broken :: done).reverse, none)
  | fuel + 1, done, cs =>
    match element cs with
    | (item, none) => (.array (item :: done).reverse, none)
    | (item, some cs) =>
      match skipBlanks cs with
      | ']' :: rest => (.array (item :: done).reverse, some rest)
      | ',' :: rest => readItems element fuel (item :: done) (skipBlanks rest)
      | _ => (.array (Json.broken :: item :: done).reverse, none)

/-- A name, a colon and a value; the quote of the name begins the text. -/
def readMember (element : List Char → Reading) (cs : List Char) :
    (String × Json) × Option (List Char) :=
  match cs with
  | '"' :: rest =>
    match stringBody [] none true rest with
    | some (some name, rest) =>
      match skipBlanks rest with
      | ':' :: rest =>
        let (value, rest) := element (skipBlanks rest)
        ((name, value), rest)
      | _ => ((name, .broken), none)
    | _ => (("", .broken), none)
  | _ => (("", .broken), none)

/-- The members of an object, the first of which begins the text. -/
def readMembers (element : List Char → Reading) :
    Nat → List (String × Json) → List Char → Reading
  | 0, done, _ => (.object (("", Json.broken) :: done).reverse, none)
  | fuel + 1, done, cs =>
    match readMember element cs with
    | (member, none) => (.object (member :: done).reverse, none)
    | (member, some cs) =>
      match skipBlanks cs with
      | '}' :: rest => (.object (member :: done).reverse, some rest)
      | ',' :: rest => readMembers element fuel (member :: done) (skipBlanks rest)
      | _ => (.object (("", Json.broken) :: member :: done).reverse, none)

/-- A value that begins the text, with at most `room` levels of containers. -/
def readValue : Nat → List Char → Reading
  | 0, cs =>
    match cs with
    | '[' :: _ | '{' :: _ => .stop
    | _ => readScalar cs
  | room + 1, cs =>
    match cs with
    | '[' :: rest =>
      match skipBlanks rest with
      | ']' :: rest => (.array [], some rest)
      | rest => readItems (readValue room) (rest.length + 1) [] rest
    | '{' :: rest =>
      match skipBlanks rest with
      | '}' :: rest => (.object [], some rest)
      | rest => readMembers (readValue room) (rest.length + 1) [] rest
    | _ => readScalar cs

/-- How deep containers may nest. -/
def maxDepth : Nat := 127

/-- A text as read: its value, and whether only blanks stand behind it. -/
structure Document where
  value : Json
  ends : Bool

/-- Reads a text that should be one value. -/
def read (text : String) : Document :=
  match readValue maxDepth (skipBlanks text.toList) with
  | (value, some rest) => ⟨value, (skipBlanks rest).isEmpty⟩
  | (value, none) => ⟨value, false⟩

/-- The value of a text that is JSON from beginning to end. -/
def parse? (text : String) : Option Json :=
  let document := read text
  if document.ends && document.value.isSound then some document.value else none

end Json

end AccountServer
