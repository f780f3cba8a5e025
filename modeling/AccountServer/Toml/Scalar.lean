import AccountServer.Json.Basic
import AccountServer.Number.Numeral
import AccountServer.Number.Word
import AccountServer.Text.Hex
import AccountServer.Text.Split
import AccountServer.Time.Calendar

/-!
# Scalars of TOML

Strings come in four forms: with and without escapes, in one line and in several. Everything else
that has no brackets is a word, and `wordValue?` says what it stands for: a truth value, a number,
or a date or time, which is kept as text.
-/

namespace AccountServer.Toml

/-! ## Blanks and lines -/

/-- A blank inside a line. -/
def isBlank (c : Char) : Bool := c == ' ' || c == '\t'

def skipBlanks (cs : List Char) : List Char := cs.dropWhile isBlank

/-- Characters that may stand in comments and in strings of one line. -/
def isPlain (c : Char) : Bool := c == '\t' || (0x20 ≤ c.toNat && c.toNat != 0x7F)

/-- Passes over a line break. -/
def takeBreak? : List Char → Option (List Char)
  | '\n' :: rest | '\r' :: '\n' :: rest => some rest
  | _ => none

/-- Passes over a comment, if there is one. -/
def skipComment : List Char → List Char
  | '#' :: rest => rest.dropWhile isPlain
  | cs => cs

/-! ## Strings -/

/-- The character behind a backslash, for the escapes of one letter. -/
def unescape? (c : Char) : Option Char :=
  [('b', '\x08'), ('t', '\t'), ('n', '\n'), ('f', '\x0c'), ('r', '\r'), ('"', '"'),
    ('\\', '\\')].lookup c

/-- The character of a hexadecimal number. -/
def character? (digits : List Char) : Option Char := do
  let n ← Text.hexNumber? digits
  if n.isValidChar then some (Char.ofNat n) else none

/-- Reads an escape, the backslash being read already. -/
def readEscape : List Char → Option (Char × List Char)
  | 'u' :: a :: b :: c :: d :: rest => (character? [a, b, c, d]).map (·, rest)
  | 'U' :: a :: b :: c :: d :: e :: f :: g :: h :: rest =>
    (character? [a, b, c, d, e, f, g, h]).map (·, rest)
  | c :: rest => (unescape? c).map (·, rest)
  | [] => none

/-- Reads a string of one line up to its quote. Every step takes a character at least. -/
def readLine (escapes : Bool) (quote : Char) (acc : List Char) :
    Nat → List Char → Option (String × List Char)
  | 0, _ | _, [] => none
  | fuel + 1, c :: rest =>
    if c = quote then some (String.ofList acc.reverse, rest)
    else if escapes && c == '\\' then do
      let (x, rest) ← readEscape rest
      readLine escapes quote (x :: acc) fuel rest
    else if isPlain c then readLine escapes quote (c :: acc) fuel rest
    else none

/-- Whether a backslash in front of the text ends its line. -/
def endsLine (cs : List Char) : Bool := (takeBreak? (skipBlanks cs)).isSome

/-- A string of several lines that ends here, and how many quotes it ends in. -/
def closing? (quote : Char) (cs : List Char) : Option (Nat × List Char) :=
  let quotes := (cs.takeWhile (· == quote)).length
  if quotes < 3 then none else some (min quotes 5 - 3, cs.drop (min quotes 5))

/-- Reads a string of several lines. A backslash at the end of a line takes the blanks and line
breaks behind it away. -/
def readLines (escapes : Bool) (quote : Char) (acc : List Char) :
    Nat → List Char → Option (String × List Char)
  | 0, _ | _, [] => none
  | fuel + 1, c :: rest =>
    match closing? quote (c :: rest) with
    | some (quotes, rest) => some (String.ofList (acc.reverse ++ List.replicate quotes quote), rest)
    | none =>
      if escapes && c == '\\' then
        if endsLine rest then
          readLines escapes quote acc fuel
            (rest.dropWhile fun c => isBlank c || c == '\n' || c == '\r')
        else do
          let (x, rest) ← readEscape rest
          readLines escapes quote (x :: acc) fuel rest
      else
        match takeBreak? (c :: rest) with
        | some rest => readLines escapes quote ('\n' :: acc) fuel rest
        | none => if isPlain c then readLines escapes quote (c :: acc) fuel rest else none

/-- Reads a string of any form; `none` if there is none. -/
def readString (cs : List Char) : Option (String × List Char) :=
  match cs with
  | '"' :: '"' :: '"' :: rest => readLines true '"' [] cs.length ((takeBreak? rest).getD rest)
  | '\'' :: '\'' :: '\'' :: rest => readLines false '\'' [] cs.length ((takeBreak? rest).getD rest)
  | '"' :: rest => readLine true '"' [] cs.length rest
  | '\'' :: rest => readLine false '\'' [] cs.length rest
  | _ => none

/-! ## Numbers -/

/-- Digits without the underscores, each of which has to stand between two digits. -/
def digits? (isDigit : Char → Bool) (cs : List Char) : Option (List Char) :=
  let pieces := Text.splitAll '_' cs
  if pieces.all fun piece => !piece.isEmpty && piece.all isDigit then some pieces.flatten else none

/-- The digits of a whole decimal number, which has no needless zero in front. -/
def decimal? (cs : List Char) : Option (List Char) :=
  (digits? Char.isDigit cs).filter fun ds => ds.length = 1 || ds.head? != some '0'

/-- The whole number of a word. -/
def integer? (cs : List Char) : Option Int := do
  let inBase (base : Nat) (cs : List Char) : Option Int := do
    let ds ← digits? (fun c => (Numeral.digitValue? base c).isSome) cs
    Numeral.integer? base Word.minInt64 Word.maxInt64 ds
  match cs with
  | '0' :: 'x' :: rest => inBase 16 rest
  | '0' :: 'o' :: rest => inBase 8 rest
  | '0' :: 'b' :: rest => inBase 2 rest
  | _ =>
    let (negative, rest) := Numeral.takeSign cs
    let ds ← decimal? rest
    Numeral.integer? 10 Word.minInt64 Word.maxInt64 (if negative then '-' :: ds else ds)

/-- The double of a word with a point or an exponent, or of one that is named. A positive one that
is too large is refused, a negative one is infinite. -/
def float? (cs : List Char) : Option Binary64 := do
  let (negative, cs) := Numeral.takeSign cs
  match String.ofList cs with
  | "inf" => return .infinity negative
  | "nan" => return .nan
  | _ =>
    let isMark (c : Char) : Bool := c == 'e' || c == 'E'
    let significand := cs.takeWhile fun c => !isMark c
    let (whole, fraction) := (Text.splitFirst '.' significand).elim (significand, none)
      fun (whole, fraction) => (whole, some fraction)
    let exponent := (cs.drop significand.length).drop 1
    if fraction.isNone && exponent.isEmpty then none
    else
      let wholeDigits ← decimal? whole
      let fractionDigits ← (fraction.map (digits? Char.isDigit)).getD (some [])
      let (below, power) := Numeral.takeSign exponent
      let power ←
        if cs.length = significand.length then some 0
        else (digits? Char.isDigit power).bind (Numeral.natural? 10)
      let power : Int := if below then -(power : Int) else power
      let digits ← Numeral.natural? 10 (wholeDigits ++ fractionDigits)
      let x := Binary64.ofDecimal negative digits (power - fractionDigits.length)
      if x.isInfinite && !negative then none else some x

/-! ## Dates and times -/

/-- The number of a fixed count of digits between two bounds, and the text behind it. -/
def fixed? (width low high : Nat) (cs : List Char) : Option (Nat × List Char) := do
  let ds := cs.take width
  if ds.length ≠ width || !ds.all Char.isDigit then none
  let n ← Numeral.natural? 10 ds
  if low ≤ n && n ≤ high then some (n, cs.drop width) else none

/-- Passes over a character. -/
def expect? (c : Char) : List Char → Option (List Char)
  | d :: rest => if d = c then some rest else none
  | [] => none

/-- Passes over a date. -/
def afterDate? (cs : List Char) : Option (List Char) := do
  let (year, cs) ← fixed? 4 0 9999 cs
  let (month, cs) ← fixed? 2 1 12 (← expect? '-' cs)
  let (day, cs) ← fixed? 2 1 31 (← expect? '-' cs)
  if Calendar.isDate year month day then some cs else none

/-- The fraction of a second as it is kept: nine digits at most, without zeros at the end. -/
def keptFraction (cs : List Char) : List Char :=
  match ((cs.take 9).reverse.dropWhile (· == '0')).reverse with
  | [] => []
  | ds => '.' :: ds

/-- A time of day as it is kept, and the text behind it. -/
def timeOfDay? (cs : List Char) : Option (List Char × List Char) := do
  let (_, rest) ← fixed? 2 0 23 cs
  let (_, rest) ← fixed? 2 0 59 (← expect? ':' rest)
  let (_, rest) ← fixed? 2 0 60 (← expect? ':' rest)
  match rest with
  | '.' :: rest =>
    let ds := rest.takeWhile Char.isDigit
    if ds.isEmpty then none else some (cs.take 8 ++ keptFraction ds, rest.drop ds.length)
  | _ => some (cs.take 8, rest)

/-- A distance from universal time as it is kept. -/
def zone? (cs : List Char) : Option (List Char) := do
  match cs with
  | ['Z'] | ['z'] => some ['Z']
  | sign :: rest =>
    let (hours, rest) ← fixed? 2 0 23 rest
    let (minutes, rest) ← fixed? 2 0 59 (← expect? ':' rest)
    if !rest.isEmpty || (sign ≠ '+' && sign ≠ '-') then none
    else some ((if hours = 0 && minutes = 0 then '+' else sign) :: cs.drop 1)
  | [] => some []

/-- A date, a time or both as they are kept: a `T` stands between date and time. -/
def date? (cs : List Char) : Option (List Char) :=
  match afterDate? cs with
  | some [] => some cs
  | some (mark :: rest) => do
    if mark ≠ 'T' && mark ≠ 't' && mark ≠ ' ' then none
    else
      let (time, rest) ← timeOfDay? rest
      return cs.take 10 ++ 'T' :: time ++ (← zone? rest)
  | none =>
    match timeOfDay? cs with
    | some (time, []) => some time
    | _ => none

/-! ## Words -/

/-- Characters of words. -/
def isWordChar (c : Char) : Bool := c.isAlphanum || "+-._:".toList.contains c

/-- Reads a word. A blank between a date and a time belongs to it. -/
def takeWord (cs : List Char) : List Char × List Char :=
  let word := cs.takeWhile isWordChar
  match afterDate? word, cs.drop word.length with
  | some [], ' ' :: rest =>
    if (rest.head?.any Char.isDigit) then
      let time := rest.takeWhile isWordChar
      (word ++ ' ' :: time, rest.drop time.length)
    else (word, ' ' :: rest)
  | _, rest => (word, rest)

/-- What a word stands for. -/
def wordValue? (cs : List Char) : Option Json :=
  match String.ofList cs with
  | "true" => some (.bool true)
  | "false" => some (.bool false)
  | _ =>
    match integer? cs, float? cs with
    | some n, _ => some (.int n)
    | none, some x => some (.float x)
    | none, none => (date? cs).map fun ds => .string (String.ofList ds)

end AccountServer.Toml
