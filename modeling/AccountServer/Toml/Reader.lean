import AccountServer.Toml.Scalar
import AccountServer.Toml.Table

/-!
# Reading TOML

`Toml.read?` reads a text line by line, as statements, and puts them together. A value in brackets
may go over several lines, one in braces may not.
-/

namespace AccountServer.Toml

/-! ## Names -/

/-- Characters of a name without quotes. -/
def isBareChar (c : Char) : Bool := c.isAlphanum || c == '_' || c == '-'

/-- Reads one name. -/
def readName (cs : List Char) : Option (String × List Char) :=
  match cs with
  | '"' :: rest => readLine true '"' [] cs.length rest
  | '\'' :: rest => readLine false '\'' [] cs.length rest
  | _ =>
    let name := cs.takeWhile isBareChar
    if name.isEmpty then none else some (String.ofList name, cs.drop name.length)

/-- Reads names with points between them. -/
def readPath : Nat → List Char → Option (List String × List Char)
  | 0, _ => none
  | fuel + 1, cs => do
    let (name, rest) ← readName (skipBlanks cs)
    match skipBlanks rest with
    | '.' :: rest =>
      let (path, rest) ← readPath fuel rest
      return (name :: path, rest)
    | rest => return ([name], rest)

/-! ## Values -/

/-- Passes over blanks, comments and line breaks. -/
def skipLines : Nat → List Char → List Char
  | 0, cs => cs
  | fuel + 1, cs =>
    let cs := skipComment (skipBlanks cs)
    match takeBreak? cs with
    | some rest => skipLines fuel rest
    | none => cs

/-- Passes over blanks, comments and line breaks, however many there are. -/
def skipAll (cs : List Char) : List Char := skipLines (cs.length + 1) cs

mutual

/-- Reads a value. -/
def readValue : Nat → List Char → Option (Json × List Char)
  | 0, _ => none
  | fuel + 1, cs =>
    match cs with
    | '[' :: rest => readItems fuel [] (skipAll rest)
    | '\x7b' :: rest =>
      match skipBlanks rest with
      | '\x7d' :: rest => some (.object [], rest)
      | rest => readEntries fuel [] rest
    | '"' :: _ | '\'' :: _ => (readString cs).map fun (s, rest) => (.string s, rest)
    | _ =>
      let (word, rest) := takeWord cs
      (wordValue? word).map (·, rest)

/-- Reads the items of a list and the bracket behind them. A comma may end the list. -/
def readItems : Nat → List Json → List Char → Option (Json × List Char)
  | 0, _, _ => none
  | fuel + 1, items, cs =>
    match cs with
    | ']' :: rest => some (.array items.reverse, rest)
    | _ => do
      let (item, rest) ← readValue fuel cs
      match skipAll rest with
      | ',' :: rest => readItems fuel (item :: items) (skipAll rest)
      | ']' :: rest => return (.array (item :: items).reverse, rest)
      | _ => none

/-- Reads the entries of a table in braces and the brace behind them. -/
def readEntries : Nat → List Statement → List Char → Option (Json × List Char)
  | 0, _, _ => none
  | fuel + 1, entries, cs => do
    let (path, rest) ← readPath cs.length cs
    let (value, rest) ← readValue fuel (skipBlanks (← expect? '=' rest))
    let entries := .entry path.dropLast (path.getLast?.getD "") value :: entries
    match skipBlanks rest with
    | ',' :: rest => readEntries fuel entries rest
    | '\x7d' :: rest => return (← ofStatements? entries.reverse, rest)
    | _ => none

end

/-! ## Statements -/

/-- Reads a statement. -/
def readStatement (cs : List Char) : Option (Statement × List Char) := do
  match cs with
  | '[' :: '[' :: rest =>
    let (path, rest) ← readPath cs.length rest
    return (.item path, ← expect? ']' (← expect? ']' rest))
  | '[' :: rest =>
    let (path, rest) ← readPath cs.length rest
    return (.table path, ← expect? ']' rest)
  | _ =>
    let (path, rest) ← readPath cs.length cs
    let (value, rest) ← readValue (cs.length + 1) (skipBlanks (← expect? '=' rest))
    return (.entry path.dropLast (path.getLast?.getD "") value, rest)

/-- Reads all statements, each of which has a line to itself. -/
def readStatements : Nat → List Char → Option (List Statement)
  | 0, _ => none
  | fuel + 1, cs =>
    match skipAll cs with
    | [] => some []
    | cs => do
      let (statement, rest) ← readStatement cs
      let rest := skipComment (skipBlanks rest)
      if rest.isEmpty || (takeBreak? rest).isSome then
        return statement :: (← readStatements fuel rest)
      else none

/-- The table that a text holds. -/
def read? (text : String) : Option Json := do
  let cs := text.toList
  ofStatements? (← readStatements (cs.length + 1) cs)

end AccountServer.Toml
