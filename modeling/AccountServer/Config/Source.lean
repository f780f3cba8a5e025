import AccountServer.Config.Basic
import AccountServer.Number.Word
import AccountServer.Text.Split
import AccountServer.Toml.Reader
import AccountServer.Yaml.Reader

/-!
# Sources of settings

Settings are collected in one tree, from a file and from the variables of the environment. A source
is a list of values with the paths at which they are put; what is put later replaces what was there,
except that tables are merged. Names are lower case, except those in lists.
-/

namespace AccountServer

namespace Settings

/-! ## The tree -/

/-- The members of a table; anything else has none. -/
def members : Json → List (String × Json)
  | .object members => members
  | _ => []

/-- The items of a list; anything else has none. -/
def items : Json → List Json
  | .array items => items
  | _ => []

mutual

/-- Puts a value under a name. A table is merged into what is there. -/
def put (tree : Json) (name : String) (value : Json) : Json :=
  let key := Text.lowercase name
  match value with
  | .object incoming =>
    let there := ((members tree).lookup key).getD (.object [])
    .object (Json.insert (members tree) key (putAll there incoming))
  | value => .object (Json.insert (members tree) key value)

/-- Puts several values under their names. -/
def putAll (tree : Json) : List (String × Json) → Json
  | [] => tree
  | (name, value) :: rest => putAll (put tree name value) rest

end

/-- A step of a path. -/
inductive PathStep where
  | name (name : String)
  /-- The item of a list; negative numbers count from the end. -/
  | index (index : Int)
  deriving DecidableEq, Repr

/-- The place of an item in a list of some length. -/
def place (index : Int) (length : Nat) : Nat :=
  if 0 ≤ index then index.toNat else length - index.natAbs

/-- Changes an item of a list, which is made long enough. -/
def atIndex (tree : Json) (index : Int) (f : Json → Json) : Json :=
  let there := items tree
  let n := place index there.length
  let long := there ++ List.replicate (n + 1 - there.length) .null
  .array (long.modify n f)

/-- Changes the value at a path, making what is missing on the way. -/
def along : List PathStep → (Json → Json) → Json → Json
  | [], f, tree => f tree
  | .name name :: path, f, tree =>
    let there := ((members tree).lookup name).getD .null
    .object (Json.insert (members tree) name (along path f there))
  | .index index :: path, f, tree => atIndex tree index (along path f)

/-- Puts a value at a path. -/
def putAt (tree : Json) (path : List PathStep) (value : Json) : Json :=
  match path.getLast? with
  | none => tree
  | some (.name name) => along path.dropLast (fun parent => put parent name value) tree
  | some (.index index) => along path.dropLast (fun parent => atIndex parent index fun _ => value) tree

/-! ## Paths -/

/-- The characters of a name in a path. -/
def isNameChar (c : Char) : Bool := c.isAlphanum || c == ' ' || c == '_' || c == '-'

/-- Reads the number in brackets and answers what stands behind them. -/
def bracketed? (cs : List Char) : Option (Int × List Char) := do
  let (inside, rest) ← Text.splitFirst ']' cs
  let digits := Text.trimEndWhile (· == ' ') (inside.dropWhile (· == ' '))
  if digits.head? = some '+' then none
  else return (← Numeral.integer? 10 Word.minInt64 Word.maxInt64 digits, rest)

/-- Reads the steps behind the first name of a path. Each takes two characters at least. -/
def steps? : Nat → List Char → Option (List PathStep)
  | _, [] => some []
  | 0, _ => none
  | fuel + 1, '.' :: cs =>
    let name := cs.takeWhile isNameChar
    if name.isEmpty then none
    else do return .name (String.ofList name) :: (← steps? fuel (cs.drop name.length))
  | fuel + 1, '[' :: cs => do
    let (index, rest) ← bracketed? cs
    return .index index :: (← steps? fuel rest)
  | _ + 1, _ => none

/-- The path that a name stands for. Points divide it and brackets hold places in lists; a name that
is no such path stands for itself. -/
def pathOf (name : String) : List PathStep :=
  let cs := name.toList
  let first := cs.takeWhile isNameChar
  match first.isEmpty, steps? cs.length (cs.drop first.length) with
  | false, some rest => .name (String.ofList first) :: rest
  | _, _ => [.name name]

/-- Puts the values of a source in. -/
def add (tree : Json) (source : List (String × Json)) : Json :=
  source.foldl (fun tree (name, value) => putAt tree (pathOf name) value) tree

/-! ## Variables -/

/-- What the names of variables with settings begin with. -/
def variableMark : String := "jelly__"

/-- What a variable holds: a truth value, a number, or a text. -/
def variableValue (text : String) : Json :=
  match Text.lowercase text with
  | "true" => .bool true
  | "false" => .bool false
  | _ =>
    match Numeral.integer? 10 Word.minInt64 Word.maxInt64 text.toList, Numeral.real? text.toList with
    | some n, _ => .int n
    | none, some x => .float x
    | none, none => .string text

/-- The settings among the variables. Two underscores divide a path. -/
def ofVariables (environment : List (String × String)) : List (String × Json) :=
  environment.filterMap fun (name, value) =>
    let name := Text.lowercase name
    if name.startsWith variableMark then
      some (((String.ofList (name.toList.drop variableMark.length)).replace "__" ".",
        variableValue value))
    else none

/-! ## Files -/

/-- Why a text is no source of settings. -/
inductive Fault where
  /-- The text is malformed, or is no table. -/
  | malformed
  /-- A name in a table is neither a text nor a whole number. -/
  | name
  deriving DecidableEq, Repr

/-- The ways in which a file may be written. -/
inductive Format where
  | json
  | toml
  | yaml
  deriving DecidableEq, Repr

/-- What the names of files of each format end in. -/
def Format.named : List (String × Format) :=
  [("toml", .toml), ("json", .json), ("yaml", .yaml), ("yml", .yaml)]

mutual

/-- A value of a JSON file. A whole number of more than 64 bits with a sign is none. -/
def ofJson : Json → Json
  | .int n => if n ≤ Word.maxInt64 then .int n else .float (.ofInt n)
  | .array items => .array (ofItems items)
  | .object members => .object (ofMembers members)
  | j => j

/-- The items of a list in a JSON file. -/
def ofItems : List Json → List Json
  | [] => []
  | j :: rest => ofJson j :: ofItems rest

/-- The members of a table in a JSON file. -/
def ofMembers : List (String × Json) → List (String × Json)
  | [] => []
  | (name, j) :: rest => (name, ofJson j) :: ofMembers rest

end

mutual

/-- A value of a YAML file. -/
def ofYaml : Yaml → Except Fault Json
  | .null => .ok .null
  | .bool b => .ok (.bool b)
  | .int n => .ok (.int n)
  | .real text =>
    match Numeral.real? text.toList with
    | some x => .ok (.float x)
    | none => .error .malformed
  | .string s => .ok (.string s)
  | .sequence items => do return .array (← ofYamlItems items)
  | .mapping members => do return .object (← ofYamlMembers members)

/-- The items of a list in a YAML file. -/
def ofYamlItems : List Yaml → Except Fault (List Json)
  | [] => .ok []
  | y :: rest => do return (← ofYaml y) :: (← ofYamlItems rest)

/-- The members of a table in a YAML file. -/
def ofYamlMembers : List (Yaml × Yaml) → Except Fault (List (String × Json))
  | [] => .ok []
  | (key, y) :: rest => do
    let name ←
      match key with
      | .string s => .ok s
      | .int n => .ok (toString n)
      | _ => .error .name
    let value ← ofYaml y
    return (name, value) :: (← ofYamlMembers rest)

end

/-- The value that a text holds. An empty YAML text holds an empty table. -/
def valueOf (format : Format) (text : String) : Except Fault Json :=
  match format with
  | .json =>
    match Json.parse? text with
    | some j => .ok (ofJson j.lastWins)
    | none => .error .malformed
  | .toml =>
    match Toml.read? text with
    | some j => .ok j
    | none => .error .malformed
  | .yaml =>
    match Yaml.read? text with
    | some [] => .ok (.object [])
    | some [y] => do return (← ofYaml y).lastWins
    | _ => .error .malformed

/-- The settings that a file holds. A mark of the byte order in front does not count. -/
def ofText (format : Format) (text : String) : Except Fault (List (String × Json)) := do
  let text := match text.toList with
    | '\uFEFF' :: rest => String.ofList rest
    | _ => text
  match ← valueOf format text with
  | .object members => return members
  | _ => throw .malformed

/-- What a file name ends in, behind the last point. -/
def extension? (path : String) : Option String :=
  let name := ((Text.splitAll '/' path.toList).getLast?).getD []
  match Text.splitLast '.' name with
  | some (_ :: _, ending) => some (String.ofList ending)
  | _ => none

/-- Where settings may be if a file is asked for: there, or in a file whose name goes on. -/
def candidates (path : String) : List String :=
  path :: Format.named.map fun (ending, _) => path ++ "." ++ ending

/-- The settings of the file at a path. The ending of its name says how it is written. -/
def ofFile (files : String → Option String) (path : String) :
    Except Fault (List (String × Json)) := do
  match (candidates path).findSome? fun p => (files p).map fun text => (p, text) with
  | none => throw .malformed
  | some (found, text) =>
    match (extension? found).bind fun ending => Format.named.lookup ending with
    | some format => ofText format text
    | none => throw .malformed

end Settings

end AccountServer
