import AccountServer.Json.Basic

/-!
# Tables of TOML

A TOML text is a list of statements: headers, which say what table the following entries belong to,
and entries. `ofStatements?` puts the tables together. A table is defined once: under a header of
its own, or by entries whose names have points, but not both; a table that was only passed through
on the way to another one may still get its header.
-/

namespace AccountServer.Toml

/-- A statement. A path is a list of names. -/
inductive Statement where
  /-- The header of a table. -/
  | table (path : List String)
  /-- The header of one more table in a list of tables. -/
  | item (path : List String)
  /-- A value, under a name that stands below the path. -/
  | entry (path : List String) (name : String) (value : Json)

/-- How a table came to be. -/
inductive Origin where
  /-- Passed through on the way to another one. -/
  | passed
  | header
  /-- By an entry whose name has points. -/
  | dotted
  deriving DecidableEq, Repr

/-- A table under construction, or a part of one. -/
inductive Node where
  | value (value : Json)
  | table (origin : Origin) (members : List (String × Node))
  /-- A list of tables, the last one first. -/
  | items (tables : List (List (String × Node)))

/-- Names with what stands under them. -/
abbrev Members := List (String × Node)

mutual

/-- The value of a finished part. -/
def Node.toJson : Node → Json
  | .value j => j
  | .table _ members => .object (membersToJson members)
  | .items tables => .array (tablesToJson tables).reverse

/-- The values of a finished table. -/
def membersToJson : List (String × Node) → List (String × Json)
  | [] => []
  | (name, node) :: rest => (name, node.toJson) :: membersToJson rest

/-- The values of a finished list of tables. -/
def tablesToJson : List (List (String × Node)) → List Json
  | [] => []
  | members :: rest => .object (membersToJson members) :: tablesToJson rest

end

/-- Changes the table at a path, making the tables that are missing with the origin `made`. Only a
header may lead into a table with a header; lists are entered at their last table. -/
def along (made : Origin) (f : Origin → Members → Option Members) :
    List String → Origin → Members → Option Members
  | [], origin, members => f origin members
  | name :: path, _, members => do
    let node ←
      match members.lookup name with
      | none => (along made f path made []).map (Node.table made)
      | some (.table origin inner) =>
        if made = .dotted && origin = .header then none
        else (along made f path origin inner).map (Node.table origin)
      | some (.items (last :: before)) =>
        (along made f path .header last).map fun last => Node.items (last :: before)
      | some (.items []) | some (.value _) => none
    return Json.insert members name node

/-- Adds what stands under the last name of a path; `f` is told what stands there already. -/
def define (path : List String) (f : Option Node → Option Node) (root : Members) :
    Option Members := do
  let name ← path.getLast?
  along .passed (fun _ members => do
    return Json.insert members name (← f (members.lookup name))) path.dropLast .header root

/-- The header of a table. -/
def addTable : Option Node → Option Node
  | none => some (.table .header [])
  | some (.table .passed members) => some (.table .header members)
  | some _ => none

/-- The header of one more table in a list. -/
def addItem : Option Node → Option Node
  | none => some (.items [[]])
  | some (.items tables) => some (.items ([] :: tables))
  | some _ => none

/-- Adds an entry to a table. A path has to lead to a table of such entries. -/
def addEntry (path : List String) (name : String) (value : Json) (members : Members) :
    Option Members :=
  along .dotted (fun origin members =>
    if (!path.isEmpty && origin ≠ .dotted) || (members.lookup name).isSome then none
    else some (members ++ [(name, .value value)])) path .header members

/-- Adds a statement. The state is the path of the last header and the table so far. -/
def addStatement : List String × Members → Statement → Option (List String × Members)
  | (_, root), .table path => (define path addTable root).map (path, ·)
  | (_, root), .item path => (define path addItem root).map (path, ·)
  | (here, root), .entry path name value =>
    (along .passed (fun _ members => addEntry path name value members) here .header root).map
      (here, ·)

/-- The table of a list of statements. -/
def ofStatements? (statements : List Statement) : Option Json := do
  let (_, root) ← statements.foldlM addStatement ([], [])
  return .object (membersToJson root)

end AccountServer.Toml
