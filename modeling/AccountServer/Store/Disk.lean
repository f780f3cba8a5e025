import AccountServer.Store.Connector
import AccountServer.Store.Memory
import AccountServer.Store.Table
import AccountServer.Text.Blank
import AccountServer.Text.Split

/-!
# Databases on disk

A `Disk` knows folders and files by path and keeps a table in each database file. Opening a
database makes the folders that are missing, and fails where a file stands in the way. `registry`
opens every kind of database that there is.
-/

namespace AccountServer

/-- An absolute path, part by part. -/
abbrev DiskPath := List String

/-- Folders and files. -/
structure Disk where
  files : List DiskPath := []
  folders : List DiskPath := []
  /-- Folders in which nothing can be made. -/
  sealed : List DiskPath := []
  /-- The tables of the databases that were opened. -/
  tables : List (DiskPath × TableStore) := []

namespace Disk

/-- The path that a text means. Points stand for the folder itself and for the one above. -/
def resolve (text : String) : DiskPath :=
  ((Text.splitAll '/' text.toList).map String.ofList).foldl
    (fun path part =>
      if part = "" || part = "." then path
      else if part = ".." then path.dropLast
      else path ++ [part])
    []

/-- A text without slashes and points at the end that mean nothing. -/
def withoutTail (cs : List Char) : List Char :=
  let rec go : List Char → List Char
    | '/' :: rest => if rest.isEmpty then ['/'] else go rest
    | '.' :: '/' :: rest => go ('/' :: rest)
    | cs => cs
  (go cs.reverse).reverse

/-- The folder that a path lies in, as it is written; there is none for the root. -/
def parentText (path : String) : Option String :=
  match withoutTail path.toList with
  | [] | ['/'] => none
  | cs =>
    let rest := Text.trimEndWhile (· != '/') cs
    some (String.ofList (withoutTail rest))

/-- A path and those of all folders that it lies in, the outermost first. -/
def ancestors (path : DiskPath) : List DiskPath :=
  (List.range (path.length + 1)).map fun n => path.take n

/-- Whether the folder of a path can be made, together with those that it lies in. -/
def canMake (d : Disk) (path : DiskPath) : Bool :=
  (ancestors path).all fun above =>
    !d.files.contains above && !above.any (fun part => part.contains '\u0000') &&
      (d.folders.contains above || !d.sealed.any fun s => s ≠ above && s.isPrefixOf above)

/-- Makes the folder of a path and those that it lies in. -/
def make (d : Disk) (path : DiskPath) : Disk :=
  { d with folders := (ancestors path).filter (fun above => !d.folders.contains above) ++ d.folders }

/-- Whether a database can be kept in the file of a path. -/
def canOpen (d : Disk) (text : String) (path : DiskPath) : Bool :=
  !path.isEmpty && !d.folders.contains path && !text.endsWith "/" && !text.endsWith "/." &&
    !text.contains '\u0000'

/-- Opens the file of a database, making its folder. -/
def openFile (d : Disk) (config : DatabaseConfig) : Except StoreError DiskPath × Disk :=
  match config.sqlitePath with
  | .error e => (.error e, d)
  | .ok text =>
    let folder := (parentText text).getD "/"
    if d.canMake (resolve folder) then
      let d := d.make (resolve folder)
      let path := resolve text
      if config.maxConnections = 0 then (.error (.connection .timedOut), d)
      else if d.canOpen text path then
        (.ok path, { d with files := if d.files.contains path then d.files else path :: d.files })
      else (.error (.connection .unreadable), d)
    else (.error (.configuration (.directory folder)), d)

/-- The table in the database file of a path, which is empty if it is new. -/
def table (d : Disk) (path : DiskPath) : TableStore := (d.tables.lookup path).getD .empty

end Disk

/-- A store of any kind. -/
inductive Backend where
  | memory (store : MemoryStore)
  | table (store : TableStore)

namespace Backend

def perform (call : StoreCall) (around : Surroundings) : Backend → call.Answer × Backend
  | .memory store =>
    let (answer, store) := AccountStore.perform call around store
    (answer, .memory store)
  | .table store =>
    let (answer, store) := AccountStore.perform call around store
    (answer, .table store)

instance : AccountStore Backend := ⟨perform⟩

end Backend

/-- Opens databases of every kind. -/
def Disk.registry (d : Disk) : Registry Backend :=
  (Registry.empty.register .inMemory fun _ => .ok (.memory .empty)).register .sqlite fun config =>
    (d.openFile config).1.map fun path => .table (d.table path)

end AccountServer
