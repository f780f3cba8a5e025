import AccountServer.Config.Reading
import AccountServer.Number.Word
import AccountServer.Store.Error

/-!
# Settings of a database

A database lives in memory or in an SQLite file. The file is named by a directory and, within it,
by a file name; `joinPath` puts the two together.
-/

namespace AccountServer

open Json

/-- What a database is kept in. -/
inductive DatabaseKind where
  | inMemory
  | sqlite
  deriving DecidableEq, Repr

namespace DatabaseKind

def name : DatabaseKind → String
  | .inMemory => "inmem"
  | .sqlite => "sqlite"

def toJson (k : DatabaseKind) : Json := .string k.name

/-- The names that settings may use. -/
def named : List (String × DatabaseKind) :=
  [("inmem", .inMemory), ("memory", .inMemory), ("inmemory", .inMemory), ("sqlite", .sqlite)]

def decode (r : SettingReader) : Decoder DatabaseKind := r.choice named

end DatabaseKind

/-- The path of a file in a directory. A file that begins with a slash stands for itself. -/
def joinPath (dir file : String) : String :=
  if file.startsWith "/" then file
  else if dir.isEmpty || dir.endsWith "/" then dir ++ file
  else dir ++ "/" ++ file

/-- The settings of a database. -/
structure DatabaseConfig where
  kind : DatabaseKind
  dir : Option String := none
  file : Option String := none
  maxConnections : Nat := 5
  deriving DecidableEq, Repr

namespace DatabaseConfig

def inMemory : DatabaseConfig := { kind := .inMemory }

def sqlite (dir : String) : DatabaseConfig := { kind := .sqlite, dir := some dir }

def toJson (c : DatabaseConfig) : Json :=
  .object [("type", c.kind.toJson), ("dir", .ofOption .string c.dir),
    ("file", .ofOption .string c.file), ("max_connections", .int c.maxConnections)]

def decode (r : SettingReader) : Decoder DatabaseConfig :=
  r.record
    (DatabaseConfig.mk <$> .required "type" (DatabaseKind.decode r)
      <*> .withDefault "dir" (decodeOption r.text) none
      <*> .withDefault "file" (decodeOption r.text) none
      <*> .withDefault "max_connections" (r.natural Word.max32) 5)

/-- The path of the SQLite file, which is called `data.db` unless said otherwise. -/
def sqlitePath (c : DatabaseConfig) : Except StoreError String :=
  match c.dir with
  | some dir => .ok (joinPath dir (c.file.getD "data.db"))
  | none => .error (.configuration .noDirectory)

/-- There has to be a connection at least, and for SQLite a directory. -/
def validate (c : DatabaseConfig) : Except StoreError Unit := do
  if c.maxConnections = 0 then throw (.configuration .noConnections)
  if c.kind = .sqlite then
    let _ ← c.sqlitePath

end DatabaseConfig

end AccountServer
