import AccountServer.Uuid.Fault

/-!
# Failures of a store

A `StoreError` is either one of the three answers that mean something to the callers of a store
(there is no such record; a value that has to be unique is taken; the record is not fit to be
kept) or a failure of the machinery behind it.

The constructors hold what happened; `message` puts it into words.
-/

namespace AccountServer

/-- A value that has to be unique and is not. -/
inductive Clash where
  | usernameTaken (username : String)
  | idInUse (id : Uuid)
  /-- A unique column of the table of users. -/
  | column (name : String)
  | other (message : String)
  deriving DecidableEq

def Clash.message : Clash → String
  | .usernameTaken username => "username '" ++ username ++ "' is already taken"
  | .idInUse id => "user ID " ++ id.toText ++ " is already in use"
  | .column name => "UNIQUE constraint failed: users." ++ name
  | .other message => message

/-- Why a record is not fit to be kept, or was not fit when it was read back. -/
inductive Defect where
  | noHash
  | storedId (text : String) (fault : Uuid.Fault)
  | unknownRole (value : Int)
  | timestamp (micros : Int)
  | other (message : String)
  deriving DecidableEq

def Defect.message : Defect → String
  | .noHash => "refusing to store a user without a password hash"
  | .storedId text fault => "stored ID '" ++ text ++ "': " ++ fault.message
  | .unknownRole value => "unknown role value " ++ toString value
  | .timestamp micros => "timestamp " ++ toString micros ++ " is out of range"
  | .other message => message

/-- What can be wrong with the connections to a database. -/
inductive Outage where
  | closed
  | timedOut
  /-- The file or the row cannot be read as what it should be. -/
  | unreadable
  deriving DecidableEq, Repr

def Outage.message : Outage → String
  | .closed => "attempted to acquire a connection on a closed pool"
  | .timedOut => "pool timed out while waiting for an open connection"
  | .unreadable => "unreadable"

/-- What is wrong with the settings of a database. -/
inductive Misconfiguration where
  | noDirectory
  | noConnections
  | noConnector (kind : String)
  /-- A directory that cannot be made. -/
  | directory (path : String)
  | other (message : String)
  deriving DecidableEq, Repr

def Misconfiguration.message : Misconfiguration → String
  | .noDirectory => "sqlite database requires a 'dir'"
  | .noConnections => "max_connections must be at least 1"
  | .noConnector kind => "no connector registered for database type '" ++ kind ++ "'"
  | .directory path => "cannot create database directory " ++ path
  | .other message => message

/-- Why a store did not do what it was asked. -/
inductive StoreError where
  /-- There is no such record. -/
  | notFound
  | constraint (clash : Clash)
  | invalid (defect : Defect)
  | connection (outage : Outage)
  | query (outage : Outage)
  | migration (message : String)
  | configuration (cause : Misconfiguration)
  deriving DecidableEq

/-- How a query to a database fails. -/
inductive QueryFault where
  /-- Not one row where there should be one. -/
  | rowNotFound
  /-- A value of a unique column would be there twice. -/
  | notUnique (clash : Clash)
  | outage (outage : Outage)
  deriving DecidableEq

namespace StoreError

/-- The failure of a store whose query has failed. A missing row and a value that is taken are told
apart from everything else. -/
@[simp]
def ofQuery : QueryFault → StoreError
  | .rowNotFound => .notFound
  | .notUnique clash => .constraint clash
  | .outage outage => .query outage

/-- The kinds of failure, which is what callers and lockstep comparisons look at. -/
inductive Kind where
  | notFound
  | constraint
  | invalid
  | connection
  | query
  | migration
  | configuration
  deriving DecidableEq, Repr

/-- The kind of failure in one word, as reports show it. -/
def Kind.name : Kind → String
  | .notFound => "NotFound"
  | .constraint => "Constraint"
  | .invalid => "Invalid"
  | .connection => "Connection"
  | .query => "Query"
  | .migration => "Migration"
  | .configuration => "Configuration"

def kind : StoreError → Kind
  | .notFound => .notFound
  | .constraint _ => .constraint
  | .invalid _ => .invalid
  | .connection _ => .connection
  | .query _ => .query
  | .migration _ => .migration
  | .configuration _ => .configuration

def message : StoreError → String
  | .notFound => "record not found"
  | .constraint clash => "constraint violation: " ++ clash.message
  | .invalid defect => "invalid record: " ++ defect.message
  | .connection outage => "Database connection error: " ++ outage.message
  | .query outage => "Database query error: " ++ outage.message
  | .migration text => "Database migration error: " ++ text
  | .configuration cause => "Database configuration error: " ++ cause.message

def isNotFound (e : StoreError) : Bool := e.kind = .notFound

def isConstraint (e : StoreError) : Bool := e.kind = .constraint

end StoreError

end AccountServer
