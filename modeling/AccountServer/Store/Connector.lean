import AccountServer.Config.Database

/-!
# Connectors

A `Registry` knows for each kind of database how one is opened. It is asked with the settings of a
database, checks these first, and hands them to the connector of their kind.
-/

namespace AccountServer

/-- Connectors by the kind of database that they open; the opened thing is a `T`. -/
structure Registry (T : Type) where
  connectors : List (DatabaseKind × (DatabaseConfig → Except StoreError T))

namespace Registry

variable {T : Type}

def empty : Registry T := ⟨[]⟩

/-- Puts in a connector, in place of an earlier one of its kind. -/
def register (r : Registry T) (kind : DatabaseKind)
    (connector : DatabaseConfig → Except StoreError T) : Registry T :=
  ⟨(kind, connector) :: r.connectors.filter fun (other, _) => other ≠ kind⟩

/-- The registry whose connectors go on with what they opened. -/
def map {S : Type} (f : T → S) (r : Registry T) : Registry S :=
  ⟨r.connectors.map fun (kind, connector) => (kind, fun config => (connector config).map f)⟩

def isRegistered (r : Registry T) (kind : DatabaseKind) : Bool :=
  (r.connectors.lookup kind).isSome

/-- The kinds that can be opened. -/
def kinds (r : Registry T) : List DatabaseKind := r.connectors.map Prod.fst

/-- Opens the database that the settings describe. -/
def connect (r : Registry T) (config : DatabaseConfig) : Except StoreError T := do
  config.validate
  match r.connectors.lookup config.kind with
  | some connector => connector config
  | none => throw (.configuration (.noConnector config.kind.name))

end Registry

end AccountServer
