import AccountServer.Config.Source

/-!
# Loading the configuration

The configuration is read from a file, if one is named, and from the variables of the environment,
which count more. It is checked before it is handed out.
-/

namespace AccountServer

/-- Why no configuration could be loaded. -/
inductive LoadFault where
  | config (error : ConfigError)
  /-- A table of the file has a name that cannot be one. -/
  | name
  deriving DecidableEq

mutual

/-- A value without infinite numbers, which JSON does not have. -/
def Json.finite : Json → Json
  | .float x => if x.isFinite then .float x else .null
  | .array items => .array (finiteItems items)
  | .object members => .object (finiteMembers members)
  | j => j

/-- Items without infinite numbers. -/
def Json.finiteItems : List Json → List Json
  | [] => []
  | j :: rest => Json.finite j :: Json.finiteItems rest

/-- Members without infinite numbers. -/
def Json.finiteMembers : List (String × Json) → List (String × Json)
  | [] => []
  | (name, j) :: rest => (name, Json.finite j) :: Json.finiteMembers rest

end

namespace Config

/-- The settings of a file, if one is named. -/
def fileSettings (files : String → Option String) :
    Option String → Except LoadFault (List (String × Json))
  | none => .ok []
  | some path =>
    match Settings.ofFile files path with
    | .ok source => .ok source
    | .error .malformed => .error (.config .load)
    | .error .name => .error .name

/-- Reads a configuration from a tree of settings. -/
def ofSettings (tree : Json) : Except ConfigError Config :=
  match decode .lenient tree with
  | .ok c =>
    .ok { c with apis := c.apis.map fun (name, api) =>
      (name, { api with extra := api.extra.map fun (key, j) => (key, j.finite) }) }
  | .error _ => .error .load

/-- Loads a configuration. `files` are the texts of files by path. -/
def load (files : String → Option String) (path : Option String)
    (environment : List (String × String)) : Except LoadFault Config := do
  let source ← fileSettings files path
  let tree := Settings.add (Settings.add (.object []) source) (Settings.ofVariables environment)
  let config ← (ofSettings tree).mapError .config
  config.validate.mapError .config
  return config

end Config

end AccountServer
