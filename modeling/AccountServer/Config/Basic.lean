import AccountServer.Config.Database
import AccountServer.Number.Word
import AccountServer.Text.Blank

/-!
# Settings of the server

A `Config` has a section for the listener, one for the log, the databases by name and the
components by name. Everything has a default, so that `{}` is a configuration.

A component's section keeps the members it does not know in `extra`, where the component finds its
own settings. `normalizeBase` brings the path under which a component is mounted into its one
written form.
-/

namespace AccountServer

open Json

/-! ## Sections -/

/-- The listener. -/
structure ServerConfig where
  address : String := "localhost"
  port : Nat := 8080
  /-- The path under which all components are mounted. -/
  base : String := "/"
  /-- How long an answer of status 401, 403 or 500 is held back. -/
  delayMillis : Nat := 1000
  deriving DecidableEq, Repr

namespace ServerConfig

def toJson (c : ServerConfig) : Json :=
  .object [("address", .string c.address), ("port", .int c.port), ("base", .string c.base),
    ("unauth_delay_ms", .int c.delayMillis)]

def decode (r : SettingReader) : Decoder ServerConfig :=
  r.record
    (ServerConfig.mk <$> .withDefault "address" r.text "localhost"
      <*> .withDefault "port" (r.natural 65535) 8080
      <*> .withDefault "base" r.text "/"
      <*> .withDefault "unauth_delay_ms" (r.natural Word.max64) 1000)

/-- Address and port as they are listened on. -/
def bindAddress (c : ServerConfig) : String := c.address ++ ":" ++ toString c.port

end ServerConfig

/-- How log lines are written. -/
inductive LogFormat where
  | text
  | json
  deriving DecidableEq, Repr

namespace LogFormat

def name : LogFormat → String
  | .text => "text"
  | .json => "json"

def named : List (String × LogFormat) := [("text", .text), ("json", .json)]

def toJson (f : LogFormat) : Json := .string f.name

def decode (r : SettingReader) : Decoder LogFormat := r.choice named

end LogFormat

/-- The log. -/
structure LogConfig where
  /-- A filter directive such as `info` or `auth=debug,info`. -/
  level : String := "info"
  format : LogFormat := .text
  deriving DecidableEq, Repr

namespace LogConfig

def toJson (c : LogConfig) : Json :=
  .object [("level", .string c.level), ("format", c.format.toJson)]

def decode (r : SettingReader) : Decoder LogConfig :=
  r.record
    (LogConfig.mk <$> .withDefault "level" r.text "info"
      <*> .withDefault "format" (LogFormat.decode r) .text)

end LogConfig

/-! ## Mount points -/

/-- A path with a slash in front and none behind; blanks around it do not count. -/
def normalizeBase (base : String) : String :=
  let trimmed := Text.trimEndWhile (· == '/') (Text.trim base.toList)
  match trimmed with
  | [] => "/"
  | '/' :: _ => String.ofList trimmed
  | _ => String.ofList ('/' :: trimmed)

/-- The section of a component. -/
structure ApiConfig where
  enabled : Bool := true
  /-- Where the component is mounted, relative to the base of the server. -/
  base : Option String := none
  /-- The databases that the component needs. -/
  uses : List String := []
  /-- The settings that only the component knows. -/
  extra : List (String × Json) := []

namespace ApiConfig

def toJson (c : ApiConfig) : Json :=
  .object ([("enabled", .bool c.enabled), ("base", .ofOption .string c.base),
    ("uses", .array (c.uses.map .string))] ++ c.extra)

def decode (r : SettingReader) : Decoder ApiConfig :=
  Fields.decodeOpen
    (ApiConfig.mk <$> .withDefault "enabled" r.flag true
      <*> .withDefault "base" (decodeOption r.text) none
      <*> .withDefault "uses" (decodeList r.text) [])

/-- The mount point of a component, by default its name. -/
def baseFor (c : ApiConfig) (name : String) : String :=
  match c.base with
  | some base => normalizeBase base
  | none => "/" ++ name

end ApiConfig

/-! ## The whole -/

/-- What is wrong between the sections. -/
inductive ConfigFault where
  | portZero
  | database (name : String) (error : StoreError)
  | undeclaredDatabase (api database : String)
  /-- A setting of the component `hello` that is no probability. -/
  | rudeness (text : String)
  | other (message : String)
  deriving DecidableEq

def ConfigFault.message : ConfigFault → String
  | .portZero => "server.port must not be 0"
  | .database name error => "dbs." ++ name ++ ": " ++ error.message
  | .undeclaredDatabase api used => "apis." ++ api ++ " uses undeclared database '" ++ used ++ "'"
  | .rudeness text => "apis.hello.rudeness must be between 0 and 1, got " ++ text
  | .other message => message

/-- Why there is no configuration. -/
inductive ConfigError where
  /-- A source cannot be read, or the values do not fit. -/
  | load
  | invalid (fault : ConfigFault)
  /-- The settings of a component do not fit. -/
  | apiSection (api : String)
  deriving DecidableEq

/-- What is said before the detail. -/
def ConfigError.message : ConfigError → String
  | .load => "failed to load configuration"
  | .invalid fault => "invalid configuration: " ++ fault.message
  | .apiSection api => "invalid '" ++ api ++ "' section"

/-- The settings of the server. -/
structure Config where
  server : ServerConfig := {}
  log : LogConfig := {}
  databases : List (String × DatabaseConfig) := []
  apis : List (String × ApiConfig) := []

namespace Config

def toJson (c : Config) : Json :=
  .object [("server", c.server.toJson), ("log", c.log.toJson),
    ("dbs", .object (c.databases.map fun (name, db) => (name, db.toJson))),
    ("apis", .object (c.apis.map fun (name, api) => (name, api.toJson)))]

def decode (r : SettingReader) : Decoder Config :=
  r.record
    (Config.mk <$> .withDefault "server" (ServerConfig.decode r) {}
      <*> .withDefault "log" (LogConfig.decode r) {}
      <*> .withDefault "dbs" (decodeMap (DatabaseConfig.decode r)) []
      <*> .withDefault "apis" (decodeMap (ApiConfig.decode r)) [])

/-- The section of a component. -/
def api? (c : Config) (name : String) : Option ApiConfig := c.apis.lookup name

/-- Checks a database. -/
def validateDatabase : String × DatabaseConfig → Except ConfigError Unit
  | (name, db) =>
    match db.validate with
    | .ok () => .ok ()
    | .error e => .error (.invalid (.database name e))

/-- Checks that what an enabled component uses is declared. -/
def validateApi (databases : List (String × DatabaseConfig)) :
    String × ApiConfig → Except ConfigError Unit
  | (name, api) =>
    if api.enabled then
      api.uses.forM fun used =>
        if (databases.lookup used).isSome then .ok ()
        else .error (.invalid (.undeclaredDatabase name used))
    else .ok ()

/-- Checks the sections against each other. -/
def validate (c : Config) : Except ConfigError Unit := do
  if c.server.port = 0 then throw (.invalid .portZero)
  c.databases.forM validateDatabase
  c.apis.forM (validateApi c.databases)

end Config

/-- Reads the settings that only a component knows. -/
def ApiConfig.readSection {α : Type} (c : ApiConfig) (api : String) (decode : Decoder α) :
    Except ConfigError α :=
  match decode (.object c.extra) with
  | .ok a => .ok a
  | .error _ => .error (.apiSection api)

end AccountServer
