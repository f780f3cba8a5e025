import AccountServer.Config.Load
import AccountServer.Log.Setup
import AccountServer.Program.Arguments
import AccountServer.Server.Site
import AccountServer.Server.Startup
import AccountServer.Store.Disk

/-!
# Launching the server

`launch` is the program up to the moment when it listens: the arguments are read, the configuration
is loaded and checked, the log is set up, the services are started, the site is put together and
the address is looked up. The first thing that goes wrong ends it.
-/

namespace AccountServer

/-- What the program finds around it. -/
structure Premises where
  /-- The texts of the files, by path. -/
  files : String → Option String
  environment : List (String × String)
  disk : Disk
  /-- The secret that counts if the configuration has none. -/
  secret : List UInt8
  around : Nat → Surroundings

/-- How a launch ends. -/
inductive Launch where
  /-- The arguments are not understood. -/
  | misuse
  | help
  | version
  /-- Something went wrong, perhaps for a reason that can be told. -/
  | failed (error : String) (cause : Option String)
  /-- The program stops at once, without a word of its own. -/
  | aborted
  /-- The site can be served at an address. -/
  | ready (site : Site) (bind : String)

namespace Launch

/-- The file that is read if it is there and no other one is asked for. -/
def defaultConfig : String := "jelly.yaml"

/-- What the program says about itself. -/
def helpText (environment : Option String) : String :=
  "Web service with pre-rolled user accounts\n\nUsage: jelly [OPTIONS]\n\nOptions:\n" ++
  "  -c, --config <CONFIG>    Configuration file (YAML or JSON) [default: jelly.yaml if present] " ++
  "[env: JELLY_CONFIG=" ++ environment.getD "" ++ "]\n" ++
  "      --address <ADDRESS>  Address to listen on, overriding server.address\n" ++
  "      --port <PORT>        Port to listen on, overriding server.port\n" ++
  "  -h, --help               Print help\n  -V, --version            Print version\n"

def versionText : String := serverName ++ " " ++ serverVersion ++ "\n"

/-- The code that the program ends with. -/
def exitCode : Launch → Nat
  | .help | .version | .ready .. => 0
  | .failed .. => 1
  | .misuse => 2
  | .aborted => 101

/-- What is wrong with the settings of a component: a value is of the wrong type, or it is a number
out of range. -/
def sectionCause (config : Config) (api : String) : String :=
  let extra := ((config.api? api).getD {}).extra
  match extra.lookup "token_ttl_secs", AuthSettings.decode (.object
      (Json.insert extra "token_ttl_secs" (.int 1))) with
  | some (.int _), .ok _ => "invalid value"
  | _, _ => "invalid type"

/-- The reason of a failure of the configuration, apart from the failure itself. -/
def configCause (config : Config) : ConfigError → Option String
  | .apiSection api => some (sectionCause config api)
  | .load | .invalid _ => none

/-- The reason why the services did not start. -/
def startCause (config : Config) : StartFault → Option String
  | .config e => configCause config e
  | .undeclared _ => none
  | .store _ e => some e.message
  | .settings _ => none
  | .admin e => some e.message

/-- Whether a text is four numbers of eight bits with points between them. -/
def isNumericAddress (address : String) : Bool :=
  let parts := Text.splitAll '.' address.toList
  parts.length = 4 && parts.all fun part =>
    part.all Char.isDigit && (Numeral.integer? 10 0 255 part).isSome

/-- What is wrong with an address to listen on. -/
def addressFault? (address : String) : Option String :=
  if address = "localhost" || address = "::1" || address = "[::1]" || address = "::" ||
      address = "[::]" || address = "0.0.0.0" ||
      (isNumericAddress address && address.startsWith "127.") then none
  else if isNumericAddress address then some "Cannot assign requested address (os error 99)"
  else some "failed to lookup address information"

/-- The configuration with what the arguments say about it. -/
def override (a : Arguments) (config : Config) : Config :=
  { config with server := { config.server with
      address := a.address.getD config.server.address
      port := a.port.getD config.server.port } }

/-- Starts the services and puts the site together. -/
def serve (p : Premises) (config : Config) : Launch :=
  let (services, _) := Startup.build config p.disk.registry (.memory .empty) (.argon2 {}) p.secret
    p.around
  match services with
  | .error e => .failed e.message (startCause config e)
  | .ok services =>
    match Site.assemble .full config services with
    | .error (.route _) => .aborted
    | .error (.component e) =>
      .failed e.message (match e with | .config e => configCause config e | _ => none)
    | .ok site =>
      match addressFault? config.server.address with
      | some fault => .failed ("failed to bind " ++ config.server.bindAddress) (some fault)
      | none => .ready site config.server.bindAddress

/-- Loads the configuration and goes on with it. -/
def run (p : Premises) (a : Arguments) : Launch :=
  let path := a.config.or (if (p.files defaultConfig).isSome then some defaultConfig else none)
  match Config.load p.files path p.environment with
  | .error .name => .aborted
  | .error (.config e) =>
    .failed ("failed to load " ++ path.getD "configuration from the environment") (some e.message)
  | .ok config =>
    let config := override a config
    match config.validate with
    | .error e => .failed e.message none
    | .ok () =>
      match Log.setUp config.log (p.environment.lookup "RUST_LOG") false with
      | .error fault => .failed fault.message none
      | .ok () => serve p config

end Launch

/-- The program up to the moment when it listens. -/
def launch (p : Premises) (arguments : List String) : Launch :=
  match Arguments.read (p.environment.lookup "JELLY_CONFIG") arguments with
  | .misuse => .misuse
  | .help => .help
  | .version => .version
  | .run a => Launch.run p a

end AccountServer
