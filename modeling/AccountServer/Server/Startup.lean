import AccountServer.Component.Registry
import AccountServer.Server.Endpoint
import AccountServer.Store.Connector

/-!
# Start

At the start the settings of accounts are read, the store is opened, the secret is checked, and the
admin that the settings ask for is set up. All checks that need no store come before the only step
that changes one, which is the last.
-/

namespace AccountServer

/-- Why the server does not start. -/
inductive StartFault where
  | config (error : ConfigError)
  /-- The accounts are to be kept in a database that nobody has declared. -/
  | undeclared (database : String)
  | store (database : String) (error : StoreError)
  /-- The secret, the lifetime of tokens or the form of the credentials. -/
  | settings (error : AccountError)
  | admin (error : AccountError)
  deriving DecidableEq

namespace StartFault

def message : StartFault → String
  | .config e => e.message
  | .undeclared database => "database '" ++ database ++ "' is not declared"
  | .store database _ => "failed to open database '" ++ database ++ "'"
  | .settings e => e.message
  | .admin _ => "failed to set up admin user"

end StartFault

namespace Startup

/-- The section on accounts, if it is there and enabled. -/
def accountsApi? (config : Config) : Option ApiConfig :=
  (config.api? Component.auth.name).filter (·.enabled)

/-- The settings of accounts. -/
def authSettings (config : Config) : Except StartFault AuthSettings :=
  match accountsApi? config with
  | some api => (api.readSection Component.auth.name AuthSettings.decode).mapError .config
  | none => .ok {}

/-- Opens the first database that the accounts use; without one they are kept in `fallback`. -/
def openStore {σ : Type} (config : Config) (registry : Registry σ) (fallback : σ) :
    Except StartFault σ :=
  match (accountsApi? config).bind (·.uses.head?) with
  | none => .ok fallback
  | some name =>
    match config.databases.lookup name with
    | none => .error (.undeclared name)
    | some database => (registry.connect database).mapError (.store name)

/-- Makes the services, and the admin if one is asked for. The secret that is handed in counts if
the settings have none. -/
def services (hasher : PasswordHasher) (settings : AuthSettings) (secret : List UInt8) :
    Plan StartFault Services := do
  let secret := (settings.secret.map fun text => text.toUTF8.toList).getD secret
  let tokens ← .ofExcept ((settings.tokenSettings secret).mapError .settings)
  let admin ← .ofExcept (settings.adminCredentials.mapError .settings)
  let accounts : Accounts := ⟨hasher⟩
  if let some (username, password) := admin then
    let _ ← (accounts.ensureAdmin username password).mapError .admin
  return ⟨accounts, { settings := tokens }⟩

/-- Starts the services of a configuration. The answer holds the store too, if it was opened. -/
def build {σ : Type} [AccountStore σ] (config : Config) (registry : Registry σ) (fallback : σ)
    (hasher : PasswordHasher) (secret : List UInt8) (around : Nat → Surroundings) :
    Except StartFault Services × Option σ :=
  match authSettings config, openStore config registry fallback with
  | .error e, _ | .ok _, .error e => (.error e, none)
  | .ok settings, .ok store =>
    let (result, store) := (services hasher settings secret).run around store
    (result, some store)

end Startup

end AccountServer
