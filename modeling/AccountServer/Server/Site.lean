import AccountServer.Component.Registry
import AccountServer.Server.Endpoint

/-!
# Sites

A `Site` is the server as a client sees it: services behind a router. `Site.assemble` mounts every
enabled component of a configuration, in the order of the names, each under its own base and all of
them under the base of the server; the state of health stands outside. `Site.respond` answers a
request, whatever it is.
-/

namespace AccountServer

/-- Why a site cannot be put together. -/
inductive AssemblyFault where
  | component (error : ComponentError)
  /-- Two components want the same path, or a base is no path. -/
  | route (fault : RouteFault)
  deriving DecidableEq

/-- Services, settings and paths. -/
structure Site where
  services : Services
  hello : HelloSettings := {}
  router : Router Endpoint
  /-- How long an answer of status 401, 403 or 500 is held back. -/
  delayMillis : Nat := 0

/-- The routes of a component. -/
def Component.routes : Component → List (String × List (Method × Endpoint))
  | .auth => Endpoint.accountRoutes
  | .echo => Endpoint.echoRoutes
  | .hello => Endpoint.helloRoutes

namespace Site

/-- A fault of the router. -/
def routing {α : Type} (r : Except RouteFault α) : Except AssemblyFault α :=
  r.mapError .route

/-- Reads and checks the settings of the hello component. -/
def helloSettings (api : ApiConfig) : Except ConfigError HelloSettings := do
  let settings ← api.readSection Component.hello.name HelloSettings.decode
  settings.validate
  return settings

/-- The settings for greetings after a component was set up. -/
def setUp (hello : HelloSettings) (api : ApiConfig) : Component → Except AssemblyFault HelloSettings
  | .hello => (helloSettings api).mapError fun e => .component (.config e)
  | .auth | .echo => .ok hello

/-- Mounts a component, if it is enabled. -/
def mountApi (registry : ComponentRegistry) (state : HelloSettings × Router Endpoint)
    (entry : String × ApiConfig) : Except AssemblyFault (HelloSettings × Router Endpoint) := do
  let (hello, router) := state
  let (name, api) := entry
  if !api.enabled then return (hello, router)
  match registry.get? name with
  | none => throw (.component (.unknown name))
  | some component =>
    let hello ← setUp hello api component
    let routes ← routing (Router.ofRoutes component.routes)
    return (hello, ← routing (router.mount (api.baseFor name) routes))

/-- Puts the server together. -/
def assemble (registry : ComponentRegistry) (config : Config) (services : Services) :
    Except AssemblyFault Site := do
  let apis := config.apis.mergeSort fun a b => a.1 ≤ b.1
  let (hello, router) ← apis.foldlM (mountApi registry) ({}, .empty)
  let own ← routing (Router.ofRoutes Endpoint.serverRoutes)
  let router ← routing (own.mount (normalizeBase config.server.base) router)
  return ⟨services, hello, router, config.server.delayMillis⟩

/-- The account service alone. -/
def ofAccounts (services : Services) : Except RouteFault Site := do
  return { services, router := ← Router.ofRoutes Endpoint.accountRoutes }

/-- What guards a path against methods that it does not know: the guard of the handlers that were
added last. -/
def otherwise (resource : Resource Endpoint) : Guard :=
  (resource.handlers.getLast?.map fun (_, e) => e.guard).getD .none

/-- What is done for a request to a known path. -/
def handle (site : Site) (r : Request) (resource : Resource Endpoint)
    (parameters : List (List Char)) : Handling Response :=
  match resource.handler? r.method with
  | some endpoint => do
    let caller ← site.services.caller endpoint.guard r
    site.services.answer site.hello endpoint ⟨r, parameters, caller⟩
  | none => do
    let _ ← site.services.caller (otherwise resource) r
    return .bare 405

/-- The response as it is sent. Where the method is not known, the known ones are named, and whoever
asks for the headers gets no body. -/
def sent (r : Request) (resource : Resource Endpoint) (response : Response) : Response :=
  let response :=
    if (resource.handler? r.method).isSome then response
    else { response with allow := some (",".intercalate resource.allowed) }
  if r.method = "HEAD" then { response with body := .empty } else response

/-- Answers a request. -/
def respond (site : Site) (r : Request) : Plan Empty Response :=
  match site.router.find? r.path with
  | none => .done (.ok (.bare 404))
  | some (resource, parameters) =>
    (site.handle r resource parameters).mapResult fun
      | .ok response | .error response => .ok (sent r resource response)

/-- Whether a response is held back for a while, so that guessing takes time. -/
def holdsBack (site : Site) (response : Response) : Bool :=
  site.delayMillis ≠ 0 && [401, 403, 500].contains response.status

/-- Answers a request over a store. -/
def serve {σ : Type} [AccountStore σ] (site : Site) (r : Request) (around : Nat → Surroundings)
    (state : σ) : Response × σ :=
  match (site.respond r).run around state with
  | (.ok response, state) => (response, state)

end Site

end AccountServer
