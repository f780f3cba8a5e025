import AccountServer.Http.Pattern

/-!
# Routers

A router knows paths, and for each path the methods it can be asked with. Routers are put together
by `merge`, which takes over the paths of another one, and `nest`, which takes them over below a
mount point. Both fail, with a `RouteFault`, rather than leave it open which of two handlers a
request means.
-/

namespace AccountServer

/-- The methods that handlers are registered for. -/
inductive Method where
  | get
  | post
  | put
  | delete
  deriving DecidableEq, Repr

namespace Method

def name : Method → String
  | .get => "GET"
  | .post => "POST"
  | .put => "PUT"
  | .delete => "DELETE"

/-- The names by which a client can mean the method. What can be fetched can be asked for its
headers. -/
def names : Method → List String
  | .get => ["GET", "HEAD"]
  | m => [m.name]

end Method

/-- Why a path cannot be added to a router. -/
inductive RouteFault where
  /-- There is a handler for this method and path already. -/
  | overlap (method : Method) (path : List Char)
  /-- The path cannot be told from one that the router has. -/
  | conflict (path other : List Char)
  /-- The parameters of the path are malformed. -/
  | malformed (path : List Char)
  /-- A mount point with an asterisk. -/
  | asterisk (mount : List Char)
  deriving DecidableEq, Repr

/-- A path with its handlers, which are of type `H`. -/
structure Resource (H : Type) where
  path : List Char
  pattern : PathPattern
  handlers : List (Method × H)

namespace Resource

variable {H : Type}

/-- The names of all methods that the path can be asked with. -/
def allowed (r : Resource H) : List String := r.handlers.flatMap fun (m, _) => m.names

/-- The handler for the method of a name. -/
def handler? (r : Resource H) (method : String) : Option H :=
  (r.handlers.find? fun (m, _) => m.names.contains method).map Prod.snd

/-- The handlers of a path together with more of them. -/
def extend (r : Resource H) (handlers : List (Method × H)) : Except RouteFault (Resource H) :=
  match handlers.find? fun (m, _) => r.handlers.any fun (n, _) => n = m with
  | some (m, _) => .error (.overlap m r.path)
  | none => .ok { r with handlers := r.handlers ++ handlers }

end Resource

/-- Paths with their handlers. -/
structure Router (H : Type) where
  resources : List (Resource H)

namespace Router

variable {H : Type}

def empty : Router H := ⟨[]⟩

/-- Replaces the resource of a path by what `f` makes of it. -/
def modify (path : List Char) (f : Resource H → Except RouteFault (Resource H)) :
    List (Resource H) → Except RouteFault (List (Resource H))
  | [] => .ok []
  | r :: rest =>
    if r.path = path then do return (← f r) :: rest
    else do return r :: (← modify path f rest)

/-- Adds handlers for a path. -/
def add (router : Router H) (path : List Char) (handlers : List (Method × H)) :
    Except RouteFault (Router H) :=
  if router.resources.any fun r => r.path = path then do
    return ⟨← modify path (·.extend handlers) router.resources⟩
  else
    match PathPattern.parse? path with
    | none => .error (.malformed path)
    | some pattern =>
      match router.resources.find? fun r => r.pattern.sameShape pattern with
      | some r => .error (.conflict path r.path)
      | none => .ok ⟨router.resources ++ [⟨path, pattern, handlers⟩]⟩

/-- A router of these paths. -/
def ofRoutes (routes : List (String × List (Method × H))) : Except RouteFault (Router H) :=
  routes.foldlM (fun router (path, handlers) => router.add path.toList handlers) empty

/-- Adds the paths of another router. -/
def merge (router other : Router H) : Except RouteFault (Router H) :=
  other.resources.foldlM (fun router r => router.add r.path r.handlers) router

/-- A path below a mount point. The root of what is mounted has the path of the mount point. -/
def below (mount path : List Char) : List Char :=
  if mount.getLast? = some '/' then mount ++ path.dropWhile (· == '/')
  else if path = ['/'] then mount
  else mount ++ path

/-- Adds the paths of another router below a mount point. -/
def nest (router : Router H) (mount : List Char) (other : Router H) :
    Except RouteFault (Router H) :=
  if mount.contains '*' then .error (.asterisk mount)
  else other.resources.foldlM (fun router r => router.add (below mount r.path) r.handlers) router

/-- Adds the paths of another router below a mount point, which may be the root. -/
def mount (router : Router H) (base : String) (other : Router H) :
    Except RouteFault (Router H) :=
  if base = "/" then router.merge other else router.nest base.toList other

/-- The resource that a path means, with the values of its parameters. -/
def find? (router : Router H) (path : List Char) : Option (Resource H × List (List Char)) :=
  router.resources.foldl
    (fun best r =>
      match r.pattern.match? path, best with
      | none, best => best
      | some values, none => some (r, values)
      | some values, some (other, others) =>
        if r.pattern.preferred other.pattern then some (r, values) else some (other, others))
    none

end Router

end AccountServer
