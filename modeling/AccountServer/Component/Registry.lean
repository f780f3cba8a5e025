/-!
# Components

The server is put together from components. A registry knows which of them there are; a
configuration picks from it by name.
-/

namespace AccountServer

/-- A part of the server that can be mounted. -/
inductive Component where
  /-- The account service. -/
  | auth
  | echo
  | hello
  deriving DecidableEq, Repr

def Component.name : Component → String
  | .auth => "auth"
  | .echo => "echo"
  | .hello => "hello"

/-- Components by name. -/
structure ComponentRegistry where
  components : List Component

namespace ComponentRegistry

def empty : ComponentRegistry := ⟨[]⟩

/-- Puts in a component, in place of an earlier one of its name. -/
def register (r : ComponentRegistry) (c : Component) : ComponentRegistry :=
  ⟨c :: r.components.filter fun other => other.name ≠ c.name⟩

/-- The registry of all components there are. -/
def full : ComponentRegistry := ((empty.register .auth).register .echo).register .hello

def get? (r : ComponentRegistry) (name : String) : Option Component :=
  r.components.find? fun c => c.name = name

/-- The names in ascending order. -/
def names (r : ComponentRegistry) : List String :=
  (r.components.map Component.name).mergeSort fun a b => a ≤ b

end ComponentRegistry

end AccountServer
