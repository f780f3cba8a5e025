import AccountServer.Number.Numeral
import AccountServer.Number.Word

/-!
# Arguments

The options of the command line. Each may be given once; its value is the next argument, or stands
behind an equals sign, or follows the one letter of the option. The path of the configuration may
come from the environment instead.
-/

namespace AccountServer

/-- What the command line says. -/
structure Arguments where
  config : Option String := none
  address : Option String := none
  port : Option Nat := none
  deriving DecidableEq, Repr

/-- What the program is asked to do. -/
inductive Invocation where
  | run (arguments : Arguments)
  | help
  | version
  /-- The arguments are not understood. -/
  | misuse
  deriving DecidableEq, Repr

namespace Arguments

/-- The options that have a value. -/
inductive Key where
  | config
  | address
  | port
  deriving DecidableEq, Repr

/-- An option, by its long name. -/
inductive Choice where
  | valued (key : Key)
  | help
  | version
  deriving DecidableEq, Repr

def Choice.named : List (String × Choice) :=
  [("config", .valued .config), ("address", .valued .address), ("port", .valued .port),
   ("help", .help), ("version", .version)]

/-- The options of one letter. -/
def Choice.lettered : List (Char × Choice) :=
  [('c', .valued .config), ('h', .help), ('V', .version)]

/-- A number of 16 bits. -/
def port? (text : String) : Option Nat := do
  let n ← Numeral.integer? 10 Word.minInt64 Word.maxInt64 text.toList
  if 0 ≤ n && n ≤ 65535 then some n.toNat else none

/-- Takes in the value of an option, unless it has one already or the value does not fit. -/
def set (a : Arguments) (key : Key) (value : String) : Option Arguments :=
  match key with
  | .config => if a.config.isSome || value.isEmpty then none else some { a with config := value }
  | .address => if a.address.isSome then none else some { a with address := value }
  | .port => do
    let port ← port? value
    if a.port.isSome then none else some { a with port := port }

/-- What an argument means. -/
inductive Reading where
  | choice (choice : Choice) (value : Option String)
  /-- Two hyphens, behind which there are no options. -/
  | stop
  | unknown
  deriving DecidableEq, Repr

/-- Reads an argument that begins with two hyphens, which are left out. -/
def readLong (cs : List Char) : Reading :=
  let name := cs.takeWhile (· != '=')
  match Choice.named.lookup (String.ofList name), cs.drop name.length with
  | some choice, [] => .choice choice none
  | some choice, _ :: value => .choice choice (some (String.ofList value))
  | none, _ => .unknown

/-- Reads an argument that begins with a hyphen, which is left out. -/
def readShort : List Char → Reading
  | letter :: rest =>
    match Choice.lettered.lookup letter, rest with
    | some (.valued key), [] => .choice (.valued key) none
    | some (.valued key), '=' :: value | some (.valued key), value =>
      .choice (.valued key) (some (String.ofList value))
    | some choice, _ => .choice choice none
    | none, _ => .unknown
  | [] => .unknown

/-- Reads an argument. -/
def readOne (argument : String) : Reading :=
  match argument.toList with
  | ['-', '-'] => .stop
  | '-' :: '-' :: cs => readLong cs
  | '-' :: cs => readShort cs
  | _ => .unknown

/-- Whether an argument can be the value of the option in front of it. -/
def isValue (argument : String) : Bool := argument = "-" || !argument.startsWith "-"

/-- Reads the arguments from the first to the last. -/
def readAll (a : Arguments) : List String → Invocation
  | [] => .run a
  | argument :: rest =>
    match readOne argument with
    | .choice .help none => .help
    | .choice .version none => .version
    | .choice (.valued key) (some value) =>
      match a.set key value with
      | some a => a.readAll rest
      | none => .misuse
    | .choice (.valued key) none =>
      match rest with
      | value :: rest =>
        match a.set key value with
        | some a => if isValue value then a.readAll rest else .misuse
        | none => .misuse
      | [] => .misuse
    | .stop => if rest.isEmpty then .run a else .misuse
    | .choice .. | .unknown => .misuse

/-- Reads the arguments. The path that comes from the environment counts if there is no other. -/
def read (environment : Option String) (arguments : List String) : Invocation :=
  match readAll {} arguments, environment with
  | .run a, some path =>
    match a.config with
    | some _ => .run a
    | none => if path.isEmpty then .misuse else .run { a with config := path }
  | invocation, _ => invocation

end Arguments

end AccountServer
