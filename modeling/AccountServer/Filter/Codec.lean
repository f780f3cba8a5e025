import AccountServer.Filter.Tree
import AccountServer.Json.Decode

/-!
# Filters as JSON

A criterion is an object with the name of its test: `{"ge": 5}`, `{"between": [1, 2]}`,
`{"one_of": []}`. A filter is `{"condition": …}` or
`{"operation": {"op": "and", "operands": […]}}`.
-/

namespace AccountServer

/-! ## Criteria -/

namespace Criterion

variable {α : Type}

/-- The JSON form, given that of the values. -/
def toJson (value : α → Json) : Criterion α → Json
  | .eq v => .object [("eq", value v)]
  | .ne v => .object [("ne", value v)]
  | .lt v => .object [("lt", value v)]
  | .le v => .object [("le", value v)]
  | .gt v => .object [("gt", value v)]
  | .ge v => .object [("ge", value v)]
  | .between low high => .object [("between", .array [value low, value high])]
  | .oneOf values => .object [("one_of", .array (values.map value))]

/-- Reads a criterion, given how a value is read. -/
def decode (value : Json.Decoder α) : Json.Decoder (Criterion α) :=
  Json.decodeVariant []
    [("eq", fun j => (value j).map .eq),
     ("ne", fun j => (value j).map .ne),
     ("lt", fun j => (value j).map .lt),
     ("le", fun j => (value j).map .le),
     ("gt", fun j => (value j).map .gt),
     ("ge", fun j => (value j).map .ge),
     ("between", fun j => (Json.decodePair value value j).map fun (low, high) => .between low high),
     ("one_of", fun j => (Json.decodeList value j).map .oneOf)]

end Criterion

/-! ## Filters -/

/-- Reads the name of an operator. -/
def Operator.decode : Json.Decoder Operator :=
  Json.decodeVariant [("and", .and), ("or", .or), ("not", .not)] []

namespace Filter

variable {W : Type}

mutual

/-- The JSON form, given that of the conditions. -/
def toJson (leaf : W → Json) : Filter W → Json
  | .condition w => .object [("condition", leaf w)]
  | .operation op operands =>
    .object [("operation",
      .object [("op", .string op.name), ("operands", .array (allToJson leaf operands))])]

/-- The JSON forms of a list. -/
def allToJson (leaf : W → Json) : List (Filter W) → List Json
  | [] => []
  | t :: rest => t.toJson leaf :: allToJson leaf rest

end

/-- Reads the members of an operation, with what was found of the operator and the operands so far.
Neither may come twice, both have to be there, and other members are passed over. -/
def decodeMembers (operands : Json.Decoder (List (Filter W))) (op? : Option Operator)
    (operands? : Option (List (Filter W))) :
    List (String × Json) → Except Json.Fault (Operator × List (Filter W))
  | [] =>
    match op?, operands? with
    | some op, some ts => .ok (op, ts)
    | _, _ => .error .unfit
  | (name, j) :: rest =>
    if name = "op" then
      if op?.isSome then .error .unfit
      else do decodeMembers operands (some (← Operator.decode j)) operands? rest
    else if name = "operands" then
      if operands?.isSome then .error .unfit
      else do decodeMembers operands op? (some (← operands j)) rest
    else do
      Json.ignore j
      decodeMembers operands op? operands? rest

/-- Reads the payload of an operation: an object, and in a text also an array. -/
def decodeOperation (operands : Json.Decoder (List (Filter W))) (positional : Bool) :
    Json.Decoder (Operator × List (Filter W))
  | .object members => decodeMembers operands none none members
  | .array items =>
    if positional then Json.decodePair Operator.decode operands (.array items) else .error .unfit
  | j => .error j.mismatch

/-- Reads a filter of at most `levels` levels of JSON. -/
def decodeWithin (leaf : Json.Decoder W) (positional : Bool) : Nat → Json.Decoder (Filter W)
  | 0 => fun j => .error j.mismatch
  | levels + 1 =>
    Json.decodeVariant []
      [("condition", fun j => (leaf j).map .condition),
       ("operation", fun j =>
          (decodeOperation (Json.decodeList (decodeWithin leaf positional levels)) positional j).map
            fun (op, operands) => .operation op operands)]

/-- Reads a filter from a value. -/
def decode (leaf : Json.Decoder W) : Json.Decoder (Filter W) :=
  fun j => decodeWithin leaf false j.depth j

/-- Reads a filter from what was read of a text. -/
def decodeFromText (leaf : Json.Decoder W) : Json.Decoder (Filter W) :=
  fun j => decodeWithin leaf true j.depth j

end Filter

end AccountServer
