import AccountServer.Filter.Limits

/-!
# Criteria on one field

A `Criterion` is a test on the value of a single field. `accepts` evaluates it, `acceptsOptional`
evaluates it on a field that may be absent, and `limits` gives inclusive bounds for the values it
accepts, which a store can use to look at fewer records.
-/

namespace AccountServer

/-- A test applied to one field of a record. -/
inductive Criterion (α : Type) where
  | eq (value : α)
  | ne (value : α)
  | lt (value : α)
  | le (value : α)
  | gt (value : α)
  | ge (value : α)
  /-- Between two values, both ends included. -/
  | between (low high : α)
  | oneOf (values : List α)
  deriving DecidableEq, Repr

namespace Criterion

variable {α : Type} [PartialCompare α]

open PartialCompare

/-- Whether the value passes the test. -/
def accepts (c : Criterion α) (value : α) : Bool :=
  match c with
  | .eq v => same value v
  | .ne v => !same value v
  | .lt v => less value v
  | .le v => atMost value v
  | .gt v => greater value v
  | .ge v => atLeast value v
  | .between low high => atLeast value low && atMost value high
  | .oneOf values => values.any (same · value)

/-- An absent value passes only the test for being different. -/
def acceptsOptional (c : Criterion α) : Option α → Bool
  | some value => c.accepts value
  | none =>
    match c with
    | .ne _ => true
    | _ => false

/-- Inclusive bounds that hold every accepted value. A strict comparison gives the inclusive
bound, which takes in one value too many. -/
def limits : Criterion α → Limits α
  | .eq v => .exactly v
  | .ne _ => .unbounded
  | .lt v | .le v => .atMost v
  | .gt v | .ge v => .atLeast v
  | .between low high => ⟨some low, some high⟩
  | .oneOf [] => .unbounded
  | .oneOf (v :: rest) => rest.foldl (fun acc w => acc.widen greater (.exactly w)) (.exactly v)

end Criterion

end AccountServer
