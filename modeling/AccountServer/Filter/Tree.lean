import AccountServer.Filter.Criterion

/-!
# Filter trees

A filter combines conditions with `and`, `or` and `not`. It is a value: each combinator builds a
new tree around the trees it is given.

* `matches?` decides whether a record passes.
* `simplify` removes double negations and what stands behind the first operand of a negation.
* `indexLimits` bounds the indexed field of all records that can pass. It is a hint for pruning:
  what lies outside cannot match, and what lies inside still has to be tried.
-/

namespace AccountServer

/-- What a leaf of a filter knows: a test on records and the bounds it sets for the index. -/
class Condition (W : Type) (Record Index : outParam Type) where
  holds : W → Record → Bool
  limits : W → Limits Index

/-- How an inner node combines its operands. -/
inductive Operator where
  | and
  | or
  /-- Applies to the first operand only. -/
  | not
  deriving DecidableEq, Repr

/-- The written name of an operator. -/
def Operator.name : Operator → String
  | .and => "and"
  | .or => "or"
  | .not => "not"

/-- A tree of conditions. -/
inductive Filter (W : Type) where
  | condition (leaf : W)
  | operation (op : Operator) (operands : List (Filter W))
  deriving Repr

namespace Filter

variable {W : Type}

/-! ## Looking at the root -/

/-- Whether the root is an operation. -/
def isOperation : Filter W → Bool
  | .condition _ => false
  | .operation .. => true

/-- The condition at the root, if it is one. -/
def condition? : Filter W → Option W
  | .condition leaf => some leaf
  | .operation .. => none

/-- The operator at the root, if there is one. -/
def operator? : Filter W → Option Operator
  | .condition _ => none
  | .operation op _ => some op

/-- The operands of the root; a condition has none. -/
def operands : Filter W → List (Filter W)
  | .condition _ => []
  | .operation _ operands => operands

/-! ## Combining -/

/-- This tree and all the others. -/
def andAll (t : Filter W) (others : List (Filter W)) : Filter W := .operation .and (t :: others)

/-- This tree or any of the others. -/
def orAny (t : Filter W) (others : List (Filter W)) : Filter W := .operation .or (t :: others)

/-- The negation of this tree. -/
def negate (t : Filter W) : Filter W := .operation .not [t]

/-! ## Simplification -/

mutual

/-- Removes double negations everywhere and cuts every negation down to its first operand. A
negation without operands stays as it is. -/
def simplify : Filter W → Filter W
  | .condition leaf => .condition leaf
  | .operation .not [] => .operation .not []
  | .operation .not (.operation .not (inner :: _) :: _) => inner.simplify
  | .operation .not (first :: _) => .operation .not [first.simplify]
  | .operation op operands => .operation op (simplifyAll operands)

/-- Simplifies each tree of a list. -/
def simplifyAll : List (Filter W) → List (Filter W)
  | [] => []
  | t :: rest => t.simplify :: simplifyAll rest

end

mutual

/-- The number of levels, a condition being one. -/
def depth : Filter W → Nat
  | .condition _ => 1
  | .operation _ operands => depthAll operands + 1

/-- The depth of the deepest tree of a list, 0 for none. -/
def depthAll : List (Filter W) → Nat
  | [] => 0
  | t :: rest => max t.depth (depthAll rest)

end

/-! ## Evaluation -/

variable {Record Index : Type} [Condition W Record Index]

mutual

/-- Whether the record passes. No operand at all makes `and` true, `or` false and `not` false. -/
def matches? (t : Filter W) (record : Record) : Bool :=
  match t with
  | .condition leaf => Condition.holds leaf record
  | .operation .and operands => allMatch operands record
  | .operation .or operands => anyMatches operands record
  | .operation .not [] => false
  | .operation .not (first :: _) => !first.matches? record

/-- Whether the record passes every tree of the list. -/
def allMatch (ts : List (Filter W)) (record : Record) : Bool :=
  match ts with
  | [] => true
  | t :: rest => t.matches? record && allMatch rest record

/-- Whether the record passes some tree of the list. -/
def anyMatches (ts : List (Filter W)) (record : Record) : Bool :=
  match ts with
  | [] => false
  | t :: rest => t.matches? record || anyMatches rest record

end

/-! ## Bounds on the index -/

section Bounds

variable [PartialCompare Index]

open PartialCompare

/-- Narrows from the left and stops at the first impossible range. -/
def narrowAll (acc : Limits Index) : List (Limits Index) → Limits Index
  | [] => acc
  | l :: rest =>
    let next := acc.narrow greater l
    if next.isImpossible greater then next else narrowAll next rest

/-- Covers the ranges from the first possible one on. If all are impossible the first one stands
for them, and no range at all gives no bound. -/
def coverAll (ranges : List (Limits Index)) : Limits Index :=
  match ranges.dropWhile (·.isImpossible greater) with
  | start :: rest => rest.foldl (·.widen greater) start
  | [] => ranges.headD .unbounded

mutual

/-- The bounds read off a tree as it stands. A negation bounds nothing. -/
def treeLimits : Filter W → Limits Index
  | .condition leaf => Condition.limits leaf
  | .operation .not _ => .unbounded
  | .operation .and operands => narrowAll .unbounded (treeLimitsAll operands)
  | .operation .or operands => coverAll (treeLimitsAll operands)

/-- The bounds of each tree of a list. -/
def treeLimitsAll : List (Filter W) → List (Limits Index)
  | [] => []
  | t :: rest => t.treeLimits :: treeLimitsAll rest

end

/-- Bounds on the indexed field of every record the tree can match. -/
def indexLimits (t : Filter W) : Limits Index := t.simplify.treeLimits

end Bounds

end Filter

end AccountServer
