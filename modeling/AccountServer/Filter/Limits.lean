import AccountServer.Filter.Order

/-!
# Inclusive bounds

A `Limits α` is a range of which either end may be unbounded. The operations take the strict
comparison `gt` ("the first is greater than the second") as an argument, so that one algebra
serves every value type and every order on it.

A range whose ends are both set and out of order is *impossible*: no value lies in it. `narrow`
and `widen` treat such a range apart. `narrow` hands it on unchanged, and `widen` drops it in
favour of the other range.
-/

namespace AccountServer

/-- A range of values; an end that is `none` is unbounded. -/
structure Limits (α : Type) where
  min : Option α
  max : Option α
  deriving DecidableEq, Repr

namespace Limits

variable {α : Type}

/-- Unbounded on both sides. -/
def unbounded : Limits α := ⟨none, none⟩

/-- Bounded from below only. -/
def atLeast (low : α) : Limits α := ⟨some low, none⟩

/-- Bounded from above only. -/
def atMost (high : α) : Limits α := ⟨none, some high⟩

/-- The range of one value. -/
def exactly (value : α) : Limits α := ⟨some value, some value⟩

/-- Neither end is set. -/
def isOpen (l : Limits α) : Bool := l.min.isNone && l.max.isNone

/-- Both ends are set and the lower one is greater than the upper one. -/
def isImpossible (gt : α → α → Bool) (l : Limits α) : Bool :=
  match l.min, l.max with
  | some low, some high => gt low high
  | _, _ => false

/-- The value is not below the lower end and not above the upper end. -/
def contains (gt : α → α → Bool) (l : Limits α) (value : α) : Bool :=
  (match l.min with
    | some low => !gt low value
    | none => true) &&
  (match l.max with
    | some high => !gt value high
    | none => true)

/-- The greater of two values, the second when neither is greater. -/
def upper (gt : α → α → Bool) (a b : α) : α := if gt a b then a else b

/-- The lesser of two values, the first when neither is greater. -/
def lower (gt : α → α → Bool) (a b : α) : α := if gt a b then b else a

/-- The range common to both. An impossible operand is returned as it is, the first one first. -/
def narrow (gt : α → α → Bool) (a b : Limits α) : Limits α :=
  if a.isImpossible gt then a
  else if b.isImpossible gt then b
  else
    { min := match a.min, b.min with
        | none, low => low
        | low, none => low
        | some x, some y => some (upper gt x y)
      max := match a.max, b.max with
        | none, high => high
        | high, none => high
        | some x, some y => some (lower gt x y) }

/-- The smallest range that covers both. An impossible operand gives way to the other one. -/
def widen (gt : α → α → Bool) (a b : Limits α) : Limits α :=
  if a.isImpossible gt then b
  else if b.isImpossible gt then a
  else
    { min := match a.min, b.min with
        | some x, some y => some (lower gt x y)
        | _, _ => none
      max := match a.max, b.max with
        | some x, some y => some (if gt x y then x else y)
        | _, _ => none }

/-- Whether both ends are the same as values. -/
def same [PartialCompare α] (a b : Limits α) : Bool :=
  let sameEnd : Option α → Option α → Bool
    | none, none => true
    | some x, some y => PartialCompare.same x y
    | _, _ => false
  sameEnd a.min b.min && sameEnd a.max b.max

end Limits

end AccountServer
