/-!
# Comparison

Filters compare field values of many types. Some of them have values that compare with nothing,
not even with themselves (a floating point NaN), so a comparison answers an `Option Ordering`.

The tests `same`, `less`, `atMost`, … are read off that one answer and are all false when there is
none.
-/

namespace AccountServer

/-- Comparison of values, some of which may be incomparable. -/
class PartialCompare (α : Type) where
  /-- How the first value stands to the second; `none` when they cannot be compared. -/
  compare? : α → α → Option Ordering

namespace PartialCompare

variable {α : Type} [PartialCompare α]

/-- The values compare as equal. -/
def same (a b : α) : Bool :=
  match compare? a b with
  | some .eq => true
  | _ => false

/-- The first value is below the second. -/
def less (a b : α) : Bool :=
  match compare? a b with
  | some .lt => true
  | _ => false

/-- The first value is below the second or equal to it. -/
def atMost (a b : α) : Bool :=
  match compare? a b with
  | some .lt | some .eq => true
  | _ => false

/-- The first value is above the second. -/
def greater (a b : α) : Bool :=
  match compare? a b with
  | some .gt => true
  | _ => false

/-- The first value is above the second or equal to it. -/
def atLeast (a b : α) : Bool :=
  match compare? a b with
  | some .gt | some .eq => true
  | _ => false

end PartialCompare

/-! ## The plain types -/

instance : PartialCompare Int := ⟨fun a b => some (compare a b)⟩

/-- Falsehood is below truth. -/
instance : PartialCompare Bool := ⟨fun a b => some (compare a.toNat b.toNat)⟩

/-- Texts compare by code point, which is also the order of their UTF-8 bytes. -/
instance : PartialCompare String := ⟨fun a b => some (compare a b)⟩

/-- Lists compare at the first place where they differ; a proper beginning comes first. -/
def PartialCompare.lexicographic {α : Type} [PartialCompare α] :
    List α → List α → Option Ordering
  | [], [] => some .eq
  | [], _ :: _ => some .lt
  | _ :: _, [] => some .gt
  | a :: as, b :: bs =>
    match compare? a b with
    | some .eq => lexicographic as bs
    | other => other

instance {α : Type} [PartialCompare α] : PartialCompare (List α) := ⟨PartialCompare.lexicographic⟩

end AccountServer
