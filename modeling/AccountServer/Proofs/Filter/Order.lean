import Mathlib.Order.Defs.Unbundled
import AccountServer.Time.Instant
import AccountServer.Uuid

/-!
# Total comparisons

Most types of fields have no incomparable values. Their comparison is a lawful one of the standard
library with `some` around it, and `TotalCompare` says so.

* `atMost` is then a total preorder, and `greater` is its negation.
* `greater` is a strict weak order, which is all that the algebra of bounds asks for.
-/

namespace AccountServer

open PartialCompare

/-- Any two values compare, and by a lawful comparison. -/
class TotalCompare (α : Type) [PartialCompare α] : Prop where
  exists_cmp : ∃ cmp : α → α → Ordering,
    Std.TransCmp cmp ∧ ∀ a b : α, compare? a b = some (cmp a b)

theorem TotalCompare.of_cmp {α : Type} [PartialCompare α] (cmp : α → α → Ordering)
    [h : Std.TransCmp cmp] (hc : ∀ a b : α, compare? a b = some (cmp a b)) : TotalCompare α :=
  ⟨cmp, h, hc⟩

/-! ## The types of fields -/

instance : TotalCompare Int := .of_cmp compare fun _ _ => rfl

instance : TotalCompare Uuid := .of_cmp (compareOn fun id => id.bits.toNat) fun _ _ => rfl

instance : TotalCompare Instant :=
  .of_cmp (compareLex (compareOn Instant.seconds) (compareOn Instant.nanos)) fun _ _ => rfl

/-! ## The tests -/

namespace PartialCompare

section Cmp

variable {α : Type} [PartialCompare α] {cmp : α → α → Ordering}
  (hc : ∀ a b : α, compare? a b = some (cmp a b)) (a b : α)

include hc

theorem same_eq_isEq : same a b = (cmp a b).isEq := by
  rw [same, hc]
  cases cmp a b <;> rfl

theorem atMost_eq_isLE : atMost a b = (cmp a b).isLE := by
  rw [atMost, hc]
  cases cmp a b <;> rfl

theorem greater_eq_isGT : greater a b = (cmp a b).isGT := by
  rw [greater, hc]
  cases cmp a b <;> rfl

end Cmp

variable {α : Type} [PartialCompare α] [TotalCompare α]

/-- Of values that all compare, one is at most the other exactly if it is not greater. -/
@[simp] theorem not_greater (a b : α) : (!greater a b) = atMost a b := by
  obtain ⟨cmp, _, hc⟩ := TotalCompare.exists_cmp (α := α)
  rw [greater_eq_isGT hc, atMost_eq_isLE hc]
  cases cmp a b <;> rfl

/-- The same, as a proposition. -/
theorem greater_iff (a b : α) : greater a b = true ↔ ¬ atMost a b = true := by
  rw [← not_greater]
  cases greater a b <;> simp

/-- Swapping the two values swaps the outcome of the comparison, so one of the two is at most the
other. -/
theorem atMost_total (a b : α) : atMost a b = true ∨ atMost b a = true := by
  obtain ⟨cmp, _, hc⟩ := TotalCompare.exists_cmp (α := α)
  have hswap : cmp b a = (cmp a b).swap := Std.OrientedCmp.eq_swap
  rw [atMost_eq_isLE hc, atMost_eq_isLE hc, hswap]
  cases cmp a b <;> simp

theorem atMost_refl (a : α) : atMost a a = true := (atMost_total a a).elim id id

/-- Transitivity comes from the lawful comparison behind the test. -/
theorem atMost_trans {a b c : α} (hab : atMost a b = true) (hbc : atMost b c = true) :
    atMost a c = true := by
  obtain ⟨cmp, _, hc⟩ := TotalCompare.exists_cmp (α := α)
  rw [atMost_eq_isLE hc] at *
  exact Std.TransCmp.isLE_trans hab hbc

/-- Values are the same if each is at most the other; they need not be equal. -/
theorem same_iff {a b : α} : same a b = true ↔ atMost a b = true ∧ atMost b a = true := by
  obtain ⟨cmp, _, hc⟩ := TotalCompare.exists_cmp (α := α)
  have hswap : cmp b a = (cmp a b).swap := Std.OrientedCmp.eq_swap
  rw [same_eq_isEq hc, atMost_eq_isLE hc, atMost_eq_isLE hc, hswap]
  cases cmp a b <;> simp

/-- What compares as greater forms a strict weak order. -/
instance : IsStrictWeakOrder α (fun a b => greater a b = true) where
  irrefl a := by
    rw [greater_iff]
    exact fun h => h (atMost_refl a)
  trans a b c := by
    simp only [greater_iff]
    intro hab hbc hac
    have hba : atMost b a = true := (atMost_total a b).resolve_left hab
    exact hbc (atMost_trans hba hac)
  incomp_trans a b c := by
    simp only [greater_iff, Classical.not_not]
    intro ⟨hab, hba⟩ ⟨hbc, hcb⟩
    exact ⟨atMost_trans hab hbc, atMost_trans hcb hba⟩

end PartialCompare

end AccountServer
