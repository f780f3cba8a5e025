import AccountServer.Account.Query
import AccountServer.Proofs.Filter.Simplify

/-!
# Where the ends of bounds come from

Narrowing and widening choose among the ends that they are given. So every end of the bounds of a
tree is an end of the bounds of some leaf, and every end of the bounds of a criterion is a value
that the criterion names.
-/

namespace AccountServer

open PartialCompare

namespace Limits

variable {α : Type} {gt : α → α → Bool} {v : α}

/-- The ends that are set. -/
def ends (l : Limits α) : List α := l.min.toList ++ l.max.toList

theorem mem_ends {l : Limits α} : v ∈ l.ends ↔ l.min = some v ∨ l.max = some v := by
  simp [ends]

@[simp] theorem ends_unbounded : (unbounded : Limits α).ends = [] := rfl

/-- What both bounds allow ends where one of them ends. -/
theorem mem_ends_of_narrow {a b : Limits α} (h : v ∈ (narrow gt a b).ends) :
    v ∈ a.ends ∨ v ∈ b.ends := by
  unfold narrow at h
  split at h
  · exact Or.inl h
  · split at h
    · exact Or.inr h
    · obtain ⟨amin, amax⟩ := a
      obtain ⟨bmin, bmax⟩ := b
      simp only [mem_ends] at *
      cases amin <;> cases amax <;> cases bmin <;> cases bmax <;> grind [upper, lower]

/-- What either of the bounds allows ends where one of them ends. -/
theorem mem_ends_of_widen {a b : Limits α} (h : v ∈ (widen gt a b).ends) :
    v ∈ a.ends ∨ v ∈ b.ends := by
  unfold widen at h
  split at h
  · exact Or.inr h
  · split at h
    · exact Or.inl h
    · obtain ⟨amin, amax⟩ := a
      obtain ⟨bmin, bmax⟩ := b
      simp only [mem_ends] at *
      cases amin <;> cases amax <;> cases bmin <;> cases bmax <;> grind [lower]

/-- The same of any number of bounds. -/
theorem mem_ends_of_foldl_widen : ∀ {ranges : List (Limits α)} {acc : Limits α},
    v ∈ (ranges.foldl (·.widen gt) acc).ends → v ∈ acc.ends ∨ ∃ l ∈ ranges, v ∈ l.ends
  | [], _, h => Or.inl h
  | l :: rest, acc, h => by
    rw [List.foldl_cons] at h
    rcases mem_ends_of_foldl_widen h with h | ⟨m, hm, h⟩
    · rcases mem_ends_of_widen h with h | h
      · exact Or.inl h
      · exact Or.inr ⟨l, List.mem_cons_self, h⟩
    · exact Or.inr ⟨m, List.mem_cons_of_mem _ hm, h⟩

end Limits

namespace Criterion

variable {α : Type} [PartialCompare α] {v : α}

/-- The values that a criterion names. -/
def values : Criterion α → List α
  | .eq v | .ne v | .lt v | .le v | .gt v | .ge v => [v]
  | .between low high => [low, high]
  | .oneOf values => values

/-- A criterion is bounded by values that it names itself. -/
theorem mem_values_of_limits {c : Criterion α} (h : v ∈ c.limits.ends) : v ∈ c.values := by
  cases c with
  | eq w | lt w | le w | gt w | ge w =>
    simpa [limits, values, Limits.ends, Limits.exactly, Limits.atMost, Limits.atLeast] using h
  | ne w => contradiction
  | between low high => simpa [limits, values, Limits.ends] using h
  | oneOf values =>
    cases values with
    | nil => contradiction
    | cons first rest =>
      rw [limits, ← List.foldl_map] at h
      rcases Limits.mem_ends_of_foldl_widen h with h | ⟨l, hl, h⟩
      · have hv : v = first := by simpa [Limits.ends, Limits.exactly] using h
        exact hv ▸ List.mem_cons_self
      · obtain ⟨w, hw, rfl⟩ := List.mem_map.mp hl
        have hv : v = w := by simpa [Limits.ends, Limits.exactly] using h
        exact hv ▸ List.mem_cons_of_mem _ hw

end Criterion

namespace Filter

section Ranges

variable {Index : Type} [PartialCompare Index] {v : Index}

theorem mem_ends_of_narrowAll : ∀ {ranges : List (Limits Index)} {acc : Limits Index},
    v ∈ (narrowAll acc ranges).ends → v ∈ acc.ends ∨ ∃ l ∈ ranges, v ∈ l.ends
  | [], _, h => Or.inl h
  | l :: rest, acc, h => by
    have hnext : v ∈ (acc.narrow greater l).ends → v ∈ acc.ends ∨ ∃ m ∈ l :: rest, v ∈ m.ends := by
      intro h
      exact (Limits.mem_ends_of_narrow h).imp_right fun h => ⟨l, List.mem_cons_self, h⟩
    rw [narrowAll] at h
    split at h
    · exact hnext h
    · rcases mem_ends_of_narrowAll h with h | ⟨m, hm, h⟩
      · exact hnext h
      · exact Or.inr ⟨m, List.mem_cons_of_mem _ hm, h⟩

/-- Ranges that allow nothing are left out of a cover, or else the first of them stands for all. -/
theorem mem_ends_of_coverAll {ranges : List (Limits Index)} (h : v ∈ (coverAll ranges).ends) :
    ∃ l ∈ ranges, v ∈ l.ends := by
  unfold coverAll at h
  split at h
  · next start rest heq =>
    have hsub : ∀ l ∈ start :: rest, l ∈ ranges := fun l hl =>
      (List.dropWhile_sublist _).subset (heq ▸ hl)
    rcases Limits.mem_ends_of_foldl_widen h with h | ⟨l, hl, h⟩
    · exact ⟨start, hsub start List.mem_cons_self, h⟩
    · exact ⟨l, hsub l (List.mem_cons_of_mem _ hl), h⟩
  · cases ranges with
    | nil => contradiction
    | cons l rest => exact ⟨l, List.mem_cons_self, h⟩

end Ranges

section Trees

variable {W : Type}

mutual

/-- The conditions of a tree. -/
def leaves : Filter W → List W
  | .condition leaf => [leaf]
  | .operation _ operands => leavesAll operands

/-- The conditions of each tree of a list. -/
def leavesAll : List (Filter W) → List W
  | [] => []
  | t :: rest => t.leaves ++ leavesAll rest

end

theorem mem_leavesAll {ts : List (Filter W)} {leaf : W} :
    leaf ∈ leavesAll ts ↔ ∃ t ∈ ts, leaf ∈ t.leaves := by
  induction ts with
  | nil => simp [leavesAll]
  | cons t rest ih => simp [leavesAll, ih]

variable {Record Index : Type} [Condition W Record Index] [PartialCompare Index] {v : Index}

/-- An end of the bounds of a tree is one of the bounds of a leaf. -/
theorem exists_leaf_of_mem_ends {t : Filter W} (h : v ∈ t.simplify.treeLimits.ends) :
    ∃ leaf ∈ t.leaves, v ∈ (Condition.limits leaf : Limits Index).ends := by
  -- Both ways to put bounds together take their ends from the operands.
  have operands {op : Operator} {ts : List (Filter W)}
      (ih : ∀ t ∈ ts, v ∈ t.simplify.treeLimits.ends →
        ∃ leaf ∈ t.leaves, v ∈ (Condition.limits leaf : Limits Index).ends)
      (h : ∃ l ∈ treeLimitsAll (ts.map simplify), v ∈ l.ends) :
      ∃ leaf ∈ (operation op ts).leaves, v ∈ (Condition.limits leaf : Limits Index).ends := by
    obtain ⟨l, hl, h⟩ := h
    rw [treeLimitsAll_eq_map, List.map_map] at hl
    obtain ⟨t, ht, rfl⟩ := List.mem_map.mp hl
    obtain ⟨leaf, hleaf, h⟩ := ih t ht h
    exact ⟨leaf, mem_leavesAll.mpr ⟨t, ht, hleaf⟩, h⟩
  induction t using simplifyInduction with
  | condition leaf => exact ⟨leaf, List.mem_singleton_self leaf, h⟩
  | and ts ih =>
    rw [simplify_and, treeLimits] at h
    rcases mem_ends_of_narrowAll h with h | h
    · contradiction
    · exact operands ih h
  | or ts ih =>
    rw [simplify_or, treeLimits] at h
    exact operands ih (mem_ends_of_coverAll h)
  | empty => contradiction
  | double inner extra others ih =>
    rw [simplify_double] at h
    obtain ⟨leaf, hleaf, h⟩ := ih h
    exact ⟨leaf, by simp [leaves, leavesAll, hleaf], h⟩
  -- A negation has no bounds at all.
  | not first others single ih =>
    rw [simplify_not single, treeLimits] at h
    contradiction

end Trees

end Filter

end AccountServer
