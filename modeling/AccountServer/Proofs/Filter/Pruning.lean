import AccountServer.Account.Query
import AccountServer.Filter.Number
import AccountServer.Proofs.Filter.Criteria
import AccountServer.Proofs.Filter.Span

/-!
# Bounds on the index lose no match

A store looks at those records only whose index lies in `Filter.indexLimits`. That is right if
every record that matches lies there.

* `Condition.Sound` asks this of the leaves alone.
* What matches a tree lies in the span of the simplified tree, by induction along the recursion of
  `simplify`. A negation bounds nothing, so that nothing has to be known of what does not match.
* That span has the values of the bounds of the tree.
-/

namespace AccountServer

open PartialCompare

/-- The records that pass a leaf have their index within the bounds of the leaf. -/
def Condition.Sound (W : Type) {Record Index : Type} [Condition W Record Index]
    [PartialCompare Index] (index : Record → Index) : Prop :=
  ∀ (leaf : W) (record : Record), Condition.holds leaf record = true →
    (Condition.limits leaf).contains greater (index record) = true

namespace Filter

/-! ## Trees -/

section Trees

variable {W Record Index : Type} [Condition W Record Index] [PartialCompare Index]
  {index : Record → Index}

/-- What a tree matches has its index in the span of the simplified tree. Only a double negation is
taken away by simplifying, and what is left of it matches the same. -/
theorem mem_span_simplify [TotalCompare Index] (hs : Condition.Sound W index) {t : Filter W}
    {r : Record} (h : t.matches? r = true) : index r ∈ t.simplify.span := by
  induction t using simplifyInduction with
  | condition leaf => exact hs leaf r h
  | and operands ih =>
    rw [matches?, allMatch_eq_all, List.all_map, List.all_eq_true] at h
    rw [simplify_and]
    exact mem_span_and.mpr (List.forall_mem_map.mpr (List.forall_mem_map.mpr fun t ht =>
      ih t ht (h t ht)))
  | or operands ih =>
    rw [matches?, anyMatches_eq_any, List.any_map, List.any_eq_true] at h
    obtain ⟨t, ht, h⟩ := h
    rw [simplify_or]
    exact mem_span_or.mpr (Or.inr (Limits.subset_hull _
      ⟨_, List.mem_map_of_mem (List.mem_map_of_mem ht), ih t ht h⟩))
  | empty => simp [simplify, span]
  | double inner extra others ih =>
    rw [matches?, matches?, Bool.not_not] at h
    rw [simplify_double]
    exact ih h
  | not first others single => simp [simplify_not single, span]

/-- A record that a tree matches has its index within the bounds of the tree. -/
theorem contains_indexLimits [TotalCompare Index] (hs : Condition.Sound W index) (r : Record)
    (t : Filter W) (h : t.matches? r = true) :
    t.simplify.treeLimits.contains greater (index r) = true := by
  rw [← Limits.mem_values, values_treeLimits]
  exact mem_span_simplify hs h

end Trees

end Filter

/-! ## Numbers and users -/

theorem NumberCondition.sound : Condition.Sound NumberCondition (id : Int → Int) := by
  intro w n h
  obtain ⟨hvalue, -⟩ := (Bool.and_eq_true _ _).mp h
  show w.limits.contains greater n = true
  unfold limits
  split
  · next c heq =>
    rw [heq] at hvalue
    exact c.contains_limits hvalue
  · rfl

/-- A user who passes a condition was created within its bounds, whatever else it asks. -/
theorem UserCondition.sound : Condition.Sound UserCondition User.created := by
  intro w u h
  have hcreated : passes w.created u.created = true := by
    simp only [Condition.holds, holds, Bool.and_eq_true] at h
    exact h.1.2
  show w.createdLimits.contains greater u.created = true
  unfold createdLimits
  split
  · next c heq =>
    rw [heq] at hcreated
    exact c.contains_limits hcreated
  · rfl

namespace Filter

/-- **Pruning loses no match.** This holds of every tree over sound leaves whose index is totally
ordered, and so of every filter on users with the time of creation as index. -/
theorem indexLimits_lose_no_match :
    (∀ {W Record Index : Type} [Condition W Record Index] [PartialCompare Index]
        [TotalCompare Index] (index : Record → Index), Condition.Sound W index →
      ∀ (t : Filter W) (r : Record), t.matches? r = true →
        t.indexLimits.contains greater (index r) = true) ∧
    Condition.Sound UserCondition User.created ∧
    ∀ (f : UserFilter) (u : User), f.matches? u = true →
      f.indexLimits.contains greater u.created = true :=
  ⟨fun _ hs t r => contains_indexLimits hs r t, UserCondition.sound,
    fun f u => contains_indexLimits UserCondition.sound u f⟩

/-- An impossible operand, a double negation with a second operand and an empty negation. -/
theorem indexLimits_keep_five :
    let t : Filter NumberCondition := .operation .or
      [.operation .and [.condition ⟨some (.ge 8), none⟩, .condition ⟨some (.le 3), none⟩],
        .operation .not
          [.operation .not [.condition ⟨some (.between 4 6), some false⟩, .operation .not []]],
        .operation .not []]
    t.matches? 5 = true ∧ t.indexLimits.contains greater (5 : Int) = true := by
  refine ⟨by decide, ?_⟩
  exact indexLimits_lose_no_match.1 id NumberCondition.sound _ (5 : Int) (by decide)

end Filter

end AccountServer
