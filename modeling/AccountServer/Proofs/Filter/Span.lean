import Mathlib.Logic.Relation
import AccountServer.Proofs.Filter.Hull
import AccountServer.Proofs.Filter.Order
import AccountServer.Proofs.Filter.Simplify

/-!
# What the bounds of a filter stand for

The `span` of a tree is a set of indexes that is put together from the spans of its operands, with no
regard to their order: the intersection for `and`, the hull of the union for `or`. The bounds that
are computed from a tree have exactly these values (`values_treeLimits`), though the computation
takes short cuts that depend on the order of the operands.

A tree `Reorders` to another if the operands of one `and` or `or` in it are permuted. Neither the
values of the bounds nor the records that match can tell the two apart. Below a negation the proof
carries two facts along, one on a tree and one on its negation, since two negations bring back the
tree.
-/

namespace AccountServer.Filter

open PartialCompare

variable {W Record Index : Type} [Condition W Record Index]

/-! ## The span of a tree -/

section Span

variable [PartialCompare Index]

mutual

/-- The indexes that a tree as it stands leaves possible. -/
def span : Filter W → Set Index
  | .condition leaf => (Condition.limits leaf).values greater
  | .operation .not _ => Set.univ
  | .operation .and operands => {v | ∀ S ∈ spans operands, v ∈ S}
  | .operation .or [] => Set.univ
  | .operation .or operands => Limits.hull greater {v | ∃ S ∈ spans operands, v ∈ S}

/-- The spans of the trees of a list. -/
def spans : List (Filter W) → List (Set Index)
  | [] => []
  | t :: rest => t.span :: spans rest

end

theorem spans_eq_map (ts : List (Filter W)) : spans ts = ts.map span := by
  induction ts with
  | nil => rfl
  | cons t rest ih => rw [spans, ih, List.map_cons]

theorem mem_span_and {operands : List (Filter W)} {v : Index} :
    v ∈ (operation .and operands).span ↔ ∀ S ∈ operands.map span, v ∈ S := by
  rw [span, spans_eq_map]
  exact Iff.rfl

theorem mem_span_or {operands : List (Filter W)} {v : Index} :
    v ∈ (operation .or operands).span ↔
      operands.map span = [] ∨ v ∈ Limits.hull greater {w | ∃ S ∈ operands.map span, w ∈ S} := by
  cases operands with
  | nil => simp [span]
  | cons first rest =>
    rw [span, spans_eq_map]
    · simp
    · simp

end Span

/-! ## The bounds of a tree -/

section Bounds

variable [PartialCompare Index] [TotalCompare Index] {v : Index}

/-- Stopping at an impossible range loses nothing, for narrowing it further adds no values. -/
theorem contains_narrowAll_iff {ranges : List (Limits Index)} {acc : Limits Index} :
    (narrowAll acc ranges).contains greater v = true ↔
      acc.contains greater v = true ∧ ∀ l ∈ ranges, l.contains greater v = true := by
  induction ranges generalizing acc with
  | nil => simp [narrowAll]
  | cons l rest ih =>
    rw [narrowAll, List.forall_mem_cons, ← and_assoc, ← Limits.contains_narrow]
    cases hnext : (acc.narrow greater l).isImpossible greater with
    | true => simp [Limits.contains_eq_false hnext]
    | false => simpa using ih

/-- Passing over impossible ranges loses nothing. If there is no other, the first of them stands for
the empty set. -/
theorem values_coverAll {ranges : List (Limits Index)} (hne : ranges ≠ []) :
    (coverAll ranges).values greater =
      Limits.hull greater (Limits.valuesOfAny greater ranges) := by
  have hdrop : Limits.valuesOfAny greater (ranges.dropWhile (·.isImpossible greater)) =
      Limits.valuesOfAny greater ranges := Limits.valuesOfAny_dropWhile ranges
  unfold coverAll
  split
  · next start rest heq => rw [Limits.values_foldl_widen, ← heq, hdrop]
  · next heq =>
    rw [heq, Limits.valuesOfAny_nil] at hdrop
    cases ranges with
    | nil => contradiction
    | cons first rest =>
      rw [Limits.valuesOfAny_cons] at hdrop
      obtain ⟨hfirst, hrest⟩ := Set.union_empty_iff.mp hdrop.symm
      rw [List.headD_cons, Limits.valuesOfAny_cons, hfirst, hrest]
      simp

/-- The bounds of a tree have the values of its span. -/
theorem values_treeLimits (t : Filter W) :
    t.treeLimits.values greater = (t.span : Set Index) := by
  have hmap {ts : List (Filter W)} (h : ∀ t ∈ ts, t.treeLimits.values greater = t.span) :
      (ts.map treeLimits).map (Limits.values greater) = ts.map (span : _ → Set Index) := by
    rw [List.map_map]
    exact List.map_congr_left h
  induction t using treeInduction with
  | condition leaf => rfl
  | operation op operands ih =>
    ext v
    cases op with
    | not => simp [treeLimits, span]
    | and =>
      rw [mem_span_and, ← hmap ih, treeLimits, treeLimitsAll_eq_map, Limits.mem_values,
        contains_narrowAll_iff, List.forall_mem_map]
      simp
    | or =>
      rw [mem_span_or, ← hmap ih, treeLimits, treeLimitsAll_eq_map]
      cases operands with
      | nil => simp [coverAll]
      | cons first rest =>
        rw [values_coverAll (by simp)]
        simp [Limits.valuesOfAny]

end Bounds

/-! ## The order of operands -/

/-- A tree becomes another one when the operands of one `and` or `or` in it are permuted. -/
inductive Reorders : Filter W → Filter W → Prop where
  | operands {op : Operator} (commutes : op ≠ .not) {ts us : List (Filter W)} (perm : ts.Perm us) :
      Reorders (.operation op ts) (.operation op us)
  | within (op : Operator) (before after : List (Filter W)) {t u : Filter W}
      (inside : Reorders t u) :
      Reorders (.operation op (before ++ t :: after)) (.operation op (before ++ u :: after))

section Matching

theorem matches_eq_of_perm {op : Operator} (commutes : op ≠ .not) {ts us : List (Filter W)}
    {r : Record} (h : (ts.map fun t => t.matches? r).Perm (us.map fun u => u.matches? r)) :
    (operation op ts).matches? r = (operation op us).matches? r := by
  cases op with
  | and => rw [matches?, matches?, allMatch_eq_all, allMatch_eq_all, h.all_eq]
  | or => rw [matches?, matches?, anyMatches_eq_any, anyMatches_eq_any, h.any_eq]
  | not => contradiction

theorem Reorders.matches_eq {t u : Filter W} (h : Reorders t u) (r : Record) :
    t.matches? r = u.matches? r := by
  induction h with
  | operands commutes perm => exact matches_eq_of_perm commutes (perm.map _)
  | @within op before after t u inside ih =>
    by_cases hop : op = .not
    · subst hop
      cases before with
      | nil => rw [List.nil_append, List.nil_append, matches?, matches?, ih]
      | cons first rest => rw [List.cons_append, List.cons_append, matches?, matches?]
    · refine matches_eq_of_perm hop (.of_eq ?_)
      simp only [List.map_append, List.map_cons, ih]

end Matching

section Reordering

variable [PartialCompare Index]

theorem span_eq_of_perm {op : Operator} (commutes : op ≠ .not) {ts us : List (Filter W)}
    (h : (ts.map (span : _ → Set Index)).Perm (us.map span)) :
    ((operation op ts).span : Set Index) = (operation op us).span := by
  ext v
  cases op with
  | and => simp only [mem_span_and, h.mem_iff]
  | or => simp only [mem_span_or, h.mem_iff, ← List.length_eq_zero_iff, h.length_eq]
  | not => contradiction

/-- A negation that is no double one bounds nothing. -/
theorem span_simplify_negate {op : Operator} (commutes : op ≠ .not) (operands : List (Filter W)) :
    ((operation op operands).negate.simplify.span : Set Index) = Set.univ := by
  have single : ∀ inner extra, operation op operands ≠ .operation .not (inner :: extra) :=
    fun _ _ h => commutes (operation.inj h).1
  rw [negate, simplify_not single, span]

theorem Reorders.span_simplify_eq {t u : Filter W} (h : Reorders t u) :
    (t.simplify.span : Set Index) = u.simplify.span ∧
      (t.negate.simplify.span : Set Index) = u.negate.simplify.span := by
  induction h with
  | operands commutes perm =>
    rw [simplify_operation commutes, simplify_operation commutes, span_simplify_negate commutes,
      span_simplify_negate commutes]
    exact ⟨span_eq_of_perm commutes ((perm.map _).map _), rfl⟩
  | @within op before after t u inside ih =>
    obtain ⟨same, negated⟩ := ih
    by_cases hop : op = .not
    · subst hop
      cases before with
      | nil =>
        -- One negation more takes the fact on negations, two take the fact on trees.
        simp only [List.nil_append, simplify_not_cons, simplify_negate_not]
        exact ⟨negated, same⟩
      | cons first rest =>
        simp only [List.cons_append, simplify_not_cons, simplify_negate_not, and_self]
    · rw [simplify_operation hop, simplify_operation hop, span_simplify_negate hop,
        span_simplify_negate hop]
      refine ⟨span_eq_of_perm hop (.of_eq ?_), rfl⟩
      simp only [List.map_append, List.map_cons, same]

end Reordering

/-- **The bounds of a filter are its span.** After simplification they have the values that the
conditions leave possible, put together operand by operand. So neither these values nor the records
that match depend on the order of the operands of an `and` or `or`, wherever it stands. -/
theorem indexLimits_denote_span {W Record Index : Type} [Condition W Record Index]
    [PartialCompare Index] [TotalCompare Index] :
    (∀ t : Filter W, t.indexLimits.values greater = t.simplify.span) ∧
    ∀ {t u : Filter W}, Relation.ReflTransGen Reorders t u →
      t.indexLimits.values greater = u.indexLimits.values greater ∧
      ∀ r : Record, t.matches? r = u.matches? r := by
  have hspan (t : Filter W) : t.indexLimits.values greater = (t.simplify.span : Set Index) :=
    values_treeLimits t.simplify
  refine ⟨hspan, fun {t u} h => ?_⟩
  induction h with
  | refl => exact ⟨rfl, fun _ => rfl⟩
  | tail _ step ih =>
    obtain ⟨values, matching⟩ := ih
    refine ⟨?_, fun r => (matching r).trans (step.matches_eq r)⟩
    rw [values, hspan, hspan, step.span_simplify_eq.1]

/-- The operands are permuted below a double negation. Narrowing stops at other bounds then, which
have no values either. -/
theorem indexLimits_denote_span_of_swapped :
    let low : Filter NumberCondition := .condition ⟨some (.ge 8), none⟩
    let high : Filter NumberCondition := .condition ⟨some (.le 3), none⟩
    let higher : Filter NumberCondition := .condition ⟨some (.ge 9), none⟩
    let t := (andAll low [high, higher]).negate.negate
    let u := (andAll higher [high, low]).negate.negate
    Relation.ReflTransGen Reorders t u ∧ t.indexLimits = ⟨some 8, some 3⟩ ∧
    u.indexLimits = ⟨some 9, some 3⟩ ∧
    t.indexLimits.values greater = u.indexLimits.values greater ∧
    ∀ n : Int, t.matches? n = u.matches? n := by
  intro low high higher t u
  have perm : [low, high, higher].Perm [higher, high, low] := (List.reverse_perm _).symm
  have step : Reorders t u := .within .not [] [] (.within .not [] [] (.operands (by decide) perm))
  obtain ⟨-, reordered⟩ := @indexLimits_denote_span NumberCondition Int Int _ _ _
  obtain ⟨values, matching⟩ := reordered (.single step)
  exact ⟨.single step, rfl, rfl, values, matching⟩

end AccountServer.Filter
