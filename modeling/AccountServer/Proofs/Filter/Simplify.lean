import AccountServer.Filter.Number
import AccountServer.Filter.Tree

/-!
# Simplified filters mean the same

`Filter.simplify` drops two levels at a double negation and goes on in a grandchild, so inductions
about it follow its own recursion and not the tree (`simplifyInduction`). What it drops there counts
for nothing, for a negation looks at its first operand only. The one negation that must not be
dropped is an empty one: it matches no record, and its negation every record.
-/

namespace AccountServer.Filter

variable {W : Type}

/-! ## Trees and lists of trees -/

/-- A property of all trees may be shown for a tree from its operands. -/
theorem treeInduction {motive : Filter W → Prop} (condition : ∀ leaf, motive (.condition leaf))
    (operation : ∀ op operands, (∀ t ∈ operands, motive t) → motive (.operation op operands))
    (t : Filter W) : motive t :=
  depth.induct motive (fun ts => ∀ t ∈ ts, motive t) condition operation
    (fun _ h => absurd h List.not_mem_nil)
    (fun _ _ ht hrest => List.forall_mem_cons.mpr ⟨ht, hrest⟩) t

theorem treeLimitsAll_eq_map {Record Index : Type} [Condition W Record Index]
    [PartialCompare Index] (ts : List (Filter W)) : treeLimitsAll ts = ts.map treeLimits := by
  induction ts with
  | nil => rfl
  | cons t rest ih => rw [treeLimitsAll, ih, List.map_cons]

theorem simplifyAll_eq_map (ts : List (Filter W)) : simplifyAll ts = ts.map simplify := by
  induction ts with
  | nil => rfl
  | cons t rest ih => rw [simplifyAll, ih, List.map_cons]

/-! ## The cases of simplification -/

theorem simplify_double (inner : Filter W) (extra others : List (Filter W)) :
    (operation .not (.operation .not (inner :: extra) :: others)).simplify = inner.simplify := by
  rw [simplify]

/-- A negation that is no double one keeps its first operand. -/
theorem simplify_not {first : Filter W}
    (single : ∀ inner extra, first ≠ .operation .not (inner :: extra)) (others : List (Filter W)) :
    (operation .not (first :: others)).simplify = .operation .not [first.simplify] := by
  rw [simplify]
  exact single

theorem simplify_and (operands : List (Filter W)) :
    (operation .and operands).simplify = .operation .and (operands.map simplify) := by
  simp [simplify, simplifyAll_eq_map]

theorem simplify_or (operands : List (Filter W)) :
    (operation .or operands).simplify = .operation .or (operands.map simplify) := by
  simp [simplify, simplifyAll_eq_map]

/-- A simplified tree has the operands simplified, if it is no negation. -/
theorem simplify_operation {op : Operator} (commutes : op ≠ .not) (operands : List (Filter W)) :
    (operation op operands).simplify = .operation op (operands.map simplify) := by
  cases op with
  | and => exact simplify_and operands
  | or => exact simplify_or operands
  | not => contradiction

/-- Only the first operand of a negation counts. -/
theorem simplify_not_cons (first : Filter W) (others : List (Filter W)) :
    (operation .not (first :: others)).simplify = first.negate.simplify := by
  by_cases single : ∀ inner extra, first ≠ .operation .not (inner :: extra)
  · rw [negate, simplify_not single, simplify_not single]
  · simp only [Classical.not_forall, Classical.not_not] at single
    obtain ⟨inner, extra, rfl⟩ := single
    rw [negate, simplify_double, simplify_double]

theorem simplify_negate_not (first : Filter W) (others : List (Filter W)) :
    (operation .not (first :: others)).negate.simplify = first.simplify := by
  rw [negate, simplify_double]

/-- A property of all trees may be shown along the recursion of `simplify`. -/
theorem simplifyInduction {motive : Filter W → Prop}
    (condition : ∀ leaf, motive (.condition leaf))
    (and : ∀ operands, (∀ t ∈ operands, motive t) → motive (.operation .and operands))
    (or : ∀ operands, (∀ t ∈ operands, motive t) → motive (.operation .or operands))
    (empty : motive (.operation .not []))
    (double : ∀ inner extra others, motive inner →
      motive (.operation .not (.operation .not (inner :: extra) :: others)))
    (not : ∀ first others, (∀ inner extra, first ≠ .operation .not (inner :: extra)) →
      motive first → motive (.operation .not (first :: others)))
    (t : Filter W) : motive t := by
  refine simplify.induct motive (fun ts => ∀ t ∈ ts, motive t) condition empty double not ?_ ?_ ?_ t
  · intro op operands hempty _ hnot ih
    cases op with
    | and => exact and operands ih
    | or => exact or operands ih
    | not =>
      -- A negation is one of the cases before.
      cases operands with
      | nil => exact (hempty rfl rfl).elim
      | cons first others => exact (hnot first others rfl rfl).elim
  · exact fun t ht => absurd ht List.not_mem_nil
  · exact fun t rest ht hrest => List.forall_mem_cons.mpr ⟨ht, hrest⟩

/-! ## Meaning -/

section Matching

variable {Record Index : Type} [Condition W Record Index]

theorem allMatch_eq_all (ts : List (Filter W)) (r : Record) :
    allMatch ts r = (ts.map fun t => t.matches? r).all id := by
  induction ts with
  | nil => rfl
  | cons t rest ih => rw [allMatch, ih, List.map_cons, List.all_cons, id]

theorem anyMatches_eq_any (ts : List (Filter W)) (r : Record) :
    anyMatches ts r = (ts.map fun t => t.matches? r).any id := by
  induction ts with
  | nil => rfl
  | cons t rest ih => rw [anyMatches, ih, List.map_cons, List.any_cons, id]

/-- **Simplification keeps the meaning of a filter.** Whatever its shape, a record passes a tree
exactly if it passes the simplified one. -/
theorem matches_simplify (t : Filter W) (r : Record) : t.simplify.matches? r = t.matches? r := by
  have hmap {ts : List (Filter W)} (h : ∀ t ∈ ts, t.simplify.matches? r = t.matches? r) :
      (ts.map simplify).map (fun t => t.matches? r) = ts.map fun t => t.matches? r := by
    rw [List.map_map]
    exact List.map_congr_left h
  induction t using simplifyInduction with
  | condition leaf => rfl
  | and operands ih =>
    rw [simplify_and, matches?, matches?, allMatch_eq_all, allMatch_eq_all, hmap ih]
  | or operands ih =>
    rw [simplify_or, matches?, matches?, anyMatches_eq_any, anyMatches_eq_any, hmap ih]
  | empty => rfl
  | double inner extra others ih => rw [simplify_double, ih, matches?, matches?, Bool.not_not]
  | not first others single ih => rw [simplify_not single, matches?, matches?, ih]

end Matching

/-- The negation of an empty negation is no double negation, and matches everything. -/
example :
    let t : Filter NumberCondition := .operation .not [.operation .not []]
    t.simplify = t ∧ t.matches? (5 : Int) = true :=
  ⟨rfl, rfl⟩

end AccountServer.Filter
