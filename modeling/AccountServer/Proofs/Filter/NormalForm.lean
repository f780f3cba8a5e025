import Mathlib.Logic.Function.Iterate
import AccountServer.Proofs.Filter.Simplify

/-!
# The normal form of filters

A tree is `Simple` if no negation in it has more than one operand, and none stands before another
negation that has operands. Simplification gives such a tree and leaves such a tree alone, so that
it need not be done twice.

It looks at the first operand of a negation before that operand is simplified. This is enough: an
operand that is no negation does not become one (`simplify_eq_not`).
-/

namespace AccountServer.Filter

variable {W : Type}

/-- The trees that a tree is made of, itself included. -/
inductive Part : Filter W → Filter W → Prop where
  | self (t : Filter W) : Part t t
  | operand {s t : Filter W} (op : Operator) {operands : List (Filter W)} (mem : t ∈ operands)
      (part : Part s t) : Part s (.operation op operands)

/-- Every negation in the tree has at most one operand, and that is no negation but the empty
one. -/
structure Simple (t : Filter W) : Prop where
  single : ∀ {operands : List (Filter W)}, Part (.operation .not operands) t → operands.length ≤ 1
  noDouble : ∀ {operands inner : List (Filter W)}, Part (.operation .not operands) t →
    .operation .not inner ∈ operands → inner = []

namespace Simple

theorem condition (leaf : W) : Simple (.condition leaf) where
  single h := nomatch h
  noDouble h := nomatch h

/-- A tree is simple if its operands are and its root is no exception. -/
theorem operation {op : Operator} {operands : List (Filter W)}
    (root : op = .not → operands.length ≤ 1 ∧ ∀ inner, .operation .not inner ∈ operands → inner = [])
    (simple : ∀ t ∈ operands, Simple t) : Simple (.operation op operands) where
  single h := by
    cases h with
    | self => exact (root rfl).1
    | operand _ mem part => exact (simple _ mem).single part
  noDouble h hinner := by
    cases h with
    | self => exact (root rfl).2 _ hinner
    | operand _ mem part => exact (simple _ mem).noDouble part hinner

theorem of_operand {op : Operator} {operands : List (Filter W)} {t : Filter W}
    (h : Simple (.operation op operands)) (mem : t ∈ operands) : Simple t where
  single part := h.single (.operand op mem part)
  noDouble part := h.noDouble (.operand op mem part)

end Simple

/-- A tree that simplifies to a negation was one before. -/
theorem simplify_eq_not {t : Filter W} {inner : List (Filter W)}
    (single : ∀ first extra, t ≠ .operation .not (first :: extra))
    (h : t.simplify = .operation .not inner) : inner = [] := by
  cases t with
  | condition leaf => cases h
  | operation op operands =>
    cases op with
    | and =>
      rw [simplify_and] at h
      cases h
    | or =>
      rw [simplify_or] at h
      cases h
    | not =>
      cases operands with
      | nil =>
        cases h
        rfl
      | cons first extra => exact absurd rfl (single first extra)

theorem simple_simplify (t : Filter W) : t.simplify.Simple := by
  have hmap {ts : List (Filter W)} (ih : ∀ t ∈ ts, t.simplify.Simple) :
      ∀ s ∈ ts.map simplify, s.Simple :=
    List.forall_mem_map.mpr ih
  induction t using simplifyInduction with
  | condition leaf => exact .condition leaf
  | and operands ih =>
    rw [simplify_and]
    exact .operation (fun h => nomatch h) (hmap ih)
  | or operands ih =>
    rw [simplify_or]
    exact .operation (fun h => nomatch h) (hmap ih)
  | empty => exact .operation (fun _ => ⟨by simp, by simp⟩) (by simp)
  | double inner extra others ih =>
    rw [simplify_double]
    exact ih
  | not first others single ih =>
    rw [simplify_not single]
    refine .operation (fun _ => ⟨Nat.le_refl 1, fun inner hinner => ?_⟩) (by simpa using ih)
    exact simplify_eq_not single (List.mem_singleton.mp hinner).symm

/-- There is nothing left to simplify. -/
theorem Simple.simplify_eq {t : Filter W} (h : t.Simple) : t.simplify = t := by
  have hmap {op : Operator} {ts : List (Filter W)} (h : Simple (.operation op ts))
      (ih : ∀ t ∈ ts, t.Simple → t.simplify = t) : ts.map simplify = ts :=
    (List.map_congr_left fun t ht => ih t ht (h.of_operand ht)).trans (List.map_id ts)
  induction t using simplifyInduction with
  | condition leaf => rfl
  | and operands ih => rw [simplify_and, hmap h ih]
  | or operands ih => rw [simplify_or, hmap h ih]
  | empty => rfl
  | double inner extra others ih =>
    have hinner : inner :: extra = [] := h.noDouble (.self _) List.mem_cons_self
    contradiction
  | not first others single ih =>
    have hothers : others = [] := by simpa using h.single (.self _)
    rw [simplify_not single, ih (h.of_operand List.mem_cons_self), hothers]

theorem simplify_simplify (t : Filter W) : t.simplify.simplify = t.simplify :=
  (simple_simplify t).simplify_eq

theorem simplify_iterate_negate (c : Filter W) (n : Nat) :
    (negate^[2 * n] c).simplify = c.simplify := by
  induction n with
  | zero => rfl
  | succ n ih =>
    rw [Nat.mul_succ, Function.iterate_succ_apply', Function.iterate_succ_apply', negate, negate,
      simplify_double, ih]

/-- **Simplification reaches a normal form.** The tree that it gives is simple, so that simplifying
it again changes nothing and its bounds are those of the tree before. An even number of negations
before a tree counts for none, an odd number for one. -/
theorem simplify_reaches_normal_form :
    (∀ t : Filter W, t.simplify.Simple ∧ t.simplify.simplify = t.simplify ∧
      ∀ {Record Index : Type} [Condition W Record Index] [PartialCompare Index],
        t.simplify.indexLimits = t.indexLimits) ∧
    ∀ (c : Filter W) (n : Nat), (negate^[2 * n] c).simplify = c.simplify ∧
      (negate^[2 * n + 1] c).simplify = c.negate.simplify := by
  refine ⟨fun t => ⟨simple_simplify t, simplify_simplify t, ?_⟩, fun c n => ⟨?_, ?_⟩⟩
  · intro Record Index _ _
    rw [indexLimits, indexLimits, simplify_simplify]
  · exact simplify_iterate_negate c n
  · rw [Function.iterate_succ_apply]
    exact simplify_iterate_negate c.negate n

/-- What comes out of a double negation is the negation of an empty one, and stays. -/
example :
    let t : Filter NumberCondition :=
      .operation .not [.operation .not [.operation .not [.operation .not []], .operation .not []]]
    t.simplify = .operation .not [.operation .not []] :=
  rfl

end AccountServer.Filter
