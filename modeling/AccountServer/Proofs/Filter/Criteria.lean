import Mathlib.Data.Set.Basic
import AccountServer.Filter.Criterion
import AccountServer.Number.Binary64
import AccountServer.Proofs.Filter.Order

/-!
# Bounds of a criterion

The bounds of a criterion are to hold every value it accepts. For one comparison this follows from
the laws of a partial comparison alone. The bounds of a list of values are widened member by member,
and there the values have to be `Ranked`:

* the lower end only ever moves to a value below it, and so it stays below what it was below before;
* the upper end also moves to a value that it does not compare with. From there it may come down
  again, below a member that was taken in before.

Doubles are ranked as long as no NaN is among them. A NaN between two members is enough to lose the
first one.
-/

namespace AccountServer

open PartialCompare

/-- The laws that a partial comparison has to obey: it can be read in both directions, and
equality and the strict order are each transitive. Nothing is said about the two together. -/
class LawfulCompare (α : Type) [PartialCompare α] : Prop where
  compare_swap : ∀ a b : α, compare? b a = (compare? a b).map Ordering.swap
  same_trans : ∀ {a b c : α}, same a b = true → same b c = true → same a c = true
  greater_trans : ∀ {a b c : α}, greater a b = true → greater b c = true → greater a c = true

namespace PartialCompare

variable {α : Type} [PartialCompare α] {a b c : α}

theorem greater_eq_true_iff : greater a b = true ↔ compare? a b = some .gt := by
  unfold greater
  split <;> simp_all

theorem less_eq_true_iff : less a b = true ↔ compare? a b = some .lt := by
  unfold less
  split <;> simp_all

theorem same_eq_true_iff : same a b = true ↔ compare? a b = some .eq := by
  unfold same
  split <;> simp_all

/-- Of incomparable values none is at most the other. -/
theorem atMost_eq_less_or_same (a b : α) : atMost a b = (less a b || same a b) := by
  unfold atMost less same
  cases compare? a b with
  | none => rfl
  | some o => cases o <;> rfl

theorem atLeast_eq_greater_or_same (a b : α) : atLeast a b = (greater a b || same a b) := by
  unfold atLeast greater same
  cases compare? a b with
  | none => rfl
  | some o => cases o <;> rfl

theorem not_greater_of_same (h : same a b = true) : greater a b = false := by
  rw [← Bool.not_eq_true, greater_eq_true_iff, same_eq_true_iff.mp h]
  simp

theorem not_greater_of_atMost (h : atMost a b = true) : greater a b = false := by
  rw [← Bool.not_eq_true, greater_eq_true_iff]
  intro hgt
  simp [atMost, hgt] at h

variable [LawfulCompare α]

theorem same_comm (a b : α) : same a b = same b a := by
  rw [Bool.eq_iff_iff, same_eq_true_iff, same_eq_true_iff, LawfulCompare.compare_swap a b]
  cases compare? a b with
  | none => simp
  | some o => cases o <;> simp

/-- Less is greater the other way round, for values that do not compare too. -/
theorem less_eq_greater (a b : α) : less a b = greater b a := by
  rw [Bool.eq_iff_iff, less_eq_true_iff, greater_eq_true_iff, LawfulCompare.compare_swap a b]
  cases compare? a b with
  | none => simp
  | some o => cases o <;> simp

theorem not_greater_swapped (h : greater a b = true) : greater b a = false := by
  rw [← less_eq_greater, ← Bool.not_eq_true, less_eq_true_iff, greater_eq_true_iff.mp h]
  simp

theorem not_greater_self (a : α) : greater a a = false := by
  cases h : greater a a with
  | false => rfl
  | true => rw [← h, not_greater_swapped h]

theorem not_greater_of_atLeast (h : atLeast a b = true) : greater b a = false := by
  rw [atLeast_eq_greater_or_same, Bool.or_eq_true] at h
  rcases h with h | h
  · exact not_greater_swapped h
  · rw [same_comm] at h
    exact not_greater_of_same h

end PartialCompare

instance {α : Type} [PartialCompare α] [TotalCompare α] : LawfulCompare α where
  compare_swap a b := by
    obtain ⟨cmp, _, hc⟩ := TotalCompare.exists_cmp (α := α)
    have hswap : cmp b a = (cmp a b).swap := Std.OrientedCmp.eq_swap
    rw [hc, hc, Option.map_some, hswap]
  same_trans h₁ h₂ := by
    rw [same_iff] at *
    exact ⟨atMost_trans h₁.1 h₂.1, atMost_trans h₂.2 h₁.2⟩
  greater_trans h₁ h₂ :=
    IsTrans.trans (r := fun x y : α => greater x y = true) _ _ _ h₁ h₂

/-! ## Doubles -/

namespace Binary64

/-- Two doubles compare unless one of them is no number. -/
theorem compare?_eq_some {x y : Binary64} {o : Ordering} :
    compare? x y = some o ↔
      x.isNaN = false ∧ y.isNaN = false ∧ compare x.orderKey y.orderKey = o := by
  simp only [compare?]
  cases x.isNaN <;> cases y.isNaN <;> simp

theorem greater_iff {x y : Binary64} :
    greater x y = true ↔ x.isNaN = false ∧ y.isNaN = false ∧ y.orderKey < x.orderKey := by
  rw [greater_eq_true_iff, compare?_eq_some, Int.compare_eq_gt]

theorem same_iff {x y : Binary64} :
    same x y = true ↔ x.isNaN = false ∧ y.isNaN = false ∧ x.orderKey = y.orderKey := by
  rw [same_eq_true_iff, compare?_eq_some, Int.compare_eq_eq]

instance : LawfulCompare Binary64 where
  compare_swap x y := by
    simp only [compare?, Bool.or_comm y.isNaN]
    split
    · rfl
    · rw [Option.map_some, Int.compare_swap]
  same_trans h₁ h₂ := by
    rw [same_iff] at *
    exact ⟨h₁.1, h₂.2.1, h₁.2.2.trans h₂.2.2⟩
  greater_trans h₁ h₂ := by
    rw [greater_iff] at *
    exact ⟨h₁.1, h₂.2.1, h₂.2.2.trans h₁.2.2⟩

end Binary64

/-! ## Widening by single values -/

/-- Values that equality and the order arrange in ranks: what is above a value is above its equals,
and a value that is above another leaves none of the set beside both. -/
structure Ranked {α : Type} [PartialCompare α] (S : Set α) : Prop where
  above_equals : ∀ a ∈ S, ∀ b ∈ S, ∀ c ∈ S,
    greater a b = true → same b c = true → greater a c = true
  none_beside : ∀ a ∈ S, ∀ b ∈ S, ∀ c ∈ S,
    same a a = true → greater a c = true → greater a b = true ∨ greater b c = true

/-- Where all values compare, any set of them is ranked. -/
theorem Ranked.of_total {α : Type} [PartialCompare α] [TotalCompare α] (S : Set α) : Ranked S where
  above_equals a _ b _ c _ hab hbc := by
    rw [greater_iff] at hab ⊢
    exact fun hac => hab (atMost_trans hac (PartialCompare.same_iff.mp hbc).2)
  none_beside a _ b _ c _ _ hac := by
    simp only [greater_iff] at hac ⊢
    by_contra h
    simp only [not_or, not_not] at h
    exact hac (atMost_trans h.1 h.2)

/-- The doubles that are numbers are ranked. -/
theorem Binary64.ranked_numbers : Ranked {x : Binary64 | x.isNaN = false} where
  above_equals a _ b _ c _ hab hbc := by
    rw [greater_iff] at hab ⊢
    obtain ⟨-, hc, hkey⟩ := same_iff.mp hbc
    exact ⟨hab.1, hc, hkey ▸ hab.2.2⟩
  none_beside a ha b hb c hc _ hac := by
    have hkey : c.orderKey < a.orderKey := (greater_iff.mp hac).2.2
    rcases lt_or_ge b.orderKey a.orderKey with hba | hab
    · exact .inl (greater_iff.mpr ⟨ha, hb, hba⟩)
    · exact .inr (greater_iff.mpr ⟨hb, hc, hkey.trans_le hab⟩)

namespace Limits

variable {α : Type} [PartialCompare α] {S : Set α} {l : Limits α} {v w low high : α}

/-- Both ends are set, to members of the set that are not out of order. -/
def EndsIn (S : Set α) (l : Limits α) : Prop :=
  ∃ low ∈ S, ∃ high ∈ S, greater low high = false ∧ l = ⟨some low, some high⟩

theorem contains_ends :
    (⟨some low, some high⟩ : Limits α).contains greater v = true ↔
      greater low v = false ∧ greater v high = false := by
  simp [contains]

variable [LawfulCompare α]

/-- A range with both ends grows to the next value. -/
theorem widen_exactly (h : greater low high = false) (w : α) :
    (⟨some low, some high⟩ : Limits α).widen greater (.exactly w) =
      ⟨some (lower greater low w), some (upper greater high w)⟩ := by
  simp [widen, exactly, isImpossible, h, not_greater_self, upper]

theorem endsIn_exactly (hw : w ∈ S) : EndsIn S (.exactly w) :=
  ⟨w, hw, w, hw, not_greater_self w, rfl⟩

theorem contains_exactly (h : PartialCompare.same v w = true) :
    (exactly w).contains greater v = true :=
  contains_ends.mpr ⟨not_greater_of_same (by rwa [same_comm]), not_greater_of_same h⟩

theorem EndsIn.widen_exactly (h : EndsIn S l) (hw : w ∈ S) :
    EndsIn S (l.widen greater (.exactly w)) := by
  obtain ⟨low, hlow, high, hhigh, hle, rfl⟩ := h
  rw [Limits.widen_exactly hle]
  refine ⟨_, ?_, _, ?_, ?_, rfl⟩
  · unfold lower
    split <;> assumption
  · unfold upper
    split <;> assumption
  · unfold lower upper
    split <;> split
    · next hhw => exact not_greater_swapped hhw
    · exact not_greater_self w
    · exact hle
    · next hlw _ => simpa using hlw

/-- One step of widening loses nothing and takes in the new value. -/
theorem EndsIn.contains_widen_exactly (hS : Ranked S) (h : EndsIn S l) (hw : w ∈ S) (hv : v ∈ S)
    (hself : PartialCompare.same v v = true)
    (hin : l.contains greater v = true ∨ PartialCompare.same v w = true) :
    (l.widen greater (.exactly w)).contains greater v = true := by
  obtain ⟨low, hlow, high, hhigh, hle, rfl⟩ := h
  rw [Limits.widen_exactly hle, contains_ends]
  rw [contains_ends] at hin
  simp only [← Bool.not_eq_true] at *
  rcases hin with ⟨hlv, hvh⟩ | hsame
  · constructor
    · unfold lower
      split
      · next hlw => exact fun hwv => hlv (LawfulCompare.greater_trans hlw hwv)
      · exact hlv
    · unfold upper
      split
      · exact hvh
      · next hhw =>
        -- Here the upper end may have been moved to a value it does not compare with.
        intro hvw
        exact (hS.none_beside v hv high hhigh w hw hself hvw).elim hvh hhw
  · have hvw : ¬ greater v w = true := by simp [not_greater_of_same hsame]
    constructor
    · unfold lower
      split
      · simp [not_greater_of_same ((same_comm w v).trans hsame)]
      · next hlw => exact fun hlv => hlw (hS.above_equals low hlow v hv w hw hlv hsame)
    · unfold upper
      split
      · next hhw => exact fun hvh => hvw (LawfulCompare.greater_trans hvh hhw)
      · exact hvw

/-- Widened by a list of values, a range holds what it held and what equals a value of the list. -/
theorem EndsIn.contains_foldl (hS : Ranked S) (hv : v ∈ S) (hself : PartialCompare.same v v = true)
    (rest : List α) (hrest : ∀ w ∈ rest, w ∈ S) (h : EndsIn S l)
    (hin : l.contains greater v = true ∨ ∃ w ∈ rest, PartialCompare.same v w = true) :
    (rest.foldl (fun acc w => acc.widen greater (.exactly w)) l).contains greater v = true := by
  induction rest generalizing l with
  | nil => simpa using hin
  | cons w rest ih =>
    have hw : w ∈ S := hrest w List.mem_cons_self
    refine ih (fun x hx => hrest x (List.mem_cons_of_mem w hx)) (h.widen_exactly hw) ?_
    rcases hin with hl | ⟨x, hx, hvx⟩
    · exact .inl (h.contains_widen_exactly hS hw hv hself (.inl hl))
    · rcases List.mem_cons.mp hx with rfl | hx
      · exact .inl (h.contains_widen_exactly hS hw hv hself (.inr hvx))
      · exact .inr ⟨x, hx, hvx⟩

end Limits

/-! ## Criteria -/

namespace Criterion

variable {α : Type} [PartialCompare α] [LawfulCompare α] {v : α}

/-- The test is for membership in a list. -/
def IsOneOf (c : Criterion α) : Prop := ∃ values, c = .oneOf values

/-- The bounds of a test against one value, or between two, hold what it accepts. -/
theorem contains_limits_of_not_oneOf {c : Criterion α} (hc : ¬ c.IsOneOf)
    (h : c.accepts v = true) : c.limits.contains greater v = true := by
  cases c with
  | eq w => exact Limits.contains_exactly h
  | ne w => rfl
  | lt w =>
    have hle : atMost v w = true := by
      rw [atMost_eq_less_or_same, show less v w = true from h, Bool.true_or]
    simp [limits, Limits.atMost, Limits.contains, not_greater_of_atMost hle]
  | le w => simp [limits, Limits.atMost, Limits.contains, not_greater_of_atMost h]
  | gt w =>
    have hle : atLeast v w = true := by
      rw [atLeast_eq_greater_or_same, show greater v w = true from h, Bool.true_or]
    simp [limits, Limits.atLeast, Limits.contains, not_greater_of_atLeast hle]
  | ge w => simp [limits, Limits.atLeast, Limits.contains, not_greater_of_atLeast h]
  | between low high =>
    obtain ⟨hlow, hhigh⟩ := (Bool.and_eq_true _ _).mp h
    exact Limits.contains_ends.mpr ⟨not_greater_of_atLeast hlow, not_greater_of_atMost hhigh⟩
  | oneOf values => exact absurd ⟨values, rfl⟩ hc

/-- Members of a ranked set, and what equals them, lie within the bounds of the list. -/
theorem contains_limits_oneOf {S : Set α} (hS : Ranked S) {values : List α}
    (hvalues : ∀ w ∈ values, w ∈ S) (hv : v ∈ S) (h : (Criterion.oneOf values).accepts v = true) :
    (Criterion.oneOf values).limits.contains greater v = true := by
  obtain ⟨w, hw, hwv⟩ := List.any_eq_true.mp h
  have hvw : same v w = true := by rwa [same_comm]
  have hself : same v v = true := LawfulCompare.same_trans hvw hwv
  cases values with
  | nil => exact absurd hw List.not_mem_nil
  | cons first rest =>
    obtain ⟨hfirst, hrest⟩ := List.forall_mem_cons.mp hvalues
    refine (Limits.endsIn_exactly hfirst).contains_foldl hS hv hself rest hrest ?_
    rcases List.mem_cons.mp hw with rfl | hw
    · exact .inl (Limits.contains_exactly hvw)
    · exact .inr ⟨w, hw, hvw⟩

/-- If the bounds of all lists from a set hold what the lists accept, the set is ranked. Lists of
two and of three members tell. -/
theorem ranked_of_contains_limits {S : Set α}
    (h : ∀ values : List α, (∀ w ∈ values, w ∈ S) → ∀ v ∈ S,
      (Criterion.oneOf values).accepts v = true →
        (Criterion.oneOf values).limits.contains greater v = true) : Ranked S where
  above_equals a ha b hb c hc hab hbc := by
    by_contra hac
    rw [Bool.not_eq_true] at hac
    have hlimits : (Criterion.oneOf [a, c]).limits = ⟨some a, some c⟩ := by
      show (Limits.exactly a).widen greater (.exactly c) = _
      rw [Limits.exactly, Limits.widen_exactly (not_greater_self a)]
      simp [Limits.lower, Limits.upper, hac]
    have hcb : same c b = true := by rwa [same_comm]
    have hin := h [a, c] (by simp [ha, hc]) b hb (by simp [accepts, hcb])
    rw [hlimits, Limits.contains_ends, hab] at hin
    exact absurd hin.1 (by simp)
  none_beside a ha b hb c hc hself hac := by
    by_contra hbeside
    simp only [not_or, Bool.not_eq_true] at hbeside
    obtain ⟨hab, hbc⟩ := hbeside
    have hlimits : (Criterion.oneOf [a, b, c]).limits = ⟨some c, some c⟩ := by
      show ((Limits.exactly a).widen greater (.exactly b)).widen greater (.exactly c) = _
      rw [Limits.exactly, Limits.widen_exactly (not_greater_self a)]
      simp only [Limits.lower, Limits.upper, hab, Bool.false_eq_true, if_false]
      rw [Limits.widen_exactly hab]
      simp [Limits.lower, Limits.upper, hac, hbc]
    have hin := h [a, b, c] (by simp [ha, hb, hc]) a ha (by simp [accepts, hself])
    rw [hlimits, Limits.contains_ends, hac] at hin
    exact absurd hin.2 (by simp)

/-- Where any two values compare, every accepted value lies within the bounds. -/
theorem contains_limits {β : Type} [PartialCompare β] [TotalCompare β] (c : Criterion β) {v : β}
    (h : c.accepts v = true) : c.limits.contains greater v = true := by
  by_cases hc : c.IsOneOf
  · obtain ⟨values, rfl⟩ := hc
    exact contains_limits_oneOf (Ranked.of_total Set.univ) (fun _ _ => trivial) trivial h
  · exact contains_limits_of_not_oneOf hc h

/-- **When the bounds hold what is accepted.** Those of a single comparison always do. Those of
lists do for all lists from a set of values, in any order, exactly if the set is ranked, and so
those of all criteria on a type exactly if the whole type is. -/
theorem limits_hold_accepted_iff_ranked :
    (∀ c : Criterion α, ¬ c.IsOneOf → ∀ v, c.accepts v = true →
      c.limits.contains greater v = true) ∧
    (∀ S : Set α, (∀ a ∈ S, ∀ b, same a b = true → b ∈ S) →
      ((∀ values : List α, (∀ w ∈ values, w ∈ S) → ∀ v,
        (Criterion.oneOf values).accepts v = true →
          (Criterion.oneOf values).limits.contains greater v = true) ↔ Ranked S)) ∧
    ((∀ (c : Criterion α) (v : α), c.accepts v = true → c.limits.contains greater v = true) ↔
      Ranked (Set.univ : Set α)) := by
  refine ⟨fun c hc v => contains_limits_of_not_oneOf hc, fun S hclosed => ⟨fun h => ?_, ?_⟩,
    fun h => ?_, fun hranked c v hv => ?_⟩
  · exact ranked_of_contains_limits fun values hvalues v _ => h values hvalues v
  · intro hranked values hvalues v hv
    obtain ⟨w, hw, hwv⟩ := List.any_eq_true.mp hv
    exact contains_limits_oneOf hranked hvalues (hclosed w (hvalues w hw) v hwv) hv
  · exact ranked_of_contains_limits fun values _ v _ => h (.oneOf values) v
  · by_cases hc : c.IsOneOf
    · obtain ⟨values, rfl⟩ := hc
      exact contains_limits_oneOf hranked (fun _ _ => trivial) trivial hv
    · exact contains_limits_of_not_oneOf hc hv

/-- Among doubles that are numbers; zero equals the zero of the other sign. -/
theorem limits_hold_zero_of_either_sign :
    (∀ a ∈ {x : Binary64 | x.isNaN = false}, ∀ b, same a b = true →
      b ∈ {x : Binary64 | x.isNaN = false}) ∧
    (Criterion.oneOf [.ofInt 1, .zero true, .ofInt (-2)]).accepts (Binary64.zero false) = true ∧
    (Criterion.oneOf [.ofInt 1, .zero true, .ofInt (-2)]).limits.contains greater
      (Binary64.zero false) = true := by
  have hclosed : ∀ a ∈ {x : Binary64 | x.isNaN = false}, ∀ b, same a b = true →
      b ∈ {x : Binary64 | x.isNaN = false} := fun a _ b h => (Binary64.same_iff.mp h).2.1
  have hnumbers : ∀ w ∈ [Binary64.ofInt 1, .zero true, .ofInt (-2)], w.isNaN = false := by
    decide +kernel
  have haccepts : (Criterion.oneOf [.ofInt 1, .zero true, .ofInt (-2)]).accepts
      (Binary64.zero false) = true := by decide +kernel
  exact ⟨hclosed, haccepts, (limits_hold_accepted_iff_ranked.2.1 _ hclosed).mpr
    Binary64.ranked_numbers _ hnumbers _ haccepts⟩

/-- A NaN between two numbers: the first of them is accepted and lies above the bounds, which are
those of the last one. -/
theorem limits_miss_one_before_nan :
    (Criterion.oneOf [.ofInt 1, .nan, .zero false]).accepts (Binary64.ofInt 1) = true ∧
    (Criterion.oneOf [.ofInt 1, .nan, .zero false]).limits = .exactly (Binary64.zero false) ∧
    (Criterion.oneOf [.ofInt 1, .nan, .zero false]).limits.contains greater
      (Binary64.ofInt 1) = false := by
  decide +kernel

end Criterion

end AccountServer
