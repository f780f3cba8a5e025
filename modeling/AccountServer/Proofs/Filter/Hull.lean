import Mathlib.Data.Set.Basic
import AccountServer.Proofs.Filter.Limits

/-!
# Ranges as a lattice

A range stands for the set of its `values`, and a range `Covers` another if it has all values of
the other. In this order `narrow` is the meet and `widen` the join:

* the values of a narrowed range are those in both ranges,
* the values of a widened range are those between two values, each from either range: the `hull` of
  the union.

A range that is not impossible has the ends that are set among its values. This is why what lies
above the lower end of a range lies above some value in it (`aboveMin_iff`). The comparison may take
different values as equivalent, so that nothing here says which of them an end is.
-/

namespace AccountServer.Limits

variable {α : Type} {gt : α → α → Bool}

/-- The values in a range. -/
def values (gt : α → α → Bool) (l : Limits α) : Set α := {v | l.contains gt v = true}

@[simp] theorem mem_values {l : Limits α} {v : α} : v ∈ l.values gt ↔ l.contains gt v = true :=
  Iff.rfl

/-- The values between members of a set: not below one of them and not above another. -/
def hull (gt : α → α → Bool) (S : Set α) : Set α :=
  {v | (∃ lo ∈ S, gt lo v = false) ∧ ∃ hi ∈ S, gt v hi = false}

theorem mem_hull {S : Set α} {v : α} :
    v ∈ hull gt S ↔ (∃ lo ∈ S, gt lo v = false) ∧ ∃ hi ∈ S, gt v hi = false :=
  Iff.rfl

/-- The values in some range of a list. -/
def valuesOfAny (gt : α → α → Bool) (ranges : List (Limits α)) : Set α :=
  {v | ∃ l ∈ ranges, l.contains gt v = true}

@[simp] theorem valuesOfAny_nil : valuesOfAny gt [] = ∅ := by
  ext v
  simp [valuesOfAny]

theorem valuesOfAny_cons (l : Limits α) (rest : List (Limits α)) :
    valuesOfAny gt (l :: rest) = l.values gt ∪ valuesOfAny gt rest := by
  ext v
  simp [valuesOfAny]

/-- A range has all values of another one. -/
def Covers (gt : α → α → Bool) (c l : Limits α) : Prop := l.values gt ⊆ c.values gt

@[simp] theorem hull_empty : hull gt ∅ = ∅ := by
  ext v
  simp [hull]

/-- Ends that are both set are in order if the range is not impossible. -/
theorem gt_ends {l : Limits α} {low high : α} (h : l.isImpossible gt = false)
    (hlow : l.min = some low) (hhigh : l.max = some high) : gt low high = false := by
  simpa [isImpossible, hlow, hhigh] using h

section Weak

variable [IsStrictWeakOrder α (fun a b => gt a b = true)]

/-! ## The hull of a set -/

theorem gt_self (x : α) : gt x x = false := by
  rw [← Bool.not_eq_true]
  exact Std.Irrefl.irrefl (r := fun a b => gt a b = true) x

/-- A hull has in it what it is the hull of. -/
theorem subset_hull (S : Set α) : S ⊆ hull gt S :=
  fun v hv => ⟨⟨v, hv, gt_self v⟩, ⟨v, hv, gt_self v⟩⟩

/-- A hull in a union may be left to the hull of the union. -/
theorem hull_hull_union (S T : Set α) : hull gt (hull gt S ∪ T) = hull gt (S ∪ T) := by
  ext v
  constructor
  · rintro ⟨⟨lo, hlo, hlov⟩, ⟨hi, hhi, hvhi⟩⟩
    constructor
    · rcases hlo with ⟨⟨m, hm, hmlo⟩, -⟩ | hlo
      · exact ⟨m, Or.inl hm, gt_false_trans hmlo hlov⟩
      · exact ⟨lo, Or.inr hlo, hlov⟩
    · rcases hhi with ⟨-, ⟨m, hm, hhim⟩⟩ | hhi
      · exact ⟨m, Or.inl hm, gt_false_trans hvhi hhim⟩
      · exact ⟨hi, Or.inr hhi, hvhi⟩
  · rintro ⟨⟨lo, hlo, hlov⟩, ⟨hi, hhi, hvhi⟩⟩
    exact ⟨⟨lo, hlo.imp_left fun h => subset_hull S h, hlov⟩,
      ⟨hi, hhi.imp_left fun h => subset_hull S h, hvhi⟩⟩

/-! ## The values of a range -/

theorem values_eq_empty {l : Limits α} (h : l.isImpossible gt = true) : l.values gt = ∅ := by
  ext v
  simp [contains_eq_false h v]

/-- A range has all values between those that it has. -/
theorem hull_subset_values {l : Limits α} {S : Set α} (h : S ⊆ l.values gt) :
    hull gt S ⊆ l.values gt := by
  rintro v ⟨⟨lo, hlo, hlov⟩, ⟨hi, hhi, hvhi⟩⟩
  obtain ⟨habove, -⟩ := contains_iff.mp (h hlo)
  obtain ⟨-, hbelow⟩ := contains_iff.mp (h hhi)
  exact contains_iff.mpr ⟨fun low hlow => gt_false_trans (habove low hlow) hlov,
    fun high hhigh => gt_false_trans hvhi (hbelow high hhigh)⟩

/-- A range is its own hull. -/
@[simp] theorem hull_values (l : Limits α) : hull gt (l.values gt) = l.values gt :=
  (hull_subset_values Set.Subset.rfl).antisymm (subset_hull _)

section Possible

variable {l : Limits α} (hl : l.isImpossible gt = false)

include hl

theorem min_mem_values {low : α} (hlow : l.min = some low) : low ∈ l.values gt := by
  refine contains_iff.mpr ⟨fun x hx => ?_, fun high hhigh => gt_ends hl hlow hhigh⟩
  rw [hlow] at hx
  exact Option.some.inj hx ▸ gt_self low

theorem max_mem_values {high : α} (hhigh : l.max = some high) : high ∈ l.values gt := by
  refine contains_iff.mpr ⟨fun low hlow => gt_ends hl hlow hhigh, fun x hx => ?_⟩
  rw [hhigh] at hx
  exact Option.some.inj hx ▸ gt_self high

/-- What is above the lower end is above some value of the range: above itself, or above the upper
end if it has passed that as well. -/
theorem aboveMin_iff {v : α} : AboveMin gt l v ↔ ∃ lo ∈ l.values gt, gt lo v = false := by
  constructor
  · intro habove
    by_cases hbelow : BelowMax gt l v
    · exact ⟨v, contains_iff.mpr ⟨habove, hbelow⟩, gt_self v⟩
    · simp only [BelowMax, not_forall, Bool.not_eq_false] at hbelow
      obtain ⟨high, hhigh, hv⟩ := hbelow
      exact ⟨high, max_mem_values hl hhigh, gt_asymm hv⟩
  · rintro ⟨lo, hlo, hlov⟩ low hlow
    exact gt_false_trans ((contains_iff.mp hlo).1 low hlow) hlov

theorem belowMax_iff {v : α} : BelowMax gt l v ↔ ∃ hi ∈ l.values gt, gt v hi = false := by
  constructor
  · intro hbelow
    by_cases habove : AboveMin gt l v
    · exact ⟨v, contains_iff.mpr ⟨habove, hbelow⟩, gt_self v⟩
    · simp only [AboveMin, not_forall, Bool.not_eq_false] at habove
      obtain ⟨low, hlow, hv⟩ := habove
      exact ⟨low, min_mem_values hl hlow, gt_asymm hv⟩
  · rintro ⟨hi, hhi, hvhi⟩ high hhigh
    exact gt_false_trans hvhi ((contains_iff.mp hhi).2 high hhigh)

end Possible

/-! ## Meet and join -/

theorem values_narrow (a b : Limits α) :
    (narrow gt a b).values gt = a.values gt ∩ b.values gt :=
  Set.ext fun _ => contains_narrow

/-- Widening closes the gap between two ranges and adds nothing else. -/
theorem values_widen (a b : Limits α) :
    (widen gt a b).values gt = hull gt (a.values gt ∪ b.values gt) := by
  cases ha : a.isImpossible gt with
  | true => simp [widen, ha, values_eq_empty ha]
  | false =>
    cases hb : b.isImpossible gt with
    | true => simp [widen, ha, hb, values_eq_empty hb]
    | false =>
      ext v
      rw [mem_values, contains_iff, aboveMin_widen ha hb, belowMax_widen ha hb, aboveMin_iff ha,
        aboveMin_iff hb, belowMax_iff ha, belowMax_iff hb]
      simp only [mem_hull, Set.mem_union, or_and_right, exists_or]

theorem covers_narrow_iff {a b c : Limits α} :
    Covers gt (narrow gt a b) c ↔ Covers gt a c ∧ Covers gt b c := by
  rw [Covers, values_narrow]
  exact Set.subset_inter_iff

/-- A range covers what two are widened to exactly if it covers both of them. -/
theorem covers_widen_iff {a b c : Limits α} :
    Covers gt c (widen gt a b) ↔ Covers gt c a ∧ Covers gt c b := by
  rw [Covers, values_widen]
  constructor
  · intro h
    exact Set.union_subset_iff.mp ((subset_hull _).trans h)
  · rintro ⟨ha, hb⟩
    exact hull_subset_values (Set.union_subset ha hb)

/-- Two ranges that share a value leave no gap. -/
theorem values_widen_of_common {a b : Limits α} {y : α} (ha : y ∈ a.values gt)
    (hb : y ∈ b.values gt) : (widen gt a b).values gt = a.values gt ∪ b.values gt := by
  rw [values_widen]
  refine Set.Subset.antisymm ?_ (subset_hull _)
  rintro x ⟨⟨lo, hlo, hlox⟩, ⟨hi, hhi, hxhi⟩⟩
  -- The values from `lo` up to `y` are in the range of `lo`, those from `y` up to `hi` in that of
  -- `hi`.
  cases hxy : gt x y with
  | false =>
    have between {l : Limits α} (hy : y ∈ l.values gt) (hlo : lo ∈ l.values gt) :
        x ∈ l.values gt :=
      hull_subset_values Set.Subset.rfl ⟨⟨lo, hlo, hlox⟩, ⟨y, hy, hxy⟩⟩
    exact hlo.imp (between ha) (between hb)
  | true =>
    have between {l : Limits α} (hy : y ∈ l.values gt) (hhi : hi ∈ l.values gt) :
        x ∈ l.values gt :=
      hull_subset_values Set.Subset.rfl ⟨⟨y, hy, gt_asymm hxy⟩, ⟨hi, hhi, hxhi⟩⟩
    exact hhi.imp (between ha) (between hb)

/-! ## Many ranges -/

theorem values_foldl_widen {ranges : List (Limits α)} {acc : Limits α} :
    (ranges.foldl (·.widen gt) acc).values gt = hull gt (valuesOfAny gt (acc :: ranges)) := by
  induction ranges generalizing acc with
  | nil => simp [valuesOfAny_cons]
  | cons l rest ih =>
    rw [List.foldl_cons, ih, valuesOfAny_cons, values_widen, hull_hull_union, valuesOfAny_cons acc,
      valuesOfAny_cons l, Set.union_assoc]

/-- Ranges at the beginning that are impossible add no values. -/
theorem valuesOfAny_dropWhile (ranges : List (Limits α)) :
    valuesOfAny gt (ranges.dropWhile (·.isImpossible gt)) = valuesOfAny gt ranges := by
  induction ranges with
  | nil => rfl
  | cons l rest ih =>
    rw [List.dropWhile_cons]
    cases hl : l.isImpossible gt with
    | true => simpa [valuesOfAny_cons, values_eq_empty hl] using ih
    | false => rfl

end Weak

/-- **Ranges form a lattice.** Whatever the strict weak order, a narrowed range holds what both
ranges hold, and a widened one what lies between two values that they hold. So narrowing gives the
greatest range that both cover and widening the least that covers both, which is their union if they
share a value. -/
theorem ranges_form_lattice {α : Type} (gt : α → α → Bool)
    [IsStrictWeakOrder α (fun x y => gt x y = true)] (a b : Limits α) :
    (∀ x, (narrow gt a b).contains gt x = true ↔
      a.contains gt x = true ∧ b.contains gt x = true) ∧
    (∀ x, (widen gt a b).contains gt x = true ↔
      ∃ lo hi, (a.contains gt lo = true ∨ b.contains gt lo = true) ∧
        (a.contains gt hi = true ∨ b.contains gt hi = true) ∧
        gt lo x = false ∧ gt x hi = false) ∧
    (∀ c, Covers gt (narrow gt a b) c ↔ Covers gt a c ∧ Covers gt b c) ∧
    (Covers gt (widen gt a b) a ∧ Covers gt (widen gt a b) b) ∧
    (∀ c, Covers gt c (widen gt a b) ↔ Covers gt c a ∧ Covers gt c b) ∧
    ((∃ y, a.contains gt y = true ∧ b.contains gt y = true) →
      ∀ x, (widen gt a b).contains gt x = true ↔
        a.contains gt x = true ∨ b.contains gt x = true) := by
  refine ⟨fun _ => contains_narrow, fun x => ?_, fun _ => covers_narrow_iff,
    covers_widen_iff.mp Set.Subset.rfl, fun _ => covers_widen_iff, ?_⟩
  · have hwiden : x ∈ (widen gt a b).values gt ↔ x ∈ hull gt (a.values gt ∪ b.values gt) := by
      rw [values_widen]
    rw [← mem_values, hwiden]
    constructor
    · rintro ⟨⟨lo, hlo, hlox⟩, ⟨hi, hhi, hxhi⟩⟩
      exact ⟨lo, hi, hlo, hhi, hlox, hxhi⟩
    · rintro ⟨lo, hi, hlo, hhi, hlox, hxhi⟩
      exact ⟨⟨lo, hlo, hlox⟩, ⟨hi, hhi, hxhi⟩⟩
  · rintro ⟨y, ha, hb⟩ x
    rw [← mem_values, values_widen_of_common ha hb]
    exact Iff.rfl

/-- Pairs are compared by their first part, so that the shared value is an end of neither range. The
third range lies behind a gap. -/
theorem ranges_form_lattice_with_ties :
    let gt : Int × Int → Int × Int → Bool := fun p q => decide (q.1 < p.1)
    let a : Limits (Int × Int) := ⟨some (1, 0), some (3, 0)⟩
    let b : Limits (Int × Int) := ⟨some (3, 9), some (6, 9)⟩
    let far : Limits (Int × Int) := ⟨some (5, 9), none⟩
    IsStrictWeakOrder (Int × Int) (fun p q => gt p q = true) ∧
    (∃ y, a.contains gt y = true ∧ b.contains gt y = true) ∧
    (∀ x, (widen gt a b).contains gt x = true ↔
      a.contains gt x = true ∨ b.contains gt x = true) ∧
    (widen gt a far).contains gt (4, 1) = true ∧
    ¬ (a.contains gt (4, 1) = true ∨ far.contains gt (4, 1) = true) := by
  intro gt a b far
  have order : IsStrictWeakOrder (Int × Int) (fun p q => gt p q = true) := {
    irrefl := fun p => by simp [gt]
    trans := fun p q r => by
      simp only [gt, decide_eq_true_eq]
      omega
    incomp_trans := fun p q r => by
      simp only [gt, decide_eq_true_eq]
      omega }
  have shared : ∃ y, a.contains gt y = true ∧ b.contains gt y = true :=
    ⟨(3, 5), by decide +zetaReduce, by decide +zetaReduce⟩
  obtain ⟨-, -, -, -, -, union⟩ := ranges_form_lattice gt a b
  obtain ⟨-, between, -⟩ := ranges_form_lattice gt a far
  refine ⟨order, shared, union shared, (between (4, 1)).mpr ?_, by decide +zetaReduce⟩
  exact ⟨(2, 0), (5, 0), by decide +zetaReduce⟩

end AccountServer.Limits
