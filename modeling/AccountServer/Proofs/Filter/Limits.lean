import Mathlib.Order.Defs.Unbundled
import AccountServer.Filter.Limits

/-!
# What lies in narrowed and widened bounds

The comparison is any strict weak order. A range is taken apart into its two ends, and an end into
what `upper` and `lower` make of two values:

* the ends of `narrow` are passed by what passes both ends,
* the ends of `widen` are passed by what passes either end.

Impossible ranges hold nothing, so that the special treatment they get makes no difference to what
`narrow` holds.
-/

namespace AccountServer.Limits

variable {α : Type} {gt : α → α → Bool}

/-! ## The two ends -/

/-- The value is not below the lower end. -/
def AboveMin (gt : α → α → Bool) (l : Limits α) (v : α) : Prop :=
  ∀ low, l.min = some low → gt low v = false

/-- The value is not above the upper end. -/
def BelowMax (gt : α → α → Bool) (l : Limits α) (v : α) : Prop :=
  ∀ high, l.max = some high → gt v high = false

/-- The two ends are looked at one by one. -/
theorem contains_iff {l : Limits α} {v : α} :
    l.contains gt v = true ↔ AboveMin gt l v ∧ BelowMax gt l v := by
  obtain ⟨min, max⟩ := l
  cases min <;> cases max <;> simp [contains, AboveMin, BelowMax]

@[simp] theorem contains_unbounded (v : α) : unbounded.contains gt v = true := rfl

/-! ## The greater and the lesser of two values -/

section Weak

variable [IsStrictWeakOrder α (fun a b => gt a b = true)]

theorem gt_trans {x y z : α} (hxy : gt x y = true) (hyz : gt y z = true) : gt x z = true :=
  IsTrans.trans (r := fun a b => gt a b = true) x y z hxy hyz

theorem gt_asymm {x y : α} (h : gt x y = true) : gt y x = false := by
  rw [← Bool.not_eq_true]
  exact fun h' => Std.Irrefl.irrefl (r := fun a b => gt a b = true) x (gt_trans h h')

/-- Not being greater passes on. This is where incomparable values have to form classes. -/
theorem gt_false_trans {x y z : α} (hxy : gt x y = false) (hyz : gt y z = false) :
    gt x z = false := by
  rw [← Bool.not_eq_true] at *
  intro hxz
  have hyx : ¬ gt y x = true := fun h => hyz (gt_trans h hxz)
  have hzy : ¬ gt z y = true := fun h => hxy (gt_trans hxz h)
  have incomp := @IsStrictWeakOrder.incomp_trans α (fun a b => gt a b = true) _ x y z
  exact (incomp ⟨hxy, hyx⟩ ⟨hyz, hzy⟩).1 hxz

/-- The upper of two values is not above a third exactly if neither of them is. -/
theorem upper_not_above {x y v : α} :
    gt (upper gt x y) v = false ↔ gt x v = false ∧ gt y v = false := by
  unfold upper
  split
  · next h => exact ⟨fun hx => ⟨hx, gt_false_trans (gt_asymm h) hx⟩, And.left⟩
  · next h => exact ⟨fun hy => ⟨gt_false_trans (by simpa using h) hy, hy⟩, And.right⟩

theorem lower_not_below {x y v : α} :
    gt v (lower gt x y) = false ↔ gt v x = false ∧ gt v y = false := by
  unfold lower
  split
  · next h => exact ⟨fun hy => ⟨gt_false_trans hy (gt_asymm h), hy⟩, And.right⟩
  · next h => exact ⟨fun hx => ⟨hx, gt_false_trans hx (by simpa using h)⟩, And.left⟩

theorem lower_not_above {x y v : α} :
    gt (lower gt x y) v = false ↔ gt x v = false ∨ gt y v = false := by
  unfold lower
  split
  · next h => exact ⟨Or.inr, fun hv => hv.elim (gt_false_trans (gt_asymm h)) id⟩
  · next h => exact ⟨Or.inl, fun hv => hv.elim id (gt_false_trans (by simpa using h))⟩

theorem upper_not_below {x y v : α} :
    gt v (upper gt x y) = false ↔ gt v x = false ∨ gt v y = false := by
  unfold upper
  split
  · next h => exact ⟨Or.inl, fun hv => hv.elim id (fun hy => gt_false_trans hy (gt_asymm h))⟩
  · next h => exact ⟨Or.inr, fun hv => hv.elim (fun hx => gt_false_trans hx (by simpa using h)) id⟩

/-! ## Ranges -/

/-- Nothing lies in an impossible range. -/
theorem contains_eq_false {l : Limits α} (h : l.isImpossible gt = true) (v : α) :
    l.contains gt v = false := by
  rw [← Bool.not_eq_true, contains_iff]
  rintro ⟨hmin, hmax⟩
  obtain ⟨min, max⟩ := l
  match min, max with
  | some low, some high =>
    have hlow : gt low v = false := hmin low rfl
    have hhigh : gt v high = false := hmax high rfl
    exact absurd h (by simp [isImpossible, gt_false_trans hlow hhigh])
  | none, _ | some _, none => exact absurd h (by simp [isImpossible])

/-- Bounds with a value in them are not impossible. -/
theorem isImpossible_eq_false {l : Limits α} {v : α} (h : l.contains gt v = true) :
    l.isImpossible gt = false := by
  cases hi : l.isImpossible gt with
  | false => rfl
  | true => rw [contains_eq_false hi v] at h; contradiction

/-! ## Narrowing and widening -/

section Ends

variable {a b : Limits α} {v : α} (ha : a.isImpossible gt = false) (hb : b.isImpossible gt = false)

include ha hb

/-- The lower end of a narrowed range is the greater of the two. -/
theorem aboveMin_narrow :
    AboveMin gt (narrow gt a b) v ↔ AboveMin gt a v ∧ AboveMin gt b v := by
  simp only [narrow, ha, hb, Bool.false_eq_true, if_false, AboveMin]
  cases a.min <;> cases b.min <;> simp [upper_not_above]

theorem belowMax_narrow :
    BelowMax gt (narrow gt a b) v ↔ BelowMax gt a v ∧ BelowMax gt b v := by
  simp only [narrow, ha, hb, Bool.false_eq_true, if_false, BelowMax]
  cases a.max <;> cases b.max <;> simp [lower_not_below]

/-- The lower end of a widened range is the smaller of the two, if both ranges have one. -/
theorem aboveMin_widen :
    AboveMin gt (widen gt a b) v ↔ AboveMin gt a v ∨ AboveMin gt b v := by
  simp only [widen, ha, hb, Bool.false_eq_true, if_false, AboveMin]
  cases a.min <;> cases b.min <;> simp [lower_not_above]

theorem belowMax_widen :
    BelowMax gt (widen gt a b) v ↔ BelowMax gt a v ∨ BelowMax gt b v := by
  simp only [widen, ha, hb, Bool.false_eq_true, if_false, BelowMax, ← upper.eq_1]
  cases a.max <;> cases b.max <;> simp [upper_not_below]

end Ends

/-- Narrowing is intersection. -/
theorem contains_narrow {a b : Limits α} {v : α} :
    (narrow gt a b).contains gt v = true ↔ a.contains gt v = true ∧ b.contains gt v = true := by
  cases ha : a.isImpossible gt with
  | true => simp [narrow, ha, contains_eq_false ha v]
  | false =>
    cases hb : b.isImpossible gt with
    | true => simp [narrow, ha, hb, contains_eq_false hb v]
    | false =>
      simp only [contains_iff, aboveMin_narrow ha hb, belowMax_narrow ha hb]
      exact and_and_and_comm

end Weak

end AccountServer.Limits
