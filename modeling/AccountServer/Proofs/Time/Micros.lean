import AccountServer.Time.Instant

/-!
# Instants as microseconds

A store keeps an instant as its number of microseconds.

* Round trip: `Storable` instants, and no others, are read back from their numbers.
* Order: the numbers compare as the instants do, but for one case. A leap second goes on for a
  second more, so that its number may lie above that of an instant in the second after it.
  `outruns` is this case.
-/

namespace AccountServer.Instant

open PartialCompare

/-- An instant that its number of microseconds stands for. -/
structure Storable (t : Instant) : Prop where
  noLeap : t.nanos < 1000000000
  whole : t.nanos % 1000 = 0
  inRange : secondsInRange t.seconds = true

instance (t : Instant) : Decidable t.Storable :=
  decidable_of_iff (t.nanos < 1000000000 ∧ t.nanos % 1000 = 0 ∧ secondsInRange t.seconds = true)
    ⟨fun ⟨h, hw, hr⟩ => ⟨h, hw, hr⟩, fun ⟨h, hw, hr⟩ => ⟨h, hw, hr⟩⟩

/-! ## Round trip -/

theorem ofMicros?_eq (n : Int) :
    ofMicros? n =
      if secondsInRange (n / 1000000) then
        some ⟨n / 1000000, (n % 1000000).toNat * 1000, by omega⟩
      else none := by
  have hdiv : n.fdiv 1000000 = n / 1000000 := Int.fdiv_eq_ediv_of_nonneg n (by decide)
  have hrest : n - n / 1000000 * 1000000 = n % 1000000 := by omega
  have hlt : (n % 1000000).toNat < 1000000 := by omega
  simp only [ofMicros?, hdiv, hrest, hlt, dite_true]

/-- What a number of microseconds is read as, and when. -/
theorem ofMicros?_eq_some_iff {n : Int} {t : Instant} :
    ofMicros? n = some t ↔ t.micros = n ∧ t.Storable := by
  rw [ofMicros?_eq]
  constructor
  · intro h
    split at h
    · next hrange =>
      cases h
      refine ⟨?_, by show _ * 1000 < _; omega, by show _ * 1000 % 1000 = 0; omega, hrange⟩
      show n / 1000000 * 1000000 + ((n % 1000000).toNat * 1000 / 1000 : Nat) = n
      omega
    · contradiction
  · rintro ⟨rfl, hnoLeap, hwhole, hrange⟩
    have hseconds : t.micros / 1000000 = t.seconds := by unfold micros; omega
    have hnanos : (t.micros % 1000000).toNat * 1000 = t.nanos := by unfold micros; omega
    simp only [hseconds, hrange, if_true, hnanos]

@[simp] theorem ofMicros?_micros {t : Instant} (h : t.Storable) : ofMicros? t.micros = some t :=
  ofMicros?_eq_some_iff.mpr ⟨rfl, h⟩

theorem micros_injective {a b : Instant} (ha : a.Storable) (hb : b.Storable)
    (h : a.micros = b.micros) : a = b := by
  have hread := ofMicros?_micros ha
  rw [h, ofMicros?_micros hb] at hread
  exact (Option.some.inj hread).symm

/-- An instant whose number of microseconds stands for one, be it for another one. -/
def Readable (t : Instant) : Prop := ∃ t', ofMicros? t.micros = some t'

/-- What is finer than a microsecond, and the mark of a leap second, is lost in storing. -/
theorem Readable.exists_storable {t : Instant} (h : t.Readable) :
    ∃ t' : Instant, t'.Storable ∧ t'.micros = t.micros := by
  obtain ⟨t', ht'⟩ := h
  obtain ⟨hmicros, hstorable⟩ := ofMicros?_eq_some_iff.mp ht'
  exact ⟨t', hstorable, hmicros⟩

/-! ## Order -/

theorem ext {a b : Instant} (hseconds : a.seconds = b.seconds) (hnanos : a.nanos = b.nanos) :
    a = b := by
  cases a
  cases b
  simp_all

/-- One instant is before the other. -/
def Before (a b : Instant) : Prop :=
  a.seconds < b.seconds ∨ a.seconds = b.seconds ∧ a.nanos < b.nanos

theorem atMost_iff {a b : Instant} :
    atMost a b = true ↔ a.seconds < b.seconds ∨ a.seconds = b.seconds ∧ a.nanos ≤ b.nanos := by
  simp only [atMost, compare?]
  rcases Int.lt_trichotomy a.seconds b.seconds with h | h | h
  · rw [Int.compare_eq_lt.mpr h]
    simp [h]
  · rw [Int.compare_eq_eq.mpr h]
    simp only [Ordering.then, h, Int.lt_irrefl, false_or, true_and]
    cases hn : compare a.nanos b.nanos with
    | lt => simpa using Nat.le_of_lt (Nat.compare_eq_lt.mp hn)
    | eq => simpa using Nat.le_of_eq (Nat.compare_eq_eq.mp hn)
    | gt => simpa using Nat.compare_eq_gt.mp hn
  · rw [Int.compare_eq_gt.mpr h]
    simp only [Ordering.then, Bool.false_eq_true, false_iff]
    omega

/-- An instant of a leap second comes before the other one, which lies in the next second, and yet
its number of microseconds is greater. -/
def outruns (low t : Instant) : Bool :=
  t.seconds = low.seconds + 1 && t.nanos / 1000 + 1000000 < low.nanos / 1000

/-- No number is cut off by an upper bound that the instant keeps to. -/
theorem micros_le_of_atMost {t high : Instant} (h : atMost t high = true)
    (ht : t.nanos < 1000000000) : t.micros ≤ high.micros := by
  unfold micros
  rcases atMost_iff.mp h with h | ⟨h, hn⟩ <;> omega

/-- A number is cut off by a lower bound that the instant keeps to just if the bound outruns it. -/
theorem micros_le_iff {low t : Instant} (h : atMost low t = true) (ht : t.nanos < 1000000000) :
    low.micros ≤ t.micros ↔ low.outruns t = false := by
  have hlow := low.nanos_lt
  unfold micros outruns
  rcases atMost_iff.mp h with h | ⟨h, hn⟩
  · -- An earlier second. Its fraction, below two seconds, reaches into the next one at most.
    by_cases hnext : t.seconds = low.seconds + 1
    · simp only [hnext, decide_true, Bool.true_and, decide_eq_false_iff_not]
      omega
    · simp only [hnext, decide_false, Bool.false_and, iff_true]
      omega
  · -- The same second. Rounding keeps the order of the fractions.
    have hnext : t.seconds ≠ low.seconds + 1 := by omega
    simp only [hnext, decide_false, Bool.false_and, iff_true]
    omega

theorem outruns_eq_false {low : Instant} (h : low.nanos < 1000000000) (t : Instant) :
    low.outruns t = false := by
  simp only [outruns, Bool.and_eq_false_iff, decide_eq_false_iff_not]
  omega

/-- The numbers of storable instants compare as the instants do. -/
theorem compare?_eq_compare_micros {a b : Instant} (ha : a.Storable) (hb : b.Storable) :
    compare? a b = some (compare a.micros b.micros) := by
  let cmp : Instant → Instant → Ordering := compareLex (compareOn seconds) (compareOn nanos)
  -- Without leap seconds the greater number has the later second, or the same and more of it.
  have lt_of_lt {a b : Instant} (ha : a.Storable) (hb : b.Storable) (h : a.micros < b.micros) :
      cmp a b = .lt := by
    have hna := ha.noLeap
    have hnb := hb.noLeap
    unfold micros at h
    rcases Int.lt_or_eq_of_le (show a.seconds ≤ b.seconds by omega) with hs | hs
    · simp [cmp, compareLex, compareOn, Int.compare_eq_lt.mpr hs]
    · have hn : a.nanos < b.nanos := by omega
      simp [cmp, compareLex, compareOn, hs, Nat.compare_eq_lt.mpr hn]
  show some (cmp a b) = _
  congr 1
  cases hm : compare a.micros b.micros with
  | lt => exact lt_of_lt ha hb (Int.compare_eq_lt.mp hm)
  | eq =>
    rw [micros_injective ha hb (Int.compare_eq_eq.mp hm)]
    exact Std.ReflCmp.compare_self
  | gt => exact Std.OrientedCmp.gt_of_lt (lt_of_lt hb ha (Int.compare_eq_gt.mp hm))

end AccountServer.Instant
