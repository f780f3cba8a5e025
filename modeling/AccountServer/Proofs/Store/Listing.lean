import Mathlib.Data.List.Nodup
import AccountServer.Proofs.Store.Row

/-!
# The order in which users are listed

Users and rows are listed by time of creation and then by identifier. Both orders are lawful
comparisons. No two records share an identifier, so that a listing is the only sorted one.

* Sorting loses the order of what is sorted (`mergeSort_eq_of_perm`), so that leaving out records
  before or after it comes to the same.
* A listing of users is strictly increasing (`pairwise_before_sorted`).
* The rows of some users are listed in the order of the users.
-/

namespace AccountServer

open PartialCompare

/-! ## Sorting -/

section Sorting

variable {α : Type} {le : α → α → Bool} {cmp : α → α → Ordering} [Std.TransCmp cmp]

/-- A sorted list is in order if the test comes from a lawful comparison. -/
theorem pairwise_mergeSort_of_cmp (hle : ∀ a b, le a b = (cmp a b).isLE) (l : List α) :
    (l.mergeSort le).Pairwise fun a b => le a b = true := by
  refine List.pairwise_mergeSort (fun a b c hab hbc => ?_) (fun a b => ?_) l
  · rw [hle] at *
    exact Std.TransCmp.isLE_trans hab hbc
  · have hswap : cmp b a = (cmp a b).swap := Std.OrientedCmp.eq_swap
    rw [hle, hle, hswap]
    cases cmp a b <;> rfl

/-- The order of a list is lost in sorting, if no two elements compare as equal. -/
theorem mergeSort_eq_of_perm (hle : ∀ a b, le a b = (cmp a b).isLE) {l l' : List α}
    (hinj : ∀ a ∈ l, ∀ b ∈ l, cmp a b = .eq → a = b) (h : l.Perm l') :
    l.mergeSort le = l'.mergeSort le := by
  have hperm : (l.mergeSort le).Perm (l'.mergeSort le) :=
    ((List.mergeSort_perm l le).trans h).trans (List.mergeSort_perm l' le).symm
  -- Both sides are sorted, and sorted lists with the same elements are the same.
  refine hperm.eq_of_pairwise ?_ (pairwise_mergeSort_of_cmp hle l)
    (pairwise_mergeSort_of_cmp hle l')
  intro a b ha hb hab hba
  have hal : a ∈ l := (List.mergeSort_perm l le).mem_iff.mp ha
  have hbl : b ∈ l := h.mem_iff.mpr ((List.mergeSort_perm l' le).mem_iff.mp hb)
  rw [hle] at hab hba
  exact hinj a hal b hbl (Std.OrientedCmp.isLE_antisymm hab hba)

/-- What is left out may be left out before or after sorting, if no two elements compare as
equal. -/
theorem mergeSort_filter (hle : ∀ a b, le a b = (cmp a b).isLE) {l : List α}
    (hinj : ∀ a ∈ l, ∀ b ∈ l, cmp a b = .eq → a = b) (p : α → Bool) :
    (l.filter p).mergeSort le = (l.mergeSort le).filter p := by
  have hperm : (l.filter p).Perm ((l.mergeSort le).filter p) :=
    (List.mergeSort_perm l le).symm.filter p
  calc (l.filter p).mergeSort le
      = ((l.mergeSort le).filter p).mergeSort le :=
        mergeSort_eq_of_perm hle (fun a ha b hb =>
          hinj a (List.mem_of_mem_filter ha) b (List.mem_of_mem_filter hb)) hperm
    _ = (l.mergeSort le).filter p :=
        List.mergeSort_of_pairwise ((pairwise_mergeSort_of_cmp hle l).filter p)

end Sorting

/-! ## Users -/

namespace User

/-- By time of creation, then by identifier. -/
def order : User → User → Ordering :=
  compareLex (compareLex (compareOn (·.created.seconds)) (compareOn (·.created.nanos)))
    (compareOn (·.id.bits.toNat))

instance : Std.TransCmp order := inferInstanceAs (Std.TransCmp (compareLex _ _))

theorem precedes_eq_isLE (a b : User) : precedes a b = (order a b).isLE := by
  have hid : atMost a.id b.id = (compare a.id.bits.toNat b.id.bits.toNat).isLE :=
    atMost_eq_isLE (fun _ _ => rfl) a.id b.id
  simp only [precedes, hid, compare?, order, compareLex, compareOn]
  cases (compare a.created.seconds b.created.seconds).then
    (compare a.created.nanos b.created.nanos) <;> rfl

theorem id_eq_of_order {a b : User} (h : order a b = .eq) : a.id = b.id := by
  have hid : compare a.id.bits.toNat b.id.bits.toNat = .eq := (compareLex_eq_eq.mp h).2
  exact congrArg Uuid.mk (BitVec.eq_of_toNat_eq (Nat.compare_eq_eq.mp hid))

theorem sorted_filter {users : List User} (h : (users.map User.id).Nodup) (p : User → Bool) :
    sorted (users.filter p) = (sorted users).filter p :=
  mergeSort_filter precedes_eq_isLE
    (fun _ ha _ hb hab => List.inj_on_of_nodup_map h ha hb (id_eq_of_order hab)) p

/-- Users of whom no two share an identifier are listed in one order only. -/
theorem sorted_eq_of_perm {users users' : List User} (h : (users.map User.id).Nodup)
    (hperm : users.Perm users') : sorted users = sorted users' :=
  mergeSort_eq_of_perm precedes_eq_isLE
    (fun _ ha _ hb hab => List.inj_on_of_nodup_map h ha hb (id_eq_of_order hab)) hperm

/-- One user was created before the other, or at the same time and has the lesser identifier. -/
def Before (a b : User) : Prop :=
  a.created.Before b.created ∨ a.created = b.created ∧ a.id.bits < b.id.bits

theorem before_of_order {a b : User} (h : order a b = .lt) : a.Before b := by
  simp only [order, compareLex, compareOn, Ordering.then_eq_lt, Ordering.then_eq_eq,
    Int.compare_eq_lt, Int.compare_eq_eq, Nat.compare_eq_lt, Nat.compare_eq_eq] at h
  rcases h with hcreated | ⟨⟨hseconds, hnanos⟩, hid⟩
  · exact Or.inl hcreated
  · exact Or.inr ⟨Instant.ext hseconds hnanos, hid⟩

/-- A listing is strictly increasing, whoever was created at the same time. -/
theorem pairwise_before_sorted {users : List User} (h : (users.map User.id).Nodup) :
    (sorted users).Pairwise Before := by
  have hids : (sorted users).Pairwise fun a b => a.id ≠ b.id :=
    List.pairwise_map.mp (((List.mergeSort_perm users precedes).map User.id).nodup_iff.mpr h)
  refine ((pairwise_mergeSort_of_cmp precedes_eq_isLE users).and hids).imp ?_
  rintro a b ⟨hle, hne⟩
  rw [precedes_eq_isLE] at hle
  cases horder : order a b with
  | lt => exact before_of_order horder
  | eq => exact absurd (id_eq_of_order horder) hne
  | gt =>
    rw [horder] at hle
    cases hle

end User

/-! ## Rows -/

namespace Cell

/-- The kinds of cells in their order. -/
def kind : Cell → Nat
  | .null => 0
  | .integer _ => 1
  | .text _ => 2

def number : Cell → Int
  | .integer n => n
  | _ => 0

def content : Cell → String
  | .text s => s
  | _ => ""

instance : Ord Cell := ⟨Cell.compare⟩

theorem ord_compare (a b : Cell) : Ord.compare a b = a.compare b := rfl

/-- Cells compare by kind, then as numbers, then as texts. -/
theorem compare_eq : Cell.compare =
    compareLex (compareOn kind) (compareLex (compareOn number) (compareOn content)) := by
  funext a b
  cases a <;> cases b <;>
    first | rfl | simp [Cell.compare, compareLex, compareOn, kind, number, content]

instance : Std.TransOrd Cell := by
  show Std.TransCmp Cell.compare
  rw [compare_eq]
  infer_instance

theorem eq_of_compare {a b : Cell} (h : a.compare b = .eq) : a = b := by
  cases a <;> cases b <;> simp_all [Cell.compare]

theorem atMost_eq_isLE (a b : Cell) : a.atMost b = (a.compare b).isLE := by
  unfold atMost
  cases a.compare b <;> rfl

end Cell

namespace Row

/-- By time of creation, then by identifier, as cells. -/
def order : Row → Row → Ordering := compareLex (compareOn Row.created) (compareOn Row.id)

instance : Std.TransCmp order := inferInstanceAs (Std.TransCmp (compareLex _ _))

theorem precedes_eq_isLE (a b : Row) : precedes a b = (order a b).isLE := by
  show _ = ((a.created.compare b.created).then (a.id.compare b.id)).isLE
  rw [precedes, Cell.atMost_eq_isLE]
  cases a.created.compare b.created <;> rfl

theorem id_eq_of_order {a b : Row} (h : order a b = .eq) : a.id = b.id :=
  Cell.eq_of_compare (compareLex_eq_eq.mp h).2

theorem sorted_filter {rows : List Row} (h : (rows.map Row.id).Nodup) (p : Row → Bool) :
    TableStore.sorted (rows.filter p) = (TableStore.sorted rows).filter p :=
  mergeSort_filter precedes_eq_isLE
    (fun _ ha _ hb hab => List.inj_on_of_nodup_map h ha hb (id_eq_of_order hab)) p

/-- Rows are in the order of the users that they stand for. -/
theorem order_encode {a b : User} (ha : a.Storable) (hb : b.Storable) :
    order (encode a) (encode b) = User.order a b := by
  have hcreated := Option.some.inj (Instant.compare?_eq_compare_micros ha.created hb.created)
  simp only [order, compareLex, compareOn, Cell.ord_compare, encode, Cell.ofInstant, Cell.compare,
    Uuid.compare_toText, ← hcreated, User.order]

/-- The rows of users are listed as the users are. -/
theorem sorted_map_encode {users : List User} (h : ∀ u ∈ users, u.Storable) :
    TableStore.sorted (users.map encode) = (User.sorted users).map encode := by
  refine (List.map_mergeSort fun a ha b hb => ?_).symm
  rw [precedes_eq_isLE, order_encode (h a ha) (h b hb), User.precedes_eq_isLE]

/-- Reading the rows of users gives the users, in their order. -/
theorem mapM_decode_sorted {users : List User} (h : ∀ u ∈ users, u.Storable) :
    (TableStore.sorted (users.map encode)).mapM decode = .ok (User.sorted users) := by
  rw [sorted_map_encode h, mapM_eq_ok_iff, List.forall₂_map_left_iff, List.forall₂_same]
  intro u hu
  exact decode_encode (h u ((List.mergeSort_perm users _).mem_iff.mp hu))

end Row

end AccountServer
