import Mathlib.Data.List.Permutation
import AccountServer.Filter.Codec
import AccountServer.Proofs.Filter.Ends
import AccountServer.Proofs.Json.Records

/-!
# Filters read back from JSON

A criterion reads back from its JSON form if its values do. For trees there is a relation between a
tree and its JSON forms (`Written`), given that between a condition and its JSON forms; in it, the
two members of an operation may stand in either order. Whoever reads the conditions back reads the
tree back (`Written.decode`).
-/

namespace AccountServer

/-! ## Criteria -/

namespace Criterion

variable {α : Type} {value : α → Json} {decodeValue : Json.Decoder α}

/-- A criterion reads back if the values that it names do. -/
theorem decode_of_same {c : Criterion α}
    (hvalue : ∀ v ∈ c.values, ∀ j, j.Same (value v) → decodeValue j = .ok v) {j : Json}
    (h : j.Same (c.toJson value)) : decode decodeValue j = .ok c := by
  cases c with
  | eq v | ne v | lt v | le v | gt v | ge v =>
    obtain ⟨payload, rfl, hpayload⟩ := h.exists_payload
    refine Json.decodeVariant_object rfl ?_
    rw [hvalue v (List.mem_singleton_self v) payload hpayload]
    rfl
  | between low high =>
    obtain ⟨payload, rfl, hpayload⟩ := h.exists_payload
    obtain ⟨items, rfl, hitems⟩ := hpayload.exists_items
    obtain ⟨k, _, hlow, hrest, rfl⟩ := List.forall₂_cons_right_iff.mp hitems
    obtain ⟨l, _, hhigh, hnil, rfl⟩ := List.forall₂_cons_right_iff.mp hrest
    obtain rfl := List.forall₂_nil_right_iff.mp hnil
    have hpair : Json.decodePair decodeValue decodeValue (.array [k, l]) = .ok (low, high) :=
      Json.decodePair_array (hvalue low (by simp [values]) k hlow)
        (hvalue high (by simp [values]) l hhigh)
    refine Json.decodeVariant_object rfl ?_
    rw [hpair]
    rfl
  | oneOf vs =>
    obtain ⟨payload, rfl, hpayload⟩ := h.exists_payload
    obtain ⟨items, rfl, hitems⟩ := hpayload.exists_items
    have hlist : Json.decodeList decodeValue (.array items) = .ok vs :=
      Json.decodeList_array (List.forall₂_map_right_iff.mp hitems) hvalue
    refine Json.decodeVariant_object rfl ?_
    rw [hlist]
    rfl

end Criterion

/-! ## Trees -/

theorem Operator.decode_name (op : Operator) : decode (.string op.name) = .ok op := by
  cases op <;> exact Json.decodeVariant_string rfl _

namespace Filter

variable {W : Type}

/-- The value is a JSON form of the tree, where the conditions have the forms that `leaf` says. -/
inductive Written (leaf : W → Json → Prop) : Filter W → Json → Prop
  | condition {w : W} {payload : Json} (form : leaf w payload) :
      Written leaf (.condition w) (.object [("condition", payload)])
  | operation {op : Operator} {operands : List (Filter W)} {items : List Json}
      {members : List (String × Json)} (each : List.Forall₂ (Written leaf) operands items)
      (order : members.Perm [("op", .string op.name), ("operands", .array items)]) :
      Written leaf (.operation op operands) (.object [("operation", .object members)])

theorem allToJson_eq_map (leafJson : W → Json) (ts : List (Filter W)) :
    allToJson leafJson ts = ts.map (toJson leafJson) := by
  induction ts with
  | nil => rfl
  | cons t rest ih => rw [allToJson, ih, List.map_cons]

variable {leafJson : W → Json}

theorem written_toJson (t : Filter W) :
    t.Written (fun w j => j = leafJson w) (t.toJson leafJson) := by
  induction t using treeInduction with
  | condition w => exact .condition rfl
  | operation op operands ih =>
    rw [toJson, allToJson_eq_map]
    exact .operation (List.forall₂_map_right_iff.mpr (List.forall₂_same.mpr ih)) (.refl _)

/-- What is the same as the JSON form of a tree is a JSON form of it, with conditions that are the
same. -/
theorem written_of_same {t : Filter W} {j : Json} (h : j.Same (t.toJson leafJson)) :
    t.Written (fun w j => j.Same (leafJson w)) j := by
  induction t using treeInduction generalizing j with
  | condition w =>
    obtain ⟨payload, rfl, hpayload⟩ := Json.Same.exists_payload h
    exact .condition hpayload
  | operation op operands ih =>
    rw [toJson, allToJson_eq_map] at h
    obtain ⟨payload, rfl, hpayload⟩ := h.exists_payload
    obtain ⟨members, moved, rfl, order, names, pointwise⟩ := hpayload.exists_members
    obtain ⟨⟨_, op'⟩, rest, rfl, rfl, hrest⟩ := List.map_eq_cons_iff.mp names
    obtain ⟨⟨_, operands'⟩, rfl, rfl⟩ := List.map_eq_singleton_iff.mp hrest
    obtain ⟨hop, hoperands⟩ := List.forall₂_cons.mp pointwise
    obtain rfl := hop.eq_string
    obtain ⟨items, rfl, hitems⟩ := (List.forall₂_cons.mp hoperands).1.exists_items
    refine .operation ?_ order
    have heach : List.Forall₂ (fun t j => j.Same (t.toJson leafJson)) operands items :=
      (List.forall₂_map_right_iff.mp hitems).flip
    exact Json.forall₂_imp_of_mem heach fun t ht _ hsame => ih t ht hsame

section Reading

variable {leaf : W → Json → Prop}

theorem depth_le_depthMembers {members : List (String × Json)} {m : String × Json}
    (h : m ∈ members) : m.2.depth ≤ Json.depthMembers members := by
  induction members with
  | nil => contradiction
  | cons n rest ih =>
    rcases List.mem_cons.mp h with rfl | h
    · exact Nat.le_max_left _ _
    · exact Nat.le_trans (ih h) (Nat.le_max_right _ _)

theorem depth_le_depthAll {ts : List (Filter W)} {t : Filter W} (h : t ∈ ts) :
    t.depth ≤ depthAll ts := by
  induction ts with
  | nil => contradiction
  | cons u rest ih =>
    rcases List.mem_cons.mp h with rfl | h
    · exact Nat.le_max_left _ _
    · exact Nat.le_trans (ih h) (Nat.le_max_right _ _)

theorem depthAll_le_of_pointwise {ts : List (Filter W)} {items : List Json}
    (h : List.Forall₂ (fun t j => t.depth ≤ j.depth) ts items) :
    depthAll ts ≤ Json.depthAll items := by
  induction h with
  | nil => exact Nat.le_refl 0
  | cons hle _ ih =>
    simp only [depthAll, Json.depthAll]
    omega

/-- A tree is no deeper than its JSON forms, so the levels of these suffice to read it. -/
theorem Written.depth_le {t : Filter W} {j : Json} (h : t.Written leaf j) : t.depth ≤ j.depth := by
  induction t using treeInduction generalizing j with
  | condition w =>
    cases h
    exact Nat.le_add_left 1 _
  | operation op operands ih =>
    obtain _ | ⟨each, order⟩ := h
    have hall := depthAll_le_of_pointwise
      (Json.forall₂_imp_of_mem each fun t ht _ hwritten => ih t ht hwritten)
    have hoperands := depth_le_depthMembers
      (order.mem_iff.mpr (List.mem_cons_of_mem _ List.mem_cons_self))
    simp only [depth, Json.depth, Json.depthMembers] at *
    omega

variable {decodeLeaf : Json.Decoder W}

/-- The two members of an operation are read in either order. -/
theorem decodeOperation_of_perm {op : Operator} {operands : List (Filter W)} {items : List Json}
    {members : List (String × Json)}
    (order : members.Perm [("op", .string op.name), ("operands", .array items)])
    {decodeOperands : Json.Decoder (List (Filter W))}
    (hoperands : decodeOperands (.array items) = .ok operands) (positional : Bool) :
    decodeOperation decodeOperands positional (.object members) = .ok (op, operands) := by
  have hop := op.decode_name
  rcases List.perm_pair.mp order with rfl | rfl
  · simp [decodeOperation, decodeMembers, hop, hoperands]
    rfl
  · simp [decodeOperation, decodeMembers, hop, hoperands]
    rfl

/-- A tree reads back if its conditions do, as long as it is not too deep. -/
theorem Written.decodeWithin {t : Filter W}
    (hleaf : ∀ w ∈ t.leaves, ∀ j, leaf w j → decodeLeaf j = .ok w) {j : Json}
    (h : t.Written leaf j) (positional : Bool) {levels : Nat} (hlevels : t.depth ≤ levels) :
    Filter.decodeWithin decodeLeaf positional levels j = .ok t := by
  induction t using treeInduction generalizing j levels with
  | condition w =>
    obtain form | _ := h
    obtain _ | levels := levels
    · contradiction
    · refine Json.decodeVariant_object rfl ?_
      rw [hleaf w (List.mem_singleton_self w) _ form]
      rfl
  | operation op operands ih =>
    obtain _ | ⟨each, order⟩ := h
    obtain _ | levels := levels
    · contradiction
    · have hlevel : ∀ t ∈ operands, t.depth ≤ levels := fun t ht =>
        Nat.le_trans (depth_le_depthAll ht) (Nat.le_of_succ_le_succ hlevels)
      have hoperands : Json.decodeList (Filter.decodeWithin decodeLeaf positional levels)
          (.array _) = .ok operands :=
        Json.decodeList_array each.flip fun t ht j hwritten =>
          ih t ht (fun w hw => hleaf w (mem_leavesAll.mpr ⟨t, ht, hw⟩)) hwritten (hlevel t ht)
      refine Json.decodeVariant_object rfl ?_
      rw [decodeOperation_of_perm order hoperands]
      rfl

/-- Who reads the conditions of a tree back reads the tree back. -/
theorem Written.decode {t : Filter W}
    (hleaf : ∀ w ∈ t.leaves, ∀ j, leaf w j → decodeLeaf j = .ok w) {j : Json}
    (h : t.Written leaf j) : Filter.decode decodeLeaf j = .ok t :=
  h.decodeWithin hleaf false h.depth_le

end Reading

end Filter

end AccountServer
