import Mathlib.Data.List.Forall2
import AccountServer.Json.Basic

/-!
# The same value

The members of an object have no order that counts: two values are the same if they differ in that
order only, at any depth (`Same`). What is the same as a text or a list is a text or a list too, and
objects that are the same agree in every lookup as long as no name comes twice.
-/

namespace AccountServer.Json

/-- The two values differ in the order of the members of objects only. -/
inductive Same : Json → Json → Prop
  | refl (j : Json) : Same j j
  | array {items items' : List Json} (pointwise : List.Forall₂ Same items items') :
      Same (.array items) (.array items')
  | object {members moved members' : List (String × Json)} (order : members.Perm moved)
      (names : moved.map Prod.fst = members'.map Prod.fst)
      (pointwise : List.Forall₂ Same (moved.map Prod.snd) (members'.map Prod.snd)) :
      Same (.object members) (.object members')

namespace Same

variable {j : Json}

theorem eq_string {s : String} (h : j.Same (.string s)) : j = .string s := by
  cases h with
  | refl => rfl

theorem exists_items {items' : List Json} (h : j.Same (.array items')) :
    ∃ items, j = .array items ∧ List.Forall₂ Same items items' := by
  cases h with
  | refl => exact ⟨items', rfl, List.forall₂_same.mpr fun _ _ => .refl _⟩
  | array pointwise => exact ⟨_, rfl, pointwise⟩

/-- Objects are the same if their members can be moved so that names and values agree one by one. -/
theorem exists_members {members' : List (String × Json)} (h : j.Same (.object members')) :
    ∃ members moved, j = .object members ∧ members.Perm moved ∧
      moved.map Prod.fst = members'.map Prod.fst ∧
      List.Forall₂ Same (moved.map Prod.snd) (members'.map Prod.snd) := by
  cases h with
  | refl => exact ⟨members', members', rfl, .refl _, rfl, List.forall₂_same.mpr fun _ _ => .refl _⟩
  | object order names pointwise => exact ⟨_, _, rfl, order, names, pointwise⟩

/-- An object of one member leaves nothing to put in order. -/
theorem exists_payload {name : String} {payload' : Json} (h : j.Same (.object [(name, payload')])) :
    ∃ payload, j = .object [(name, payload)] ∧ payload.Same payload' := by
  obtain ⟨members, moved, rfl, order, names, pointwise⟩ := h.exists_members
  obtain ⟨⟨_, payload⟩, rfl, rfl⟩ := List.map_eq_singleton_iff.mp names
  exact ⟨payload, by rw [List.perm_singleton.mp order], (List.forall₂_cons.mp pointwise).1⟩

end Same

/-! ## Names that come once -/

/-- Where no name comes twice, what is found under a name is what stands there. -/
theorem lookup_eq_some_iff_mem {members : List (String × Json)} {name : String} {j : Json}
    (h : (members.map Prod.fst).Nodup) : members.lookup name = some j ↔ (name, j) ∈ members := by
  induction members with
  | nil => simp
  | cons m rest ih =>
    obtain ⟨key, k⟩ := m
    obtain ⟨hfresh, hrest⟩ := List.nodup_cons.mp h
    rw [List.lookup_cons, List.mem_cons, Prod.mk.injEq, ← ih hrest]
    by_cases hname : name = key
    · subst hname
      have hnone : rest.lookup name ≠ some j := fun hlookup =>
        hfresh (List.mem_map.mpr ⟨(name, j), (ih hrest).mp hlookup, rfl⟩)
      simp [hnone, eq_comm]
    · simp [beq_false_of_ne hname, hname]

theorem lookup_eq_of_perm {members moved : List (String × Json)} (h : members.Perm moved)
    (hnames : (moved.map Prod.fst).Nodup) (name : String) :
    members.lookup name = moved.lookup name := by
  have hnames' : (members.map Prod.fst).Nodup := (h.map _).nodup_iff.mpr hnames
  refine Option.ext fun j => ?_
  rw [lookup_eq_some_iff_mem hnames', lookup_eq_some_iff_mem hnames, h.mem_iff]

/-- Members that agree one by one are found under the same names. -/
theorem lookup_rel_of_pointwise (name : String) : ∀ (members members' : List (String × Json)),
    members.map Prod.fst = members'.map Prod.fst →
    List.Forall₂ Same (members.map Prod.snd) (members'.map Prod.snd) →
    Option.Rel Same (members.lookup name) (members'.lookup name)
  | [], [], _, _ => .none
  | (key, j) :: rest, (key', j') :: rest', hnames, hvalues => by
    obtain ⟨hkey, hnames⟩ := List.cons.inj hnames
    obtain ⟨hsame, hvalues⟩ := List.forall₂_cons.mp hvalues
    have ih := lookup_rel_of_pointwise name rest rest' hnames hvalues
    obtain rfl : key = key' := hkey
    rw [List.lookup_cons, List.lookup_cons]
    cases name == key with
    | true => exact .some hsame
    | false => exact ih

/-- What is the same as an object whose names come once has the same names, each with the same
value. -/
theorem Same.exists_lookup {j : Json} {members' : List (String × Json)}
    (h : j.Same (.object members')) (hnames : (members'.map Prod.fst).Nodup) :
    ∃ members, j = .object members ∧ (members.map Prod.fst).Perm (members'.map Prod.fst) ∧
      ∀ name, Option.Rel Same (members.lookup name) (members'.lookup name) := by
  obtain ⟨members, moved, rfl, order, names, pointwise⟩ := h.exists_members
  refine ⟨members, rfl, names ▸ order.map _, fun name => ?_⟩
  rw [lookup_eq_of_perm order (names ▸ hnames)]
  exact lookup_rel_of_pointwise name moved members' names pointwise

end AccountServer.Json
