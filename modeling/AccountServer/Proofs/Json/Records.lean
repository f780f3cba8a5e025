import AccountServer.Json.Decode
import AccountServer.Proofs.Except
import AccountServer.Proofs.Json.Same

/-!
# What is read from objects

A variant is read from the one member that carries its payload. A record is read by looking up its
fields, so it is enough that each of them reads back from what is found under its name
(`Fields.Reads`): the order of the members does not matter (`Fields.Reads.decode`).
-/

namespace AccountServer.Json

variable {α β : Type}

/-! ## Variants and lists -/

theorem decodeVariant_string {plain : List (String × α)} {name : String} {a : α}
    (h : plain.lookup name = some a) (carrying : List (String × Decoder α)) :
    decodeVariant plain carrying (.string name) = .ok a := by
  rw [decodeVariant, h]

/-- A variant with a payload reads back if the payload does. -/
theorem decodeVariant_object {carrying : List (String × Decoder α)} {name : String}
    {decode : Decoder α} {payload : Json} {a : α} (h : carrying.lookup name = some decode)
    (hpayload : decode payload = .ok a) :
    decodeVariant [] carrying (.object [(name, payload)]) = .ok a := by
  simp only [decodeVariant, List.lookup_nil, h, hpayload]
  rfl

theorem decodePair_array {first : Decoder α} {second : Decoder β} {j k : Json} {a : α} {b : β}
    (hfirst : first j = .ok a) (hsecond : second k = .ok b) :
    decodePair first second (.array [j, k]) = .ok (a, b) := by
  simp only [decodePair, hfirst, hsecond]
  rfl

theorem forall₂_imp_of_mem {R S : α → β → Prop} {as : List α} {bs : List β}
    (h : List.Forall₂ R as bs) (himp : ∀ a ∈ as, ∀ b, R a b → S a b) : List.Forall₂ S as bs :=
  ((List.forall₂_and_left _ _).mpr ⟨himp, h⟩).imp fun _ b ⟨hab, h⟩ => hab b h

/-- A list reads back if each of its items does. -/
theorem decodeList_array {decode : Decoder α} {R : Json → α → Prop} {items : List Json}
    {as : List α} (h : List.Forall₂ R items as)
    (hdecode : ∀ a ∈ as, ∀ j, R j a → decode j = .ok a) :
    decodeList decode (.array items) = .ok as := by
  have hflip : List.Forall₂ (fun a j => R j a) as items := h.flip
  have heach : List.Forall₂ (fun a j => decode j = .ok a) as items :=
    forall₂_imp_of_mem hflip hdecode
  exact mapM_eq_ok_iff.mpr heach.flip

/-- Null is left for what is not there. -/
theorem decodeOption_some {decode : Decoder α} {j : Json} {a : α} (hnull : decode .null ≠ .ok a)
    (h : decode j = .ok a) : decodeOption decode j = .ok (some a) := by
  unfold decodeOption
  split
  · exact absurd h hnull
  · rw [h]
    rfl

/-! ## Records -/

namespace Fields

variable {members : List (String × Json)}

/-- The fields read a record from these members: what there is under their names passes their
checks, and put together it is the record. -/
structure Reads (r : Fields α) (members : List (String × Json)) (a : α) : Prop where
  checks : ∀ name check, (name, check) ∈ r.checks →
    ∀ j, members.lookup name = some j → check j = .ok ()
  build : r.build false members = .ok a

/-- What a field finds passes its own check if it can be read. -/
theorem checks_field {name : String} {decode : Decoder α} {a : α}
    (found : ∀ j, members.lookup name = some j → decode j = .ok a) (key : String) (check : Check)
    (hmem : (key, check) ∈ [(name, fun j => (decode j).map fun _ => ())]) (j : Json)
    (hj : members.lookup key = some j) : check j = .ok () := by
  obtain ⟨rfl, rfl⟩ := Prod.mk.inj (List.mem_singleton.mp hmem)
  show (decode j).map _ = .ok ()
  rw [found j hj]
  rfl

/-- What is left out is the value to fall back on. -/
theorem reads_withDefault {name : String} {decode : Decoder α} {fallback a : α}
    (found : ∀ j, members.lookup name = some j → decode j = .ok a)
    (missing : members.lookup name = none → a = fallback) :
    (withDefault name decode fallback).Reads members a where
  checks := checks_field found
  build := by
    unfold withDefault
    dsimp only
    cases h : members.lookup name with
    | none => rw [missing h]
    | some j => exact found j h

theorem reads_required {name : String} {decode : Decoder α} {j : Json} {a : α}
    (found : members.lookup name = some j) (hdecode : decode j = .ok a) :
    (required name decode).Reads members a where
  checks := checks_field fun k hk => Option.some.inj (found.symm.trans hk) ▸ hdecode
  build := by
    unfold required
    dsimp only
    rw [found]
    exact hdecode

/-- What is left out reads back as nothing, and what is there must not look like nothing. -/
theorem reads_optional {name : String} {decode : Decoder α} {toJson : α → Json} {a? : Option α}
    (found : members.lookup name = a?.map toJson) (hnull : ∀ a, decode .null ≠ .ok a)
    (hdecode : ∀ a, a? = some a → decode (toJson a) = .ok a) :
    (optional name decode).Reads members a? := by
  have hread (j : Json) (hj : members.lookup name = some j) : decodeOption decode j = .ok a? := by
    obtain ⟨a, rfl, rfl⟩ := Option.map_eq_some_iff.mp (found.symm.trans hj)
    exact decodeOption_some (hnull a) (hdecode a rfl)
  refine ⟨checks_field hread, ?_⟩
  unfold optional
  dsimp only
  cases a? with
  | none =>
    rw [found]
    rfl
  | some a =>
    rw [found]
    exact hread (toJson a) found

theorem Reads.map {r : Fields α} {a : α} (h : r.Reads members a) (f : α → β) :
    (f <$> r).Reads members (f a) where
  checks := h.checks
  build := by
    show (r.build false members).map f = .ok (f a)
    rw [h.build]
    rfl

theorem Reads.both {f : Fields (α → β)} {g : α → β} (hf : f.Reads members g) {r : Fields α} {a : α}
    (hr : r.Reads members a) : (f <*> r).Reads members (g a) where
  checks := fun name check hmem =>
    (List.mem_append.mp hmem).elim (hf.checks name check) (hr.checks name check)
  build := by
    show (do let g ← f.build false members; let a ← r.build false members; return g a) = .ok (g a)
    rw [hf.build, hr.build]
    rfl

/-- Members pass if each has a name of its own among the fields and a value that passes there. -/
theorem checkMembers_eq_ok {checks : List (String × Check)} : ∀ {members : List (String × Json)}
    {seen : List String}, (members.map Prod.fst).Nodup → (∀ m ∈ members, m.1 ∉ seen) →
    (∀ m ∈ members, ∃ check, checks.lookup m.1 = some check ∧ check m.2 = .ok ()) →
    checkMembers checks seen members = .ok ()
  | [], _, _, _, _ => rfl
  | (name, j) :: rest, seen, hnames, hseen, hchecks => by
    obtain ⟨hfresh, hrest⟩ := List.nodup_cons.mp hnames
    obtain ⟨check, hlookup, hcheck⟩ := hchecks _ List.mem_cons_self
    have hnew : name ∉ seen := hseen _ List.mem_cons_self
    have ih : checkMembers checks (name :: seen) rest = .ok () := by
      refine checkMembers_eq_ok hrest (fun m hm => ?_)
        fun m hm => hchecks m (List.mem_cons_of_mem _ hm)
      rw [List.mem_cons, not_or]
      exact ⟨fun heq => hfresh (List.mem_map.mpr ⟨m, hm, heq⟩), hseen m (List.mem_cons_of_mem _ hm)⟩
    unfold checkMembers
    simp only [hlookup, List.contains_iff_mem, hnew, hcheck, if_false]
    exact ih

/-- A record reads back if all its fields do and there are no members but theirs. -/
theorem Reads.decode {r : Fields α} {a : α} (h : r.Reads members a)
    (hnames : (members.map Prod.fst).Nodup)
    (hknown : members.map Prod.fst ⊆ r.checks.map Prod.fst) :
    r.decode (.object members) = .ok a := by
  have hchecks : ∀ m ∈ members, ∃ check, r.checks.lookup m.1 = some check ∧ check m.2 = .ok () := by
    intro m hm
    obtain ⟨p, hp, hname⟩ := List.mem_map.mp (hknown (List.mem_map_of_mem hm))
    obtain ⟨check, hcheck⟩ : ∃ check, r.checks.lookup m.1 = some check :=
      Option.isSome_iff_exists.mp (List.lookup_isSome_iff.mpr ⟨p, hp, by simp [hname]⟩)
    obtain ⟨before, after, heq, -⟩ := List.lookup_eq_some_iff.mp hcheck
    refine ⟨check, hcheck, h.checks m.1 check (by simp [heq]) m.2 ?_⟩
    exact (lookup_eq_some_iff_mem hnames).mpr hm
  have hall : checkMembers r.checks [] members = .ok () :=
    checkMembers_eq_ok hnames (fun _ _ => List.not_mem_nil) hchecks
  show (checkMembers r.checks [] members >>= fun _ => r.build false members) = .ok a
  rw [hall]
  exact h.build

end Fields

end AccountServer.Json
