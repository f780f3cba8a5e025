import AccountServer.Proofs.Filter.Codec
import AccountServer.Proofs.Json.Values

/-!
# Filters on users read back from JSON

A condition on users is written as an object that has a member for each criterion that is set, and
it reads back from the members in any order (`UserCondition.decode_of_same`). So filters on users
read back, and no two of them have a JSON form in common (`filters_read_back`).
-/

namespace AccountServer

/-! ## Conditions -/

namespace UserCondition

/-- The names of the fields, in the order in which they are written. -/
def fieldNames : List String := ["id", "username", "email", "role", "created", "last_login"]

/-- The times that a condition names. -/
def instants (w : UserCondition) : List Instant :=
  (w.created.toList ++ w.lastLogin.toList).flatMap Criterion.values

/-- A criterion reads back from what is found under its name. -/
theorem reads_field {α : Type} {name : String} {value : α → Json} {decodeValue : Json.Decoder α}
    {c? : Option (Criterion α)} {members : List (String × Json)}
    (hvalue : ∀ c, c? = some c → ∀ v ∈ c.values, ∀ j, j.Same (value v) → decodeValue j = .ok v)
    (h : Option.Rel Json.Same (members.lookup name) (c?.map (·.toJson value))) :
    (field name decodeValue).Reads members c? := by
  cases c? with
  | none =>
    have hmissing : members.lookup name = none := by
      generalize members.lookup name = found at h
      cases h
      rfl
    exact Json.Fields.reads_withDefault (fun j hj => by simp [hmissing] at hj) fun _ => rfl
  | some c =>
    obtain ⟨j, hj, hsame⟩ : ∃ j, members.lookup name = some j ∧ j.Same (c.toJson value) := by
      generalize members.lookup name = found at h
      obtain ⟨hsame⟩ | _ := h
      exact ⟨_, rfl, hsame⟩
    have hread : Criterion.decode decodeValue j = .ok c :=
      Criterion.decode_of_same (hvalue c rfl) hsame
    refine Json.Fields.reads_withDefault (fun k hk => ?_) fun hnone => by simp [hj] at hnone
    obtain rfl : j = k := Option.some.inj (hj.symm.trans hk)
    exact Json.decodeOption_some nofun hread

/-- The members that are written, each under its name. -/
theorem exists_members (w : UserCondition) : ∃ members, w.toJson = .object members ∧
    (members.map Prod.fst).Sublist fieldNames ∧
    members.lookup "id" = w.id.map (·.toJson Uuid.toJson) ∧
    members.lookup "username" = w.username.map (·.toJson .string) ∧
    members.lookup "email" = w.email.map (·.toJson .string) ∧
    members.lookup "role" = w.role.map (·.toJson Role.toJson) ∧
    members.lookup "created" = w.created.map (·.toJson Instant.toJson) ∧
    members.lookup "last_login" = w.lastLogin.map (·.toJson Instant.toJson) := by
  refine ⟨_, rfl, ?_, ?_⟩
  · simp only [List.map_append]
    exact (((((Json.names_present ..).append (Json.names_present ..)).append
      (Json.names_present ..)).append (Json.names_present ..)).append
      (Json.names_present ..)).append (Json.names_present ..)
  · simp [List.lookup_append, Json.lookup_present]

theorem decode_of_same {w : UserCondition} (hcivil : ∀ t ∈ w.instants, t.Civil) {j : Json}
    (h : j.Same w.toJson) : decode j = .ok w := by
  obtain ⟨members', heq, hnames, hid, husername, hemail, hrole, hcreated, hlastLogin⟩ :=
    w.exists_members
  rw [heq] at h
  have hnodup : (members'.map Prod.fst).Nodup := .sublist hnames (by decide)
  obtain ⟨members, rfl, hperm, hfound⟩ := h.exists_lookup hnodup
  have hid : (field "id" Uuid.decode).Reads members w.id :=
    reads_field (fun _ _ id _ => Json.decode_of_same_string id.decode_toJson) (hid ▸ hfound "id")
  have husername : (field "username" Json.decodeString).Reads members w.username :=
    reads_field (fun _ _ _ _ => Json.decode_of_same_string rfl) (husername ▸ hfound "username")
  have hemail : (field "email" Json.decodeString).Reads members w.email :=
    reads_field (fun _ _ _ _ => Json.decode_of_same_string rfl) (hemail ▸ hfound "email")
  have hrole : (field "role" Role.decode).Reads members w.role :=
    reads_field (fun _ _ role _ => Json.decode_of_same_string role.decode_toJson)
      (hrole ▸ hfound "role")
  have hcreated : (field "created" Instant.decode).Reads members w.created :=
    reads_field (fun c hc t ht => Json.decode_of_same_string
      (Instant.decode_toJson (hcivil t (by simp [instants, hc, ht])))) (hcreated ▸ hfound "created")
  have hlastLogin : (field "last_login" Instant.decode).Reads members w.lastLogin :=
    reads_field (fun c hc t ht => Json.decode_of_same_string
      (Instant.decode_toJson (hcivil t (by simp [instants, hc, ht]))))
      (hlastLogin ▸ hfound "last_login")
  have hreads := (((((hid.map UserCondition.mk).both husername).both hemail).both hrole).both
    hcreated).both hlastLogin
  exact hreads.decode (hperm.nodup_iff.mpr hnodup) (List.Subset.trans hperm.subset hnames.subset)

end UserCondition

/-! ## Filters -/

/-- The times that a filter names are times that there are, as all that can be read. -/
def UserFilter.Civil (f : UserFilter) : Prop :=
  ∀ w ∈ f.leaves, ∀ t ∈ w.instants, t.Civil

instance (f : UserFilter) : Decidable f.Civil :=
  inferInstanceAs (Decidable (∀ w ∈ f.leaves, ∀ t ∈ w.instants, t.Civil))

theorem UserFilter.decode_of_same {f : UserFilter} (hf : f.Civil) {j : Json}
    (h : j.Same f.toJson) : decode j = .ok f :=
  (Filter.written_of_same h).decode fun w hw _ hj => UserCondition.decode_of_same (hf w hw) hj

/-- **Filters read back from JSON.** A filter on users of any shape reads back from its JSON form,
in whatever order the members of objects stand there. So two different ones have no JSON form in
common.

The same holds of filters over any other conditions that read back from their own JSON forms, as
they are written or with members in any order. -/
theorem filters_read_back :
    (∀ f : UserFilter, f.Civil → ∀ j : Json, j.Same f.toJson → UserFilter.decode j = .ok f) ∧
    (∀ f g : UserFilter, f.Civil → g.Civil →
      ∀ j : Json, j.Same f.toJson → j.Same g.toJson → f = g) ∧
    ∀ {W : Type} (leafJson : W → Json) (decodeLeaf : Json.Decoder W),
      ((∀ w, decodeLeaf (leafJson w) = .ok w) →
        (∀ t : Filter W, Filter.decode decodeLeaf (t.toJson leafJson) = .ok t) ∧
        ∀ t u : Filter W, t.toJson leafJson = u.toJson leafJson → t = u) ∧
      ((∀ w (j : Json), j.Same (leafJson w) → decodeLeaf j = .ok w) →
        (∀ (t : Filter W) (j : Json), j.Same (t.toJson leafJson) →
          Filter.decode decodeLeaf j = .ok t) ∧
        ∀ (t u : Filter W) (j : Json), j.Same (t.toJson leafJson) → j.Same (u.toJson leafJson) →
          t = u) := by
  refine ⟨fun f hf j h => UserFilter.decode_of_same hf h, fun f g hf hg j h h' => ?_,
    fun leafJson decodeLeaf => ⟨fun hleaf => ?_, fun hleaf => ?_⟩⟩
  · exact Except.ok.inj ((UserFilter.decode_of_same hf h).symm.trans
      (UserFilter.decode_of_same hg h'))
  · have hread (t : Filter _) : Filter.decode decodeLeaf (t.toJson leafJson) = .ok t :=
      t.written_toJson.decode fun w _ _ hj => hj ▸ hleaf w
    exact ⟨hread, fun t u h => Except.ok.inj ((hread t).symm.trans (h ▸ hread u))⟩
  · have hread (t : Filter _) (j : Json) (h : j.Same (t.toJson leafJson)) :
        Filter.decode decodeLeaf j = .ok t :=
      (Filter.written_of_same h).decode fun w _ => hleaf w
    exact ⟨hread, fun t u j h h' => Except.ok.inj ((hread t j h).symm.trans (hread u j h'))⟩

/-- A filter with an empty operation, an empty condition, a leap second and a year of five digits
reads back, also when its operands are written before its operator. -/
theorem filters_read_back_with_operands_first :
    let w : UserCondition :=
      { role := some (.oneOf [])
        created := some
          (.between ⟨1483228799, 1500000000, by decide⟩ ⟨253402300800, 0, by decide⟩) }
    let operands : List UserFilter := [.operation .or [], .condition {}, .condition w]
    let f : UserFilter := .operation .not operands
    UserFilter.decode f.toJson = .ok f ∧
      UserFilter.decode (.object [("operation", .object
        [("operands", .array (operands.map UserFilter.toJson)), ("op", .string "not")])]) = .ok f ∧
      ∀ t : Filter Bool, Filter.decode Json.decodeBool (t.toJson .bool) = .ok t := by
  intro w operands f
  have hf : f.Civil := by
    decide +kernel
  obtain ⟨hread, -, hother⟩ := filters_read_back
  refine ⟨hread f hf _ (.refl _), hread f hf _ ?_,
    ((hother Json.bool Json.decodeBool).1 fun _ => rfl).1⟩
  refine .object (.refl _) rfl (.cons (.object (.swap _ _ _) rfl ?_) .nil)
  exact List.forall₂_same.mpr fun _ _ => .refl _

end AccountServer
