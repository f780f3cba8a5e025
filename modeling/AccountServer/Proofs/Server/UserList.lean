import AccountServer.Proofs.Account.Payload
import AccountServer.Proofs.Filter.Criteria
import AccountServer.Proofs.Filter.Simplify
import AccountServer.Proofs.Server.Dispatch
import AccountServer.Proofs.Store.Scan

/-!
# The list of users

`UserQuery.Asks` says whom a query is about, by its parameters. The server makes a filter of them,
whose shape depends on how many there are (`matches_filter?`), and for which the store tries bounds
on the time of creation first. What comes out are the users whom the query asks for, and no others
(`matches_conditions`, `run_listUsersBy`), each with an entry that shows the user (`User.ShownBy`).
-/

namespace AccountServer

open AccountStore PartialCompare

/-! ## Comparing -/

theorem Instant.less_iff {a b : Instant} : less a b = true ↔ a.Before b := by
  rw [less_eq_true_iff]
  simp [compare?, Before, Ordering.then_eq_lt, Int.compare_eq_lt, Nat.compare_eq_lt]

theorem Instant.greater_iff {a b : Instant} : greater a b = true ↔ b.Before a := by
  rw [← less_eq_greater, less_iff]

theorem PartialCompare.same_string_iff {a b : String} : same a b = true ↔ a = b := by
  rw [same_eq_true_iff]
  simp [compare?]

theorem Role.same_iff {a b : Role} : same a b = true ↔ a = b := by
  cases a <;> cases b <;> decide

namespace UserCondition

variable {α : Type} [PartialCompare α]

@[simp] theorem passes_none (value : α) : passes none value = true := rfl

@[simp] theorem passes_some (c : Criterion α) (value : α) :
    passes (some c) value = c.accepts value := rfl

@[simp] theorem passesOptional_none (value : Option α) :
    passesOptional none value = true := rfl

end UserCondition

/-! ## Queries -/

namespace UserQuery

/-- The user has what the parameters ask for that are given. The bounds on the time of creation do
not count themselves. -/
structure Asks (q : UserQuery) (u : User) : Prop where
  username : ∀ name, q.username = some name → u.username = name
  role : ∀ role, q.role = some role → u.role = role
  createdAfter : ∀ t, q.createdAfter = some t → t.Before u.created
  createdBefore : ∀ t, q.createdBefore = some t → u.created.Before t

variable {q : UserQuery} {u : User}

/-- A parameter becomes a condition if it is given. -/
theorem forall_condition {α : Type} {parameter : Option α} {make : α → UserCondition}
    {P : α → Prop} (h : ∀ a, (make a).holds u = true ↔ P a) :
    ((parameter.map make).toList.all (·.holds u)) = true ↔ ∀ a, parameter = some a → P a := by
  cases parameter with
  | none => simp
  | some a => simp [h]

/-- The conditions of a query say what its parameters ask for. -/
theorem matches_conditions : q.conditions.all (·.holds u) = true ↔ q.Asks u := by
  have husername (name : String) :
      ({ username := some (.eq name) } : UserCondition).holds u = true ↔ u.username = name := by
    simp [UserCondition.holds, Criterion.accepts, same_string_iff]
  have hrole (role : Role) :
      ({ role := some (.eq role) } : UserCondition).holds u = true ↔ u.role = role := by
    simp [UserCondition.holds, Criterion.accepts, Role.same_iff]
  have hafter (t : Instant) :
      ({ created := some (.gt t) } : UserCondition).holds u = true ↔ t.Before u.created := by
    simp [UserCondition.holds, Criterion.accepts, Instant.greater_iff]
  have hbefore (t : Instant) :
      ({ created := some (.lt t) } : UserCondition).holds u = true ↔ u.created.Before t := by
    simp [UserCondition.holds, Criterion.accepts, Instant.less_iff]
  simp only [conditions, List.all_append, Bool.and_eq_true, forall_condition husername,
    forall_condition hrole, forall_condition hafter, forall_condition hbefore]
  constructor
  · rintro ⟨⟨⟨husername, hrole⟩, hafter⟩, hbefore⟩
    exact ⟨husername, hrole, hafter, hbefore⟩
  · rintro ⟨husername, hrole, hafter, hbefore⟩
    exact ⟨⟨⟨husername, hrole⟩, hafter⟩, hbefore⟩

instance : Decidable (q.Asks u) := decidable_of_iff _ matches_conditions

/-- However many conditions there are, the filter is all of them. -/
theorem matches_filter? {f : UserFilter} (h : q.filter? = some f) (u : User) :
    f.matches? u = q.conditions.all (·.holds u) := by
  unfold filter? at h
  split at h
  · cases h
  · next w hw =>
    cases h
    rw [hw, List.all_cons, List.all_nil, Bool.and_true]
    rfl
  · next w rest _ hw =>
    cases h
    have hrest : (rest.map .condition : List UserFilter).map (·.matches? u) =
        rest.map (·.holds u) := by
      simp [Function.comp_def, Filter.matches?, Condition.holds]
    rw [hw, Filter.andAll, Filter.matches?, Filter.allMatch_eq_all, List.map_cons, hrest,
      List.all_cons, List.all_cons, List.all_map]
    rfl

theorem conditions_of_filter?_none (h : q.filter? = none) : q.conditions = [] := by
  unfold filter? at h
  split at h
  · assumption
  · cases h
  · cases h

end UserQuery

/-! ## Answers -/

section Answers

variable {s : MemoryStore} {caller : User} {q : UserQuery}

/-- An admin is shown the users whom the query asks for, in the order of the list. -/
theorem Accounts.run_listUsersBy (hw : s.WellKept) (hadmin : caller.isAdmin = true)
    (q : UserQuery) (around : Nat → Surroundings) :
    (listUsersBy caller q).run around s =
      (.ok (s.all.filter fun u => q.conditions.all (·.holds u)), s) := by
  have hallowed : requireAdmin caller = pure () := if_pos hadmin
  unfold listUsersBy
  rw [hallowed]
  cases hfilter : q.filter? with
  | none =>
    rw [UserQuery.conditions_of_filter?_none hfilter]
    simp only [List.all_nil, List.filter_true]
    rfl
  | some f =>
    have hmatches : (fun u => q.conditions.all (·.holds u)) = f.matches? :=
      funext fun u => (UserQuery.matches_filter? hfilter u).symm
    rw [hmatches, ← hw.find_eq_filter]
    rfl

variable {site : Site} {r : Request} {around : Nat → Surroundings}
  {parameters : List (List Char)}

/-- The response lists the entries of the users that were found, in their order. -/
theorem Site.serve_listUsers {σ : Type} [AccountStore σ] {d : σ}
    (hleads : site.LeadsTo r .listUsers parameters)
    (hcaller : site.services.Presents r around d caller)
    (hquery : r.queryFields UserQuery.decode = .ok q) {found : List User}
    (hrun : ∀ around, (Accounts.listUsersBy caller q).run around d = (.ok found, d)) :
    site.serve r around d = (.json 200 (.array (found.map (·.summary.toJson))), d) := by
  obtain ⟨m, hserve⟩ := serve_of_presents hleads rfl hcaller
  have haccount : (Handling.account (Accounts.listUsersBy caller q)).run
      (fun n => around (n + m)) d = (.ok found, d) := by
    rw [Handling.run_account, hrun]
    rfl
  have hpart : Handling.part (r.queryFields UserQuery.decode) = pure q := by
    rw [hquery]
    rfl
  obtain ⟨k, hk⟩ := Plan.run_bind_ok (fun users : List User =>
    (pure (.json 200 (.array (users.map (·.summary.toJson)))) : Handling Response)) haccount
  have hanswer : (site.services.answer site.hello .listUsers ⟨r, parameters, some caller⟩).run
      (fun n => around (n + m)) d =
        (.ok (.json 200 (.array (found.map (·.summary.toJson)))), d) := by
    unfold Services.answer
    dsimp only
    rw [hpart]
    exact hk
  rw [hserve, hanswer]
  rfl

end Answers

/-- **The list of users is what the query asks for.** Over a store in memory, whatever has been done
to it, a query of an admin is answered with exactly those users who have all that its parameters ask
for. Each comes once, strictly increasing in the time of creation and then in the identifier. A
query without parameters is answered with all users. The entry of a user shows that user, and a
client reads identifier, username, email, role and times off it. Nothing changes. -/
theorem users_listed_as_asked (steps : List StoreStep) {caller : User}
    (hadmin : caller.isAdmin = true) (q : UserQuery) :
    let s := run MemoryStore.empty steps
    ∃ found, (∀ u, u ∈ found ↔ u ∈ s.users ∧ q.Asks u) ∧ (found.map User.id).Nodup ∧
      found.Pairwise User.Before ∧ (q = ⟨none, none, none, none⟩ → found.Perm s.users) ∧
      (∀ u ∈ found, u.ShownBy u.summary.toJson ∧ (u.TimesAll Instant.Civil →
        UserSummary.decode u.summary.toJson = .ok
          { id := u.id, username := u.username, email := u.email, role := u.role,
            created := u.created, modified := u.modified, lastLogin := u.lastLogin,
            lastLogout := u.lastLogout })) ∧
      (∀ around, (Accounts.listUsersBy caller q).run around s = (.ok found, s)) ∧
      ∀ {site : Site} {r : Request} {around : Nat → Surroundings} {parameters : List (List Char)},
        site.LeadsTo r .listUsers parameters → site.services.Presents r around s caller →
        r.queryFields UserQuery.decode = .ok q →
          site.serve r around s = (.json 200 (.array (found.map (·.summary.toJson))), s) := by
  intro s
  have hw : s.WellKept := MemoryStore.wellKept_run steps
  have hrun := Accounts.run_listUsersBy hw hadmin q
  refine ⟨s.all.filter fun u => q.conditions.all (·.holds u), fun u => ?_, ?_, ?_, ?_,
    fun u _ => ⟨u.shownBy_summary, u.shownBy_summary.decode⟩, hrun, ?_⟩
  · rw [List.mem_filter, MemoryStore.mem_all, UserQuery.matches_conditions]
  · exact hw.ids_all.sublist (List.filter_sublist.map User.id)
  · exact (User.pairwise_before_sorted hw.ids).filter _
  · rintro rfl
    show (s.all.filter fun _ => true).Perm s.users
    rw [List.filter_true]
    exact List.mergeSort_perm s.users User.precedes
  · intro site r around parameters hleads hcaller hquery
    exact Site.serve_listUsers hleads hcaller hquery hrun

/-- Three users are created a second apart. Between the first and the last there is only the one in
the middle, and nobody when the bounds are exchanged. -/
theorem users_listed_as_asked_between_instants :
    let services : Services := ⟨⟨.marking⟩, { settings := ⟨List.replicate 32 7, 3600⟩ }⟩
    let around (second : Nat) : Nat → Surroundings := fun _ =>
      ⟨⟨second, 0, by decide⟩, fun _ => ⟨BitVec.ofNat 128 second⟩, [], 0⟩
    let steps : List StoreStep :=
      [⟨.create (.draft "alice" "$one" .normal), around 10 0⟩,
        ⟨.create (.draft "root" "$two" .admin), around 11 0⟩,
        ⟨.create (.draft "bob" "$one" .normal), around 12 0⟩]
    let s := run MemoryStore.empty steps
    let root : User :=
      { User.draft "root" "$two" .admin none ⟨11, 0, by decide⟩ with id := ⟨11⟩ }
    let site : Site := { services, router := accountRouter }
    let search (query : String) : Request :=
      { method := "GET"
        target := "/users?" ++ query
        authorization := some ("Bearer " ++ services.tokens.tokenAt root 0) }
    site.serve (search "created_after=1970-01-01T00:00:10Z&created_before=1970-01-01T00:00:12Z")
        (around 20) s =
      (.json 200 (.array [.object [("id", .string "00000000-0000-0000-0000-00000000000b"),
        ("username", .string "root"), ("role", .string "admin"),
        ("created", .string "1970-01-01T00:00:11Z"),
        ("modified", .string "1970-01-01T00:00:11Z")]]), s) ∧
      site.serve (search "created_after=1970-01-01T00:00:12Z&created_before=1970-01-01T00:00:10Z")
        (around 20) s = (.json 200 (.array []), s) := by
  intro services around steps s root site search
  let tenth : Instant := ⟨10, 0, by decide⟩
  let twelfth : Instant := ⟨12, 0, by decide⟩
  have hadmin : root.isAdmin = true := rfl
  have hroot : s.get? root.id = some root := by decide +kernel
  have hshown : root.summary.toJson = .object
      [("id", .string "00000000-0000-0000-0000-00000000000b"), ("username", .string "root"),
        ("role", .string "admin"), ("created", .string "1970-01-01T00:00:11Z"),
        ("modified", .string "1970-01-01T00:00:11Z")] := by
    have hid : root.id.toText = "00000000-0000-0000-0000-00000000000b" := by decide +kernel
    have htime : root.created.toText = "1970-01-01T00:00:11Z" := by decide +kernel
    show Json.object [("id", .string root.id.toText), ("username", .string "root"),
      ("role", .string "admin"), ("created", .string root.created.toText),
      ("modified", .string root.created.toText)] = _
    rw [hid, htime]
  have hanswer : AccountStore.perform (.get root.id) (around 20 0) s = (.ok root, s) :=
    congrArg (·, s) (MemoryStore.get_eq_ok_iff.mpr hroot)
  have hcaller (query : String) : services.Presents (search query) (around 20) s root :=
    ⟨_, Request.bearer?_of_sign rfl,
      Tokens.run_authenticate_tokenAt (by decide) rfl rfl hanswer (by decide) (by decide)⟩
  constructor
  · obtain ⟨found, hmem, hids, -, -, -, -, hserve⟩ :=
      users_listed_as_asked steps hadmin ⟨none, none, some tenth, some twelfth⟩
    have honly : ∀ u ∈ s.users, (⟨none, none, some tenth, some twelfth⟩ : UserQuery).Asks u →
        u = root := by
      decide +kernel
    have hfound : found = [root] := by
      refine List.perm_singleton.mp ((List.perm_ext_iff_of_nodup (.of_map _ hids)
        (List.nodup_singleton root)).mpr fun u => ?_)
      rw [hmem, List.mem_singleton]
      refine ⟨fun h => honly u h.1 h.2, ?_⟩
      rintro rfl
      exact ⟨MemoryStore.mem_users_of_get? hroot, by decide +kernel⟩
    rw [hfound, List.map_singleton, hshown] at hserve
    exact hserve (Site.leadsTo_listUsers rfl rfl (by decide +kernel)) (hcaller _)
      (by decide +kernel)
  · obtain ⟨found, hmem, -, -, -, -, -, hserve⟩ :=
      users_listed_as_asked steps hadmin ⟨none, none, some twelfth, some tenth⟩
    have hnobody : ∀ u ∈ s.users,
        ¬ (⟨none, none, some twelfth, some tenth⟩ : UserQuery).Asks u := by
      decide +kernel
    have hfound : found = [] :=
      List.eq_nil_iff_forall_not_mem.mpr fun u hu =>
        hnobody u ((hmem u).mp hu).1 ((hmem u).mp hu).2
    rw [hfound] at hserve
    exact hserve (Site.leadsTo_listUsers rfl rfl (by decide +kernel)) (hcaller _)
      (by decide +kernel)

end AccountServer
