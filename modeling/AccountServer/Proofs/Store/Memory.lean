import AccountServer.Proofs.Filter.Order
import AccountServer.Proofs.Store.Run
import AccountServer.Proofs.Store.Write

/-!
# What the store in memory keeps

* `WellKept` is the invariant: every record lies under its own identifier, no two records share an
  identifier or a username, and none is without a password hash.
* `Change` says once what a step can do to the table, with all that was checked before. The
  invariants are shown for a change, and `run_keeps` carries them along a run.
* `Replacement` is what a successful update does: it keeps the time of creation, frees the old
  place and touches no other entry.

That usernames stay distinct needs the first part of the invariant. The test on usernames excepts
the record whose own identifier is the given one, and only `keyed` says that this is the record
which gives up its place.
-/

namespace AccountServer.MemoryStore

open PartialCompare AccountStore

/-! ## What a step can do -/

/-- What one step makes of a table, and what had been checked before. -/
inductive Change (s : MemoryStore) (now : Instant) : MemoryStore → Prop where
  | kept : Change s now s
  | added (u : User) (id : Uuid) (hash : u.passwordHash ≠ "")
      (name : ∀ v ∈ s.users, v.username ≠ u.username) (free : s.get? id = none) :
      Change s now (s.insert { u with id := id, created := now, modified := now })
  | replaced (id : Uuid) (u current : User) (hash : u.passwordHash ≠ "")
      (found : s.get? id = some current) (vacant : u.id ≠ id → s.get? u.id = none)
      (name : ∀ v ∈ s.users, v.username = u.username → v.id = id) :
      Change s now ((s.erase id).insert { u with created := current.created, modified := now })
  | removed (id : Uuid) (u : User) (found : s.get? id = some u) : Change s now (s.erase id)

theorem Took.change {s s' : MemoryStore} {now : Instant} {w : Write} {u : User}
    (h : s.Took now w u s') : s.Change now s' := by
  cases h with
  | added u id hash name free => exact .added u id hash name free
  | replaced id u current hash found vacant name =>
    exact .replaced id u current hash found vacant name
  | removed id u found => exact .removed id u found

theorem after_change (step : StoreStep) (s : MemoryStore) :
    s.Change step.around.now (after step s) := by
  obtain ⟨call, around⟩ := step
  have hwrite (w : Write) : s.Change around.now (w.perform around s).2 := by
    rcases w.perform_cases around s with ⟨u, s', heq, htook⟩ | ⟨e, heq, -⟩
    · rw [heq]
      exact htook.change
    · rw [heq]
      exact .kept
  cases call with
  | create u => exact hwrite (.create u)
  | update id u => exact hwrite (.update id u)
  | delete id => exact hwrite (.delete id)
  | get _ | byUsername _ | all | find _ | close => exact .kept

/-- A call that fails leaves the table as it was. -/
theorem after_error {s : MemoryStore} {step : StoreStep} {e : StoreError}
    (h : answer step s = .error e) : after step s = s := by
  obtain ⟨call, around⟩ := step
  have hwrite (w : Write) (h : (w.perform around s).1 = .error e) : (w.perform around s).2 = s := by
    rcases w.perform_cases around s with ⟨u, s', heq, -⟩ | ⟨e', heq, -⟩
    · rw [heq] at h
      cases h
    · rw [heq]
  cases call with
  | create u => exact hwrite (.create u) h
  | update id u => exact hwrite (.update id u) h
  | delete id => exact hwrite (.delete id) h
  | get _ | byUsername _ | all | find _ | close => rfl

/-! ## The invariant -/

/-- Every record lies under its own identifier, identifiers and usernames are distinct, and no
record is without a password hash. -/
structure WellKept (s : MemoryStore) : Prop where
  keyed : ∀ p ∈ s.records, p.1 = p.2.id
  keys : (s.records.map Prod.fst).Nodup
  usernames : (s.users.map User.username).Nodup
  hashed : ∀ u ∈ s.users, u.passwordHash ≠ ""

theorem WellKept.empty : WellKept .empty where
  keyed := by simp [MemoryStore.empty]
  keys := by simp [MemoryStore.empty]
  usernames := by simp [MemoryStore.empty, users]
  hashed := by simp [MemoryStore.empty, users]

namespace WellKept

variable {s : MemoryStore}

theorem users_erase (h : s.WellKept) (k : Uuid) :
    (s.erase k).users = s.users.filter fun u => u.id ≠ k := by
  unfold users erase
  rw [List.filter_map]
  congr 1
  refine List.filter_congr fun p hp => ?_
  simp [h.keyed p hp]

/-- No two records have one identifier. -/
theorem ids (h : s.WellKept) : (s.users.map User.id).Nodup := by
  have heq : s.users.map User.id = s.records.map Prod.fst := by
    rw [users, List.map_map]
    exact List.map_congr_left fun p hp => (h.keyed p hp).symm
  rw [heq]
  exact h.keys

/-- Looking a record up is to search for one with the identifier. -/
theorem get?_eq_find? (h : s.WellKept) (id : Uuid) :
    s.get? id = s.users.find? fun u => u.id = id := by
  obtain ⟨records⟩ := s
  -- Only this part of the invariant passes on to the rest of the list unchanged.
  have keyed := h.keyed
  show records.lookup id = (records.map Prod.snd).find? _
  clear h
  induction records with
  | nil => rfl
  | cons p rest ih =>
    obtain ⟨hp, hrest⟩ := List.forall_mem_cons.mp keyed
    rw [List.lookup_cons, List.map_cons, List.find?_cons, ih hrest, hp]
    by_cases hid : p.2.id = id
    · simp [hid]
    · have hne : (id == p.2.id) = false := by simpa using Ne.symm hid
      simp [hid, hne]

theorem get?_eq_none_iff (h : s.WellKept) {id : Uuid} :
    s.get? id = none ↔ ∀ u ∈ s.users, u.id ≠ id := by
  simp [h.get?_eq_find?]

/-- The test on the identifier that an update asks for. -/
theorem not_occupied_iff (h : s.WellKept) {id new : Uuid} :
    (new ≠ id && s.contains new) = false ↔ ∀ v ∈ s.users, v.id ≠ id → v.id ≠ new := by
  by_cases heq : new = id
  · simp [heq]
  · have hcontains : s.contains new = false ↔ ∀ v ∈ s.users, v.id ≠ new := by
      rw [contains, Option.isSome_eq_false_iff, Option.isNone_iff_eq_none]
      exact h.get?_eq_none_iff
    simp only [ne_eq, heq, not_false_eq_true, decide_true, Bool.true_and, hcontains]
    exact ⟨fun hv v hmem _ => hv v hmem, fun hv v hmem hvn => hv v hmem (hvn ▸ heq) hvn⟩

/-- Both tests of an update come to one about all other records. -/
theorem not_clashing_iff (h : s.WellKept) {id : Uuid} {u : User} :
    (u.id ≠ id && s.contains u.id) = false ∧ s.usernameTaken u.username (some id) = false ↔
      ∀ v ∈ (s.erase id).users, v.username ≠ u.username ∧ v.id ≠ u.id := by
  rw [h.not_occupied_iff, usernameTaken_eq_false, h.users_erase]
  constructor
  · rintro ⟨hids, hnames⟩ v hv
    obtain ⟨hv, hne⟩ := List.mem_filter.mp hv
    have hne : v.id ≠ id := by simpa using hne
    exact ⟨fun heq => hne (Option.some.inj (hnames v hv heq)), hids v hv hne⟩
  · intro hothers
    have hother {v : User} (hv : v ∈ s.users) (hne : v.id ≠ id) :=
      hothers v (List.mem_filter.mpr ⟨hv, by simpa using hne⟩)
    refine ⟨fun v hv hne => (hother hv hne).2, fun v hv heq => ?_⟩
    by_cases hne : v.id = id
    · rw [hne]
    · exact absurd heq (hother hv hne).1

theorem users_erase_of_free (h : s.WellKept) {k : Uuid} (free : s.get? k = none) :
    (s.erase k).users = s.users := by
  rw [h.users_erase, List.filter_eq_self]
  simpa using h.get?_eq_none_iff.mp free

theorem erase (h : s.WellKept) (k : Uuid) : (s.erase k).WellKept where
  keyed p hp := h.keyed p (List.mem_filter.mp hp).1
  keys := h.keys.sublist (List.filter_sublist.map _)
  usernames := by
    rw [h.users_erase]
    exact h.usernames.sublist (List.filter_sublist.map _)
  hashed u hu := by
    rw [h.users_erase] at hu
    exact h.hashed u (List.mem_filter.mp hu).1

/-- A record may come in if every other record has another username. -/
theorem insert (h : s.WellKept) {u : User} (hash : u.passwordHash ≠ "")
    (name : ∀ v ∈ s.users, v.username = u.username → v.id = u.id) : (s.insert u).WellKept where
  keyed p hp := by
    rcases List.mem_cons.mp hp with rfl | hp
    · rfl
    · exact (h.erase u.id).keyed p hp
  keys := by
    refine List.nodup_cons.mpr ⟨?_, (h.erase u.id).keys⟩
    simp [MemoryStore.erase]
  usernames := by
    refine List.nodup_cons.mpr ⟨?_, (h.erase u.id).usernames⟩
    intro hmem
    obtain ⟨v, hv, heq⟩ := List.mem_map.mp hmem
    change v ∈ (s.erase u.id).users at hv
    rw [h.users_erase] at hv
    obtain ⟨hv, hne⟩ := List.mem_filter.mp hv
    exact absurd (name v hv heq) (by simpa using hne)
  hashed v hv := by
    rcases List.mem_cons.mp hv with rfl | hv
    · exact hash
    · exact (h.erase u.id).hashed v hv

/-- One change keeps the table as it has to be. -/
theorem change {s' : MemoryStore} {now : Instant} (h : s.WellKept) (hc : s.Change now s') :
    s'.WellKept := by
  cases hc with
  | kept => exact h
  | added u id hash name free => exact h.insert hash fun v hv heq => absurd heq (name v hv)
  | replaced id u current hash found vacant name =>
    -- The one record that may have the username has given up its place.
    refine (h.erase id).insert hash fun v hv heq => ?_
    rw [h.users_erase] at hv
    obtain ⟨hv, hne⟩ := List.mem_filter.mp hv
    exact absurd (name v hv heq) (by simpa using hne)
  | removed id u found => exact h.erase id

theorem after (h : s.WellKept) (step : StoreStep) : (after step s).WellKept :=
  h.change (after_change step s)

end WellKept

/-- So does any number of calls. -/
theorem wellKept_run (steps : List StoreStep) : (run MemoryStore.empty steps).WellKept :=
  run_keeps (fun step _ _ h => h.after step) .empty

/-! ## Times -/

theorem mem_users_of_get? {s : MemoryStore} {id : Uuid} {u : User} (h : s.get? id = some u) :
    u ∈ s.users :=
  List.mem_map_of_mem (mem_of_get? h)

/-- A record after a change is an old one, or it was stamped just now and has the time of creation
of an old one or the time of the change. -/
theorem WellKept.mem_users_change {s s' : MemoryStore} {now : Instant} (hw : s.WellKept)
    (hc : s.Change now s') {u : User} (hu : u ∈ s'.users) :
    u ∈ s.users ∨
      u.modified = now ∧ (u.created = now ∨ ∃ v ∈ s.users, u.created = v.created) := by
  have old : ∀ {s : MemoryStore} {k : Uuid}, s.WellKept → u ∈ (s.erase k).users → u ∈ s.users := by
    intro s k hw hu
    rw [hw.users_erase] at hu
    exact (List.mem_filter.mp hu).1
  cases hc with
  | kept => exact Or.inl hu
  | added v id hash name free =>
    rcases List.mem_cons.mp hu with rfl | hu
    · exact Or.inr ⟨rfl, Or.inl rfl⟩
    · exact Or.inl (old hw hu)
  | replaced id v current hash found vacant name =>
    rcases List.mem_cons.mp hu with rfl | hu
    · exact Or.inr ⟨rfl, Or.inr ⟨current, mem_users_of_get? found, rfl⟩⟩
    · exact Or.inl (old hw (old (hw.erase id) hu))
  | removed id v found => exact Or.inl (old hw hu)

/-- Nothing was modified before it was created, nor created after a clock reading still to come. -/
def Timely (s : MemoryStore) (later : List StoreStep) : Prop :=
  ∀ u ∈ s.users, atMost u.created u.modified = true ∧
    ∀ step ∈ later, atMost u.created step.around.now = true

theorem Timely.after {s : MemoryStore} {step : StoreStep} {rest : List StoreStep}
    (h : s.Timely (step :: rest)) (hw : s.WellKept)
    (hclock : StoreStep.ClockAdvances (step :: rest)) : (after step s).Timely rest := by
  have hnow := (List.pairwise_cons.mp hclock).1
  intro u hu
  -- An old record, a new one, or one that has replaced an old one `v`.
  rcases hw.mem_users_change (after_change step s) hu with hold | ⟨hmod, hcre | ⟨v, hv, hcre⟩⟩
  · exact ⟨(h u hold).1, fun later hl => (h u hold).2 later (List.mem_cons_of_mem _ hl)⟩
  · rw [hmod, hcre]
    exact ⟨atMost_refl _, hnow⟩
  · rw [hmod, hcre]
    exact ⟨(h v hv).2 step List.mem_cons_self,
      fun later hl => (h v hv).2 later (List.mem_cons_of_mem _ hl)⟩

/-- If the clock never goes back, no record is changed before it was made. -/
theorem timely_run : ∀ (steps : List StoreStep) (s : MemoryStore), s.WellKept → s.Timely steps →
    StoreStep.ClockAdvances steps → (run s steps).Timely []
  | [], _, _, h, _ => h
  | step :: rest, s, hw, h, hclock =>
    timely_run rest (after step s) (hw.after step) (h.after hw hclock)
      (List.pairwise_cons.mp hclock).2

/-! ## What an update does -/

/-- The table after a successful update of the record under `id`. -/
structure Replacement (s s' : MemoryStore) (now : Instant) (id : Uuid) (u stored : User) :
    Prop where
  /-- The record as given, but for its times: creation as before, modification now. -/
  record : ∃ current, s.get? id = some current ∧
    stored = { u with created := current.created, modified := now }
  kept : s'.get? u.id = some stored
  /-- The identifier that the record moves to was free, and the old one is so afterwards. -/
  moved : u.id ≠ id → s.get? u.id = none ∧ s'.get? id = none
  others : ∀ other, other ≠ id → other ≠ u.id → s'.get? other = s.get? other

theorem update_replacement {s : MemoryStore} {around : Surroundings} {id : Uuid} {u stored : User}
    (h : answer ⟨.update id u, around⟩ s = .ok stored) :
    Replacement s (AccountStore.after ⟨.update id u, around⟩ s) around.now id u stored := by
  change ((Write.update id u).perform around s).1 = .ok stored at h
  show Replacement s ((Write.update id u).perform around s).2 around.now id u stored
  rcases (Write.update id u).perform_cases around s with ⟨v, s', heq, htook⟩ | ⟨e, heq, -⟩
  · rw [heq] at h ⊢
    obtain rfl : v = stored := Except.ok.inj h
    cases htook with
    | replaced _ _ current _ found vacant =>
      refine ⟨⟨current, found, rfl⟩, by simp, fun hne => ⟨vacant hne, ?_⟩,
        fun other hold hnew => ?_⟩
      · simp [Ne.symm hne]
      · simp [hold, hnew]
  · rw [heq] at h
    cases h

/-- **The store in memory after any run.** It is well kept, and under a clock that does not go
back nothing was modified before it was created. A successful update replaces one record and
keeps its time of creation, and a call that fails changes nothing. -/
theorem memory_store_invariant (steps : List StoreStep) :
    let s := run MemoryStore.empty steps
    s.WellKept ∧
    (StoreStep.ClockAdvances steps → ∀ u ∈ s.users, atMost u.created u.modified = true) ∧
    (∀ (id : Uuid) (u stored : User) (around : Surroundings),
      answer ⟨.update id u, around⟩ s = .ok stored →
      Replacement s (after ⟨.update id u, around⟩ s) around.now id u stored) ∧
    ∀ (step : StoreStep) (e : StoreError), answer step s = .error e → after step s = s := by
  refine ⟨wellKept_run steps, fun hclock u hu => ?_, fun _ _ _ _ h => update_replacement h,
    fun _ _ h => after_error h⟩
  have hempty : MemoryStore.empty.Timely steps := by simp [Timely, MemoryStore.empty, users]
  exact (timely_run steps _ .empty hempty hclock u hu).1

/-- Two users come in, and one of them then moves to another identifier and is renamed. Deleting a
user who is not there changes nothing. -/
theorem memory_store_invariant_after_move :
    let around (second : Int) (id : Nat) : Surroundings :=
      ⟨⟨second, 5000, by omega⟩, fun _ => ⟨BitVec.ofNat 128 id⟩, [], 0⟩
    let alice := User.draft "alice" "$argon2id$a" .normal
    let moved := { alice with id := ⟨3⟩, username := "carol" }
    let steps : List StoreStep :=
      [⟨.create alice, around 10 1⟩, ⟨.create { alice with username := "bob" }, around 11 2⟩]
    let s := run MemoryStore.empty steps
    StoreStep.ClockAdvances steps ∧ s.users.length = 2 ∧
    (∀ u ∈ s.users, atMost u.created u.modified = true) ∧
    (∃ stored, answer ⟨.update ⟨1⟩ moved, around 12 0⟩ s = .ok stored ∧
      Replacement s (after ⟨.update ⟨1⟩ moved, around 12 0⟩ s) (around 12 0).now ⟨1⟩ moved
        stored) ∧
    answer ⟨.delete ⟨7⟩, around 13 0⟩ s = .error .notFound ∧
    after ⟨.delete ⟨7⟩, around 13 0⟩ s = s := by
  intro around alice moved steps s
  have hclock : StoreStep.ClockAdvances steps := by
    show List.Pairwise _ _
    decide
  obtain ⟨-, htimely, hreplaced, hfailed⟩ := memory_store_invariant steps
  have hmissing : answer ⟨.delete ⟨7⟩, around 13 0⟩ s = .error .notFound := by rfl
  refine ⟨hclock, by decide, htimely hclock, ?_, hmissing, hfailed _ _ hmissing⟩
  exact ⟨{ moved with created := (around 10 1).now, modified := (around 12 0).now }, by rfl,
    hreplaced ⟨1⟩ moved _ (around 12 0) rfl⟩

end AccountServer.MemoryStore
