import AccountServer.Proofs.Filter.Ends
import AccountServer.Proofs.Store.Scan

/-!
# The two stores in lockstep

The store in memory and the store in a table get the same calls, and with them the same clock
readings and random identifiers.

* `Mirrors` is the invariant: the rows are those of the records in memory, one by one.
* `Matched` is what each call comes to: the same answer, and tables that mirror each other.
* `Lockstep` is a run of both. Its induction has one step, `Mirrors.perform`.

Neither store may be closed, for only the table refuses to work then. Times have to be storable,
since only the table rounds them. Those of a filter may be finer, but must not lie within a leap
second, for there the table overlooks users whom the store in memory finds.
-/

namespace AccountServer

open AccountStore

/-- Whether two answers are the same. Of a failure, only its kind is compared. -/
def Agree {α : Type} : Except StoreError α → Except StoreError α → Prop
  | .ok a, .ok b => a = b
  | .error e, .error e' => e.kind = e'.kind ∧ e.kind ∈ [.notFound, .constraint, .invalid]
  | _, _ => False

/-- The rows of the table are those of the records in memory. -/
structure Mirrors (t : TableStore) (s : MemoryStore) : Prop where
  isOpen : t.isOpen = true
  rows : t.rows = s.users.map Row.encode
  wellKept : s.WellKept
  storable : ∀ u ∈ s.users, u.Storable

/-- Two stores answer a call in the same way, and mirror each other afterwards. -/
def Matched {α : Type} (a : Except StoreError α × MemoryStore)
    (b : Except StoreError α × TableStore) : Prop :=
  Agree a.1 b.1 ∧ Mirrors b.2 a.2

/-! ## Rows and records -/

/-- Identifiers are found by their texts, and no two of them have the same text. -/
theorem Row.encode_id_iff {u : User} {id : Uuid} :
    (encode u).id = .text id.toText ↔ u.id = id :=
  ⟨fun h => Uuid.toText_injective (Cell.text.inj h), fun h => by rw [encode, h]⟩

/-- A row is unique among the rows of users exactly if its user is. -/
theorem TableStore.checkUnique_encode (users : List User) (u : User) :
    checkUnique (users.map Row.encode) (Row.encode u) = .ok () ↔
      ∀ v ∈ users, v.username ≠ u.username ∧ v.id ≠ u.id := by
  have hid (v : User) : (Row.encode v).id = (Row.encode u).id ↔ v.id = u.id := Row.encode_id_iff
  have hname (v : User) : (Row.encode v).username = (Row.encode u).username ↔
      v.username = u.username := Cell.text.injEq _ _ ▸ Iff.rfl
  rw [checkUnique_eq_ok_iff, List.forall_mem_map]
  simp only [ne_eq, hid, hname]

theorem Agree.decode {u : User} (hu : u.Storable) : Agree (.ok u) (Row.encode u).decode := by
  rw [Row.decode_encode hu]
  exact rfl

namespace Mirrors

variable {t : TableStore} {s : MemoryStore}

theorem empty : Mirrors .empty .empty where
  isOpen := rfl
  rows := rfl
  wellKept := .empty
  storable := by simp [MemoryStore.empty, MemoryStore.users]

theorem row? (h : Mirrors t s) (id : Uuid) : t.row? id = (s.get? id).map Row.encode := by
  rw [TableStore.row?, h.rows, List.find?_map, h.wellKept.get?_eq_find?]
  simp only [Function.comp_def, Row.encode_id_iff]

theorem without (h : Mirrors t s) (id : Uuid) :
    t.without id = (s.erase id).users.map Row.encode := by
  rw [TableStore.without, h.rows, List.filter_map, h.wellKept.users_erase]
  simp only [Function.comp_def, ne_eq, Row.encode_id_iff]

theorem distinctIds (h : Mirrors t s) : t.DistinctIds := by
  have heq : t.rows.map Row.id = (s.users.map User.id).map fun id => .text id.toText := by
    rw [h.rows, List.map_map, List.map_map]
    rfl
  rw [TableStore.DistinctIds, heq]
  exact h.wellKept.ids.map fun _ _ h => Uuid.toText_injective (Cell.text.inj h)

theorem storable_of_get? (h : Mirrors t s) {id : Uuid} {u : User} (hu : s.get? id = some u) :
    u.Storable :=
  h.storable u (MemoryStore.mem_users_of_get? hu)

/-! ## Changes of both tables -/

theorem erase (h : Mirrors t s) (id : Uuid) : Mirrors ⟨t.without id, true⟩ (s.erase id) where
  isOpen := rfl
  rows := h.without id
  wellKept := h.wellKept.erase id
  storable u hu := by
    rw [h.wellKept.users_erase] at hu
    exact h.storable u (List.mem_of_mem_filter hu)

/-- A record comes in whose identifier and username are free. -/
theorem insert (h : Mirrors t s) {u : User} (hash : u.passwordHash ≠ "") (hu : u.Storable)
    (unique : ∀ v ∈ s.users, v.username ≠ u.username ∧ v.id ≠ u.id) :
    Mirrors ⟨Row.encode u :: t.rows, true⟩ (s.insert u) := by
  have free : s.get? u.id = none := h.wellKept.get?_eq_none_iff.mpr fun v hv => (unique v hv).2
  have husers : (s.insert u).users = u :: s.users :=
    congrArg (u :: ·) (h.wellKept.users_erase_of_free free)
  refine ⟨rfl, ?_, h.wellKept.insert hash fun v hv heq => absurd heq (unique v hv).1, ?_⟩
  · rw [husers, h.rows, List.map_cons]
  · rw [husers]
    exact List.forall_mem_cons.mpr ⟨hu, h.storable⟩

/-- A call that both stores refuse. -/
theorem refused (h : Mirrors t s) {α : Type} {e e' : StoreError} (hkind : e.kind = e'.kind)
    (hanswer : e.kind ∈ [.notFound, .constraint, .invalid]) :
    Matched (.error e, s) ((.error e', t) : Except StoreError α × TableStore) :=
  ⟨⟨hkind, hanswer⟩, h⟩

/-! ## The calls -/

/-- A creation comes to the same in both stores if the first draw is free. -/
theorem create (h : Mirrors t s) {around : Surroundings} {u : User}
    (fresh : s.get? (around.draws 0) = none) (hstored : (TableStore.stamped around u).Storable) :
    Matched (s.perform (.create u) around) (t.perform (.create u) around) := by
  have hs : s.perform (.create u) around = s.changed (s.create around u) := rfl
  rw [hs, TableStore.perform_create, MemoryStore.create_eq, TableStore.create_eq, h.isOpen]
  cases hash : u.passwordHash.isEmpty with
  | true => exact h.refused rfl (by decide)
  | false =>
    simp only [Bool.false_eq_true, if_false, if_true]
    cases hname : s.usernameTaken u.username none with
    | true =>
      -- The table refuses the row for the same username.
      have hclash : ¬ TableStore.checkUnique t.rows (Row.encode (TableStore.stamped around u)) =
          .ok () := by
        rw [h.rows, TableStore.checkUnique_encode]
        obtain ⟨v, hv, heq⟩ := List.any_eq_true.mp hname
        have hvname : v.username = u.username := by simpa using heq
        exact fun hunique => (hunique v hv).1 hvname
      obtain ⟨e, he, hkind⟩ := TableStore.exists_checkUnique_eq_error hclash
      rw [he]
      exact h.refused hkind.symm (by simp [StoreError.kind])
    | false =>
      have hunique : ∀ v ∈ s.users, v.username ≠ u.username ∧ v.id ≠ around.draws 0 := by
        intro v hv
        refine ⟨fun heq => ?_, h.wellKept.get?_eq_none_iff.mp fresh v hv⟩
        simpa using MemoryStore.usernameTaken_eq_false.mp hname v hv heq
      have hok : TableStore.checkUnique t.rows (Row.encode (TableStore.stamped around u)) =
          .ok () := by
        rw [h.rows, TableStore.checkUnique_encode]
        exact hunique
      rw [MemoryStore.freeDraw?_of_free fresh, hok]
      exact ⟨rfl, h.insert (by simpa [TableStore.stamped] using hash) hstored hunique⟩

theorem get (h : Mirrors t s) (id : Uuid) : Agree (s.get id) (t.get id) := by
  rw [MemoryStore.get, TableStore.get, TableStore.checkOpen, h.isOpen, h.row?]
  cases hu : s.get? id with
  | none => exact ⟨rfl, by decide⟩
  | some u => exact Agree.decode (h.storable_of_get? hu)

theorem byUsername (h : Mirrors t s) (username : String) :
    Agree (s.byUsername username) (t.byUsername username) := by
  have hrow : (t.rows.find? fun r => r.username = .text username) =
      (s.users.find? fun u => u.username = username).map Row.encode := by
    rw [h.rows, List.find?_map]
    simp only [Function.comp_def, Row.encode, Cell.text.injEq]
  rw [MemoryStore.byUsername, TableStore.byUsername, TableStore.checkOpen, h.isOpen, hrow]
  cases hu : s.users.find? fun u => u.username = username with
  | none => exact ⟨rfl, by decide⟩
  | some u => exact Agree.decode (h.storable u (List.mem_of_find?_eq_some hu))

theorem all (h : Mirrors t s) : t.all = .ok s.all := by
  rw [TableStore.all_of_open h.isOpen, h.rows, Row.mapM_decode_sorted h.storable]
  rfl

/-- A search is the same in both if no lower bound lies within a leap second. -/
theorem find (h : Mirrors t s) {f : UserFilter}
    (hlow : ∀ low, f.indexLimits.min = some low → low.nanos < 1000000000) :
    t.find f = .ok (s.find f) := by
  have hover (u : User) : TableStore.overlooks f.indexLimits u.created = false := by
    unfold TableStore.overlooks
    split
    · next low heq => exact Instant.outruns_eq_false (hlow low heq) u.created
    · rfl
  rw [TableStore.find_eq h.distinctIds h.all, h.wellKept.find_eq_filter]
  simp only [hover, Bool.not_false, Bool.and_true]

/-- So does a deletion, whatever it is of. -/
theorem delete (h : Mirrors t s) (id : Uuid) (around : Surroundings) :
    Matched (s.perform (.delete id) around) (t.perform (.delete id) around) := by
  show Matched (s.changed (s.delete id)) (t.delete id)
  rw [MemoryStore.delete_eq, TableStore.delete, TableStore.checkOpen, h.isOpen, h.row?]
  cases hu : s.get? id with
  | none => exact h.refused rfl (by decide)
  | some u => exact ⟨Agree.decode (h.storable_of_get? hu), h.erase id⟩

/-- The record under an identifier gives way to another one, which is then read again. -/
theorem replace (h : Mirrors t s) {id : Uuid} {u : User} (hash : u.passwordHash ≠ "")
    (hu : u.Storable) (unique : ∀ v ∈ (s.erase id).users, v.username ≠ u.username ∧ v.id ≠ u.id) :
    let t' : TableStore := ⟨Row.encode u :: t.without id, true⟩
    Matched (.ok u, (s.erase id).insert u) (t'.get u.id, t') := by
  intro t'
  have hmirrors : Mirrors t' ((s.erase id).insert u) := (h.erase id).insert hash hu unique
  have hread : ((s.erase id).insert u).get u.id = .ok u := by simp [MemoryStore.get]
  refine ⟨?_, hmirrors⟩
  show Agree (.ok u) (t'.get u.id)
  rw [← hread]
  exact hmirrors.get u.id

/-- An update comes to the same in both stores if the record can be kept in a row. -/
theorem update (h : Mirrors t s) {around : Surroundings} {id : Uuid} {u : User}
    (hstored : ∀ created : Instant, created.Storable →
      ({ u with created := created, modified := around.now } : User).Storable) :
    Matched (s.perform (.update id u) around) (t.perform (.update id u) around) := by
  show Matched (s.changed (s.update around id u)) (t.update around id u)
  rw [MemoryStore.update_eq, TableStore.update, TableStore.overwrite_eq, h.isOpen, h.row?]
  cases hash : u.passwordHash.isEmpty with
  | true => exact h.refused rfl (by decide)
  | false =>
    simp only [Bool.false_eq_true, if_false, if_true]
    cases hcurrent : s.get? id with
    | none => exact h.refused rfl (by decide)
    | some current =>
      have hcreated := h.storable_of_get? hcurrent
      -- The row that is found keeps its time of creation, which is that of the record.
      have hrow : TableStore.overwritten around.now u (Row.encode current) =
          Row.encode { u with created := current.created, modified := around.now } :=
        TableStore.overwritten_eq (Row.decode_encode hcreated)
      have hcheck := TableStore.checkUnique_encode (s.erase id).users
        { u with created := current.created, modified := around.now }
      rw [← h.without] at hcheck
      simp only [Option.map_some, hrow]
      by_cases hunique : ∀ v ∈ (s.erase id).users, v.username ≠ u.username ∧ v.id ≠ u.id
      · obtain ⟨hid, hname⟩ := h.wellKept.not_clashing_iff.mpr hunique
        rw [hid, hname, hcheck.mpr hunique]
        exact h.replace (by simpa using hash) (hstored _ hcreated.created) hunique
      · -- Both refuse, be it for different columns.
        obtain ⟨e, he, hkind⟩ := TableStore.exists_checkUnique_eq_error (mt hcheck.mp hunique)
        rw [he]
        have hclash := mt h.wellKept.not_clashing_iff.mp hunique
        cases hid : (u.id ≠ id && s.contains u.id) with
        | true => exact h.refused hkind.symm (by simp [StoreError.kind])
        | false =>
          cases hname : s.usernameTaken u.username (some id) with
          | true => exact h.refused hkind.symm (by simp [StoreError.kind])
          | false => exact absurd ⟨hid, hname⟩ hclash

end Mirrors

/-! ## Runs -/

/-- No time of creation that a filter names is within a leap second. -/
def UserFilter.NoLeapSecond (f : UserFilter) : Prop :=
  ∀ leaf ∈ f.leaves, ∀ c, leaf.created = some c → ∀ t ∈ c.values, t.nanos < 1000000000

/-- The lower end of the bounds is a time that the filter names, so it is no leap second. -/
theorem UserFilter.NoLeapSecond.indexLimits {f : UserFilter} (h : f.NoLeapSecond) {low : Instant}
    (hlow : f.indexLimits.min = some low) : low.nanos < 1000000000 := by
  obtain ⟨leaf, hleaf, hend⟩ :=
    Filter.exists_leaf_of_mem_ends (Limits.mem_ends.mpr (Or.inl hlow))
  change low ∈ leaf.createdLimits.ends at hend
  unfold UserCondition.createdLimits at hend
  split at hend
  · next c hc => exact h leaf hleaf c hc low (Criterion.mem_values_of_limits hend)
  · contradiction

/-- What is asked of a step that both stores are to answer in the same way. -/
structure StoreStep.Common (step : StoreStep) : Prop where
  notClosing : step.call ≠ .close
  times : step.TimesAll Instant.Storable
  noLeap : ∀ f, step.call = .find f → f.NoLeapSecond

/-- The identifier that is drawn for a new record is free. -/
def StoreStep.FreshIn (s : MemoryStore) (step : StoreStep) : Prop :=
  ∀ u, step.call = .create u → s.get? (step.around.draws 0) = none

/-- Every new record of a run gets a fresh identifier. -/
def FreshRun (s : MemoryStore) : List StoreStep → Prop
  | [] => True
  | step :: rest => step.FreshIn s ∧ FreshRun (after step s) rest

/-- At every step of a run both stores give the same answer, and the rows are those of the records
throughout. -/
def Lockstep (s : MemoryStore) (t : TableStore) : List StoreStep → Prop
  | [] => Mirrors t s
  | step :: rest =>
    Mirrors t s ∧ Agree (answer step s) (answer step t) ∧
      Lockstep (after step s) (after step t) rest

theorem Mirrors.perform {t : TableStore} {s : MemoryStore} (h : Mirrors t s) {step : StoreStep}
    (hc : step.Common) (fresh : step.FreshIn s) :
    Matched (s.perform step.call step.around) (t.perform step.call step.around) := by
  obtain ⟨call, around⟩ := step
  have hlogin (u : User) := fun t => hc.times.lastLogin u t
  have hlogout (u : User) := fun t => hc.times.lastLogout u t
  cases call with
  | create u =>
    exact h.create (fresh u rfl) ⟨hc.times.now, hc.times.now, (hlogin u · rfl), (hlogout u · rfl)⟩
  | get id => exact ⟨h.get id, h⟩
  | byUsername username => exact ⟨h.byUsername username, h⟩
  | all =>
    refine ⟨?_, h⟩
    show Agree (.ok s.all) t.all
    rw [h.all]
    exact rfl
  | update id u =>
    exact h.update fun created hcreated =>
      ⟨hcreated, hc.times.now, (hlogin u · rfl), (hlogout u · rfl)⟩
  | delete id => exact h.delete id around
  | find f =>
    refine ⟨?_, h⟩
    show Agree (.ok (s.find f)) (t.find f)
    rw [h.find fun low hlow => (hc.noLeap f rfl).indexLimits hlow]
    exact rfl
  | close => exact absurd rfl hc.notClosing

theorem Mirrors.lockstep : ∀ {steps : List StoreStep} {s : MemoryStore} {t : TableStore},
    Mirrors t s → (∀ step ∈ steps, step.Common) → FreshRun s steps → Lockstep s t steps
  | [], _, _, h, _, _ => h
  | step :: rest, _, _, h, hc, ⟨fresh, hrest⟩ => by
    obtain ⟨hagree, hafter⟩ := h.perform (hc step List.mem_cons_self) fresh
    exact ⟨h, hagree, hafter.lockstep (fun x hx => hc x (List.mem_cons_of_mem _ hx)) hrest⟩

/-- **The stores are the same to their callers.** On any run of calls other than closing, the store
in memory and the store in a table answer every step in the same way, and the rows stay those of
the records. -/
theorem stores_in_lockstep {steps : List StoreStep} (hcommon : ∀ step ∈ steps, step.Common)
    (fresh : FreshRun .empty steps) : Lockstep .empty .empty steps :=
  Mirrors.empty.lockstep hcommon fresh

/-- A user comes in, moves to another identifier and another name, is found by a bound finer than a
microsecond, and is not there any more under the old identifier. -/
theorem stores_in_lockstep_on_move :
    let around (second : Int) : Surroundings :=
      ⟨⟨second, 250000, by omega⟩, fun _ => ⟨1⟩, [], 0⟩
    let alice := User.draft "alice" "$argon2id$a" .normal
    let moved := { alice with id := ⟨3⟩, username := "carol" }
    let f : UserFilter := .condition { created := some (.le ⟨10, 250001, by omega⟩) }
    let steps : List StoreStep :=
      [⟨.create alice, around 10⟩, ⟨.update ⟨1⟩ moved, around 11⟩, ⟨.find f, around 12⟩,
        ⟨.delete ⟨1⟩, around 13⟩]
    (∀ step ∈ steps, step.Common) ∧ FreshRun .empty steps ∧ Lockstep .empty .empty steps := by
  intro around alice moved f steps
  have hnow : ∀ second ∈ [10, 11, 12, 13], (around second).now.Storable := by decide +zetaReduce
  have hf : f.NoLeapSecond := by
    intro leaf hleaf c hc t ht
    rw [List.mem_singleton.mp hleaf] at hc
    cases hc
    rw [List.mem_singleton.mp ht]
    decide
  have common {call : StoreCall} {second : Int} (hsecond : second ∈ [10, 11, 12, 13])
      (hclose : call ≠ .close)
      (hrecord : ∀ u, call.record? = some u → u.lastLogin = none ∧ u.lastLogout = none)
      (hfind : ∀ g, call = .find g → g.NoLeapSecond) :
      (⟨call, around second⟩ : StoreStep).Common := by
    refine ⟨hclose, ⟨hnow second hsecond, fun u t hu ht => ?_, fun u t hu ht => ?_⟩, hfind⟩
    · rw [(hrecord u hu).1] at ht
      contradiction
    · rw [(hrecord u hu).2] at ht
      contradiction
  have hcommon : ∀ step ∈ steps, step.Common := by
    simp only [steps, List.forall_mem_cons]
    refine ⟨common (by simp) (by simp) ?_ (by simp), common (by simp) (by simp) ?_ (by simp),
      common (by simp) (by simp) ?_ ?_, common (by simp) (by simp) ?_ (by simp), by simp⟩
    · exact fun u hu => Option.some.inj hu ▸ ⟨rfl, rfl⟩
    · exact fun u hu => Option.some.inj hu ▸ ⟨rfl, rfl⟩
    · exact fun u hu => by contradiction
    · exact fun g hg => StoreCall.find.inj hg ▸ hf
    · exact fun u hu => by contradiction
  have fresh : FreshRun .empty steps :=
    ⟨fun _ _ => rfl, fun _ h => by contradiction, fun _ h => by contradiction,
      fun _ h => by contradiction, trivial⟩
  exact ⟨hcommon, fresh, stores_in_lockstep hcommon fresh⟩

end AccountServer
