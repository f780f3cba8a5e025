import AccountServer.Proofs.Store.Records

/-!
# Writes to one's own record

`Concerns` are the writes that a user may bring about who is no admin: his own record goes, or it
changes and keeps its identifier and its role. Such a write stays within this record (`confined`).
If the name stays too, then nothing but this record counts for the answer and for what becomes of
it, so that a user learns nothing of the others by it (`exists_outcome`).
-/

namespace AccountServer

open RecordStore

/-! ## Staying within a record -/

namespace MemoryStore

/-- From one table to the other, at most the record of this user has changed, and it is still
his. -/
structure Confined (me : User) (s s' : MemoryStore) : Prop where
  others : ∀ id ≠ me.id, s'.get? id = s.get? id
  own : s'.get? me.id = none ∨
    ∃ v, s'.get? me.id = some v ∧ v.id = me.id ∧ v.role = me.role ∧ v.created = me.created

namespace Confined

variable {me : User} {s : MemoryStore}

theorem refl (h : s.get? me.id = some me) : s.Confined me s :=
  ⟨fun _ _ => rfl, Or.inr ⟨me, h, rfl, rfl, rfl⟩⟩

/-- Who goes leaves the records of the others. -/
theorem erase (me : User) (s : MemoryStore) : s.Confined me (s.erase me.id) := by
  constructor
  · intro id hne
    rw [get?_erase, if_neg hne]
  · rw [get?_erase, if_pos rfl]
    exact Or.inl rfl

/-- A record that is put back may differ in what its owner may change. -/
theorem insert {v : User} (hid : v.id = me.id) (hrole : v.role = me.role)
    (hcreated : v.created = me.created) : s.Confined me ((s.erase me.id).insert v) := by
  constructor
  · intro id hne
    rw [get?_insert, if_neg (hid ▸ hne), get?_erase, if_neg hne]
  · rw [get?_insert, if_pos hid.symm]
    exact Or.inr ⟨v, rfl, hid, hrole, hcreated⟩

end Confined

end MemoryStore

/-- What a store answers for the identifier of a user. -/
def ownRecord {σ : Type} [AccountStore σ] (me : User) (later : Surroundings) (d : σ) :
    Except StoreError User :=
  ((Lookup.byId me.id).perform later d).1

theorem ownRecord_eq {σ : Type} [AccountStore σ] [RecordStore σ] {d : σ} {s : MemoryStore}
    (hd : Holds d s) (me : User) (later : Surroundings) : ownRecord me later d = s.get me.id := by
  rw [ownRecord, RecordStore.lookup hd]
  rfl

theorem ownRecord_of_get? {σ : Type} [AccountStore σ] [RecordStore σ] {d : σ} {s : MemoryStore}
    (hd : Holds d s) {me u : User} (h : s.get? me.id = some u) (later : Surroundings) :
    ownRecord me later d = .ok u :=
  (ownRecord_eq hd me later).trans (MemoryStore.get_eq_ok_iff.mpr h)

/-! ## Times -/

/-- The store can keep the times of `T`, and `f` says what becomes of them. -/
def KeepsAs (σ : Type) [AccountStore σ] [RecordStore σ] (T : Instant → Prop)
    (f : Instant → Instant) : Prop :=
  ∀ t, T t → Keeps σ t ∧ kept σ t = f t

/-- What becomes of a new state of a record: the times of creation and change are not its own. -/
def User.storedFor (v me : User) (f : Instant → Instant) (now : Instant) : User :=
  { v with
    created := me.created
    modified := f now
    lastLogin := v.lastLogin.map f
    lastLogout := v.lastLogout.map f }

namespace Write

/-- Writes that change or remove the record of a user, but neither its identifier nor its role.
Whether the name may change is for `renames` to say. -/
inductive Concerns (me : User) (T : Instant → Prop) (renames : Prop) : Write → Prop where
  | change (v : User) (id : v.id = me.id) (role : v.role = me.role)
      (name : v.username = me.username ∨ renames) (times : (Write.update me.id v).TimesAll T) :
      Concerns me T renames (.update me.id v)
  | removal : Concerns me T renames (.delete me.id)

variable {me : User} {T : Instant → Prop} {renames : Prop} {w : Write}
  {σ : Type} [AccountStore σ] [RecordStore σ] {f : Instant → Instant} {d : σ} {s : MemoryStore}
  {around : Surroundings}

theorem TimesAll.keeps (h : w.TimesAll T) (hf : KeepsAs σ T f) : w.TimesAll (Keeps σ) := by
  cases w with
  | create v | update id v =>
    exact ⟨fun t ht => (hf t (h.1 t ht)).1, fun t ht => (hf t (h.2 t ht)).1⟩
  | delete id => exact trivial

theorem TimesAll.storedFor_eq {v : User} (h : (Write.update me.id v).TimesAll T)
    (hf : KeepsAs σ T f) {now : Instant} (hnow : T now) :
    { v.mapTimes (kept σ) with created := me.created, modified := kept σ now } =
      v.storedFor me f now := by
  have hlogin : v.lastLogin.map (kept σ) = v.lastLogin.map f :=
    Option.map_congr fun t ht => (hf t (h.1 t ht)).2
  have hlogout : v.lastLogout.map (kept σ) = v.lastLogout.map f :=
    Option.map_congr fun t ht => (hf t (h.2 t ht)).2
  simp only [User.mapTimes, User.storedFor, hlogin, hlogout, (hf now hnow).2]

/-! ## Writes to the own record -/

namespace Concerns

theorem draws_eq_false (h : w.Concerns me T renames) : w.draws = false := by
  cases h <;> rfl

theorem timesAll (h : w.Concerns me T renames) : w.TimesAll T := by
  cases h with
  | change v id role name times => exact times
  | removal => exact trivial

/-- Whatever a write comes to that concerns a user, the records of the others stay. -/
theorem confined_perform (h : w.Concerns me T renames) (hme : s.get? me.id = some me)
    (f : Instant → Instant) (around : Surroundings) :
    s.Confined me ((w.mapTimes f).perform around s).2 := by
  rcases (w.mapTimes f).perform_cases around s with ⟨u, s', heq, htook⟩ | ⟨e, heq, -⟩
  · rw [heq]
    cases h with
    | change v hid hrole hname htimes =>
      cases htook with
      | replaced _ _ current hash found vacant name =>
        -- The time of creation is taken from the record that was there, which is his.
        obtain rfl : current = me := Option.some.inj (found.symm.trans hme)
        exact .insert hid hrole rfl
    | removal =>
      cases htook with
      | removed _ _ found => exact .erase me s
  · rw [heq]
    exact .refl hme

/-- Over any store, such a write stays within the record. -/
theorem confined (h : w.Concerns me T renames) (hf : KeepsAs σ T f) (hd : Holds d s)
    (hme : s.get? me.id = some me) (hnow : T around.now) :
    ∃ s', Holds (w.perform around d).2 s' ∧ s.Confined me s' := by
  obtain ⟨-, hholds⟩ :=
    RecordStore.write hd w around h.draws_eq_false (h.timesAll.keeps hf) (hf _ hnow).1
  exact ⟨_, hholds, h.confined_perform hme _ _⟩

end Concerns

/-! ## What the others do not count for -/

/-- A new state of a record takes its place, unless it has no password hash. What is stored is made
of the record and of the clock alone. -/
theorem perform_change {v : User} (hid : v.id = me.id) (hname : v.username = me.username)
    (htimes : (Write.update me.id v).TimesAll T) (hf : KeepsAs σ T f) (hd : Holds d s)
    (hme : s.get? me.id = some me) (hnow : T around.now) (hash : v.passwordHash ≠ "") :
    ((Write.update me.id v).perform around d).1 = .ok (v.storedFor me f around.now) ∧
      Holds ((Write.update me.id v).perform around d).2
        ((s.erase me.id).insert (v.storedFor me f around.now)) := by
  obtain ⟨hagree, hholds⟩ :=
    RecordStore.write hd (.update me.id v) around rfl (htimes.keeps hf) (hf _ hnow).1
  have hperform := Write.perform_update_of_same (v := v.mapTimes (kept σ)) (wellKept hd)
    (MemoryStore.mem_users_of_get? hme) hid hname hash (around.mapTime (kept σ))
  have htable : ((Write.update me.id v).mapTimes (kept σ)).perform (around.mapTime (kept σ)) s =
      (.ok (v.storedFor me f around.now),
        (s.erase me.id).insert (v.storedFor me f around.now)) := by
    rw [← htimes.storedFor_eq hf hnow]
    exact hperform
  rw [htable] at hagree hholds
  exact ⟨hagree.eq_ok, hholds⟩

/-- Removing a record answers it. -/
theorem perform_removal (hd : Holds d s) (hme : s.get? me.id = some me)
    (hnow : Keeps σ around.now) :
    ((Write.delete me.id).perform around d).1 = .ok me ∧
      ∀ later, ownRecord me later ((Write.delete me.id).perform around d).2 = .error .notFound := by
  obtain ⟨hagree, hholds⟩ := RecordStore.write hd (.delete me.id) around rfl trivial hnow
  have htable : ((Write.delete me.id).mapTimes (kept σ)).perform (around.mapTime (kept σ)) s =
      (.ok me, s.erase me.id) := by
    show s.changed (s.delete me.id) = _
    rw [MemoryStore.delete_eq, hme]
    rfl
  rw [htable] at hagree hholds
  refine ⟨hagree.eq_ok, fun later => ?_⟩
  rw [ownRecord_eq hholds, MemoryStore.get, MemoryStore.get?_erase, if_pos rfl]

/-- What comes of a write to the own record does not depend on the store, if the store has the
record and the name stays. -/
theorem Concerns.exists_outcome (h : w.Concerns me T False) (f : Instant → Instant)
    {around : Surroundings} (hnow : T around.now) :
    ∃ answer own : Except StoreError User,
      ∀ {σ : Type} [AccountStore σ] [RecordStore σ] {d : σ} {s : MemoryStore}, KeepsAs σ T f →
        Holds d s → s.get? me.id = some me →
        (w.perform around d).1 = answer ∧
          ∀ later, ownRecord me later (w.perform around d).2 = own := by
  cases h with
  | change v id role name times =>
    have hname : v.username = me.username := name.resolve_right not_false
    by_cases hash : v.passwordHash = ""
    · -- It is refused before the store looks at any record.
      refine ⟨.error (.invalid .noHash), .ok me, fun {σ _ _ d s} hf hd hme => ?_⟩
      have hperform : (Write.update me.id v).perform around d = (.error (.invalid .noHash), d) :=
        RecordStore.unhashed d around me.id hash
      rw [hperform]
      exact ⟨rfl, ownRecord_of_get? hd hme⟩
    · -- The name is his already, so no other record can stand in the way.
      let stored := v.storedFor me f around.now
      refine ⟨.ok stored, .ok stored, fun {σ _ _ d s} hf hd hme => ?_⟩
      obtain ⟨hanswer, hholds⟩ := perform_change id hname times hf hd hme hnow hash
      have hown : ((s.erase me.id).insert stored).get? me.id = some stored := by
        have hid : me.id = stored.id := id.symm
        rw [MemoryStore.get?_insert, if_pos hid]
      exact ⟨hanswer, ownRecord_of_get? hholds hown⟩
  | removal =>
    exact ⟨.ok me, .error .notFound, fun hf hd hme => perform_removal hd hme (hf _ hnow).1⟩

end Write

end AccountServer
