import AccountServer.Proofs.Service.EitherStore

/-!
# Stores as tables of records

What the services rely on is that a store keeps a table of records. It answers lookups as the table
does, and a write changes it as it changes the table. `RecordStore` says so of a store.

A store may keep times less exactly than they were given: the rows of a file count microseconds.
`kept` is what becomes of a time, so that a write is to the store what it is to the table with its
times made so.
-/

namespace AccountServer

/-! ## Times -/

theorem User.TimesAll.mono {P Q : Instant → Prop} {u : User} (h : u.TimesAll P)
    (himp : ∀ t, P t → Q t) : u.TimesAll Q where
  created := himp _ h.created
  modified := himp _ h.modified
  lastLogin t ht := himp t (h.lastLogin t ht)
  lastLogout t ht := himp t (h.lastLogout t ht)

theorem User.TimesAll.and {P Q : Instant → Prop} {u : User} (hp : u.TimesAll P)
    (hq : u.TimesAll Q) : u.TimesAll fun t => P t ∧ Q t where
  created := ⟨hp.created, hq.created⟩
  modified := ⟨hp.modified, hq.modified⟩
  lastLogin t ht := ⟨hp.lastLogin t ht, hq.lastLogin t ht⟩
  lastLogout t ht := ⟨hp.lastLogout t ht, hq.lastLogout t ht⟩

/-- The record with every time made another one. -/
def User.mapTimes (f : Instant → Instant) (u : User) : User :=
  { u with
    created := f u.created
    modified := f u.modified
    lastLogin := u.lastLogin.map f
    lastLogout := u.lastLogout.map f }

/-- What is around at the time that `f` makes of it. -/
def Surroundings.mapTime (f : Instant → Instant) (around : Surroundings) : Surroundings :=
  { around with now := f around.now }

namespace Write

/-- The write with every time of its record made another one. -/
def mapTimes (f : Instant → Instant) : Write → Write
  | .create u => .create (u.mapTimes f)
  | .update id u => .update id (u.mapTimes f)
  | .delete id => .delete id

/-- What holds of the times of login and logout that the write hands to the store. The other two are
not kept. -/
def TimesAll (P : Instant → Prop) : Write → Prop
  | .create u | .update _ u =>
    (∀ t, u.lastLogin = some t → P t) ∧ ∀ t, u.lastLogout = some t → P t
  | .delete _ => True

end Write

theorem User.mapTimes_same (u : User) : (u.mapTimes fun t => t) = u := by
  simp [mapTimes]

theorem Write.mapTimes_same (w : Write) : (w.mapTimes fun t => t) = w := by
  cases w <;> simp [mapTimes, User.mapTimes_same]

theorem map_eq_self {f : Instant → Instant} {time : Option Instant}
    (h : ∀ t, time = some t → f t = t) : time.map f = time := by
  cases time with
  | none => rfl
  | some t => exact congrArg some (h t rfl)

/-! ## Record stores -/

/-- What a store answers to a lookup, and its state after that. -/
def Lookup.perform {σ : Type} [AccountStore σ] (l : Lookup) (around : Surroundings) (d : σ) :
    Except StoreError User × σ :=
  match l with
  | .byId id => AccountStore.perform (.get id) around d
  | .byName username => AccountStore.perform (.byUsername username) around d

/-- A store that keeps a table of records. -/
class RecordStore (σ : Type) [AccountStore σ] where
  /-- What becomes of a time that is kept. -/
  kept (σ) : Instant → Instant
  /-- The times that can be kept. -/
  Keeps (σ) : Instant → Prop
  /-- The table that a state stands for. -/
  Holds : σ → MemoryStore → Prop
  wellKept {d : σ} {s : MemoryStore} : Holds d s → s.WellKept
  times {d : σ} {s : MemoryStore} : Holds d s →
    ∀ u ∈ s.users, u.TimesAll fun t => Keeps t ∧ kept t = t
  lookup {d : σ} {s : MemoryStore} : Holds d s →
    ∀ (l : Lookup) around, l.perform around d = (l.answer s, d)
  /-- Answer and state after a write are those of the table, unless identifiers are drawn. -/
  write {d : σ} {s : MemoryStore} : Holds d s → ∀ (w : Write) around, w.draws = false →
    w.TimesAll Keeps → Keeps around.now →
    Agree ((w.mapTimes kept).perform (around.mapTime kept) s).1 (w.perform around d).1 ∧
      Holds (w.perform around d).2 ((w.mapTimes kept).perform (around.mapTime kept) s).2
  unhashed (d : σ) (around : Surroundings) (id : Uuid) {u : User} : u.passwordHash = "" →
    AccountStore.perform (.update id u) around d = (.error (.invalid .noHash), d)

/-! ## The store in memory -/

theorem Agree.eq_ok {α : Type} {a : α} {r : Except StoreError α} (h : Agree (.ok a) r) :
    r = .ok a := by
  cases r with
  | ok b => exact congrArg Except.ok (Eq.symm h)
  | error e => exact h.elim

/-- A write fails in one of the three ways that answers may agree on. -/
theorem Agree.refl_perform (w : Write) (around : Surroundings) (s : MemoryStore) :
    Agree (w.perform around s).1 (w.perform around s).1 := by
  rcases w.perform_cases around s with ⟨u, s', heq, -⟩ | ⟨e, heq, hrefuses⟩
  · rw [heq]
    exact rfl
  · rw [heq]
    cases hrefuses <;> exact ⟨rfl, by simp [StoreError.kind]⟩

/-- The store in memory is its own table and keeps times as they are. -/
instance : RecordStore MemoryStore where
  kept t := t
  Keeps _ := True
  Holds d s := d = s ∧ s.WellKept
  wellKept h := h.2
  times _ _ _ := ⟨⟨trivial, rfl⟩, ⟨trivial, rfl⟩, fun _ _ => ⟨trivial, rfl⟩,
    fun _ _ => ⟨trivial, rfl⟩⟩
  lookup := by
    rintro d _ ⟨rfl, -⟩ l around
    cases l <;> rfl
  write := by
    rintro d _ ⟨rfl, hw⟩ w around - - -
    rw [Write.mapTimes_same]
    refine ⟨.refl_perform w _ d, rfl, ?_⟩
    rcases w.perform_cases around d with ⟨u, s', heq, htook⟩ | ⟨e, heq, -⟩
    · show (w.perform around d).2.WellKept
      rw [heq]
      exact htook.wellKept hw
    · show (w.perform around d).2.WellKept
      rw [heq]
      exact hw
  unhashed d around id u hash := by
    show d.changed (d.update around id u) = _
    rw [MemoryStore.update_eq, if_pos (by simp [hash])]
    rfl

/-! ## The table in a file -/

namespace TableStore

/-- What a time is read back as. -/
def readBack (t : Instant) : Instant := (Instant.ofMicros? t.micros).getD t

/-- What is a whole number of microseconds reads back as it is. -/
theorem readBack_of_storable {t : Instant} (h : t.Storable) : readBack t = t := by
  rw [readBack, Instant.ofMicros?_micros h, Option.getD_some]

/-- What has been read back once is storable. -/
theorem storable_readBack {t : Instant} (h : t.Readable) : (readBack t).Storable := by
  obtain ⟨t', ht'⟩ := h
  rw [readBack, ht', Option.getD_some]
  exact (Instant.ofMicros?_eq_some_iff.mp ht').2

@[simp] theorem micros_readBack (t : Instant) : (readBack t).micros = t.micros := by
  unfold readBack
  cases h : Instant.ofMicros? t.micros with
  | none => rfl
  | some t' => exact (Instant.ofMicros?_eq_some_iff.mp h).1

theorem storable_map_readBack {time : Option Instant} (h : ∀ t, time = some t → t.Readable) :
    ∀ t, time.map readBack = some t → t.Storable := by
  intro t ht
  obtain ⟨t', ht', rfl⟩ := Option.map_eq_some_iff.mp ht
  exact storable_readBack (h t' ht')

/-- The rows do not tell a time from what it is read back as. -/
theorem encode_mapTimes (u : User) : Row.encode (u.mapTimes readBack) = Row.encode u := by
  have htime (time : Option Instant) :
      Cell.ofOption .ofInstant (time.map readBack) = .ofOption .ofInstant time := by
    cases time with
    | none => rfl
    | some t => simp [Cell.ofOption, Cell.ofInstant]
  simp [Row.encode, User.mapTimes, Cell.ofInstant, htime]

/-- A table cannot tell times from what they read back as. -/
theorem overwritten_mapTimes (now : Instant) (u : User) (current : Row) :
    overwritten (readBack now) (u.mapTimes readBack) current = overwritten now u current := by
  have hencode := encode_mapTimes { u with modified := now }
  unfold overwritten
  rw [← hencode]
  rfl

/-- So a write does not depend on more of the times than what is read back. -/
theorem perform_mapTimes {w : Write} (hdraws : w.draws = false) (around : Surroundings)
    (t : TableStore) :
    (w.mapTimes readBack).perform (around.mapTime readBack) t = w.perform around t := by
  cases w with
  | create u => cases hdraws
  | delete id => rfl
  | update id u =>
    show t.update (around.mapTime readBack) id (u.mapTimes readBack) = t.update around id u
    unfold update
    have hoverwrite : t.overwrite (around.mapTime readBack).now id (u.mapTimes readBack) =
        t.overwrite around.now id u := by
      rw [overwrite_eq, overwrite_eq]
      simp only [Surroundings.mapTime, overwritten_mapTimes]
      rfl
    rw [hoverwrite]
    rfl

theorem storable_mapTimes {w : Write} (h : w.TimesAll Instant.Readable) :
    (w.mapTimes readBack).Storable := by
  cases w with
  | create u => exact ⟨storable_map_readBack h.1, storable_map_readBack h.2⟩
  | update id u => exact ⟨storable_map_readBack h.1, storable_map_readBack h.2⟩
  | delete id => exact trivial

end TableStore

/-- The rows of an open table are those of the records in memory, whose times are microseconds. -/
instance : RecordStore TableStore where
  kept := TableStore.readBack
  Keeps := Instant.Readable
  Holds := Mirrors
  wellKept h := h.wellKept
  times h u hu := (h.storable u hu).mono fun t ht =>
    ⟨⟨t, Instant.ofMicros?_micros ht⟩, TableStore.readBack_of_storable ht⟩
  lookup := by
    intro t s h l around
    have hperform : l.perform around t = (l.answerFrom t, t) := by cases l <;> rfl
    rw [hperform, h.answerFrom_eq]
  write := by
    intro t s h w around hdraws htimes hnow
    have hfresh : (w.mapTimes TableStore.readBack).draws = true →
        s.get? (around.draws 0) = none := by
      cases w with
      | create u => cases hdraws
      | update id u | delete id => exact nofun
    -- The rows do not tell the times that were given from those that are read back, so the write
    -- may as well be given the latter, which both stores keep alike.
    have hmatched : Matched
        ((w.mapTimes TableStore.readBack).perform (around.mapTime TableStore.readBack) s)
        ((w.mapTimes TableStore.readBack).perform (around.mapTime TableStore.readBack) t) :=
      h.write (TableStore.storable_mapTimes htimes) (TableStore.storable_readBack hnow) hfresh
    rw [TableStore.perform_mapTimes hdraws] at hmatched
    exact hmatched
  unhashed t around id u hash := by
    show t.update around id u = _
    rw [TableStore.update, TableStore.overwrite_eq, if_pos (by simp [hash])]

/-! ## Reachable states -/

open AccountStore RecordStore

/-- Whatever has been done to a new store in memory, it stands for itself. -/
theorem MemoryStore.holds_run (steps : List StoreStep) :
    Holds (run MemoryStore.empty steps) (run MemoryStore.empty steps) :=
  ⟨rfl, wellKept_run steps⟩

/-- A row that comes in stands for the record that it is read back as. -/
theorem TableStore.exists_mirrors_create {t : TableStore} {s : MemoryStore} (h : Mirrors t s)
    {around : Surroundings} {u : User} (hstamped : (stamped around u).TimesAll Instant.Readable) :
    ∃ s', Mirrors (t.perform (.create u) around).2 s' := by
  rw [perform_create]
  cases hcreate : t.create around u with
  | error e => exact ⟨s, h⟩
  | ok result =>
    obtain ⟨stored, t'⟩ := result
    obtain ⟨hunique, -, rfl⟩ := create_ok hcreate
    have hash : u.passwordHash ≠ "" := by
      rintro hno
      rw [create_eq, if_pos (by simp [hno])] at hcreate
      cases hcreate
    have hstorable : ((stamped around u).mapTimes readBack).Storable :=
      ⟨storable_readBack hstamped.created, storable_readBack hstamped.modified,
        storable_map_readBack hstamped.lastLogin, storable_map_readBack hstamped.lastLogout⟩
    rw [h.rows, checkUnique_encode] at hunique
    have hinsert := h.insert (u := (stamped around u).mapTimes readBack) hash hstorable hunique
    rw [encode_mapTimes] at hinsert
    rw [h.isOpen]
    exact ⟨_, hinsert⟩

/-- A table stands for records as long as it is not closed, if times can be read back. -/
theorem TableStore.exists_holds_run {steps : List StoreStep}
    (htimes : ∀ step ∈ steps, step.TimesAll Instant.Readable)
    (hopen : ∀ step ∈ steps, step.call ≠ .close) : ∃ s, Holds (run TableStore.empty steps) s := by
  refine @run_keeps TableStore _ (fun t => ∃ s, Holds t s) steps ?_ _ ⟨.empty, Mirrors.empty⟩
  rintro ⟨call, around⟩ hmem t ⟨s, h⟩
  obtain ⟨hnow, hlogin, hlogout⟩ := htimes _ hmem
  cases call with
  | create u =>
    exact exists_mirrors_create h ⟨hnow, hnow, fun t => hlogin u t rfl, fun t => hlogout u t rfl⟩
  | update id u =>
    have htimes : (Write.update id u).TimesAll Instant.Readable :=
      ⟨fun t => hlogin u t rfl, fun t => hlogout u t rfl⟩
    exact ⟨_, (RecordStore.write h (.update id u) around rfl htimes hnow).2⟩
  | delete id => exact ⟨_, (RecordStore.write h (.delete id) around rfl trivial hnow).2⟩
  | get _ | byUsername _ | all | find _ => exact ⟨s, h⟩
  | close => exact absurd rfl (hopen _ hmem)

end AccountServer
