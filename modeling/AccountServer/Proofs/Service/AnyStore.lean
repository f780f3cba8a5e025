import AccountServer.Proofs.Service.EitherStore
import AccountServer.Store.Disk

/-!
# The service over a store of any kind

A `Backend` is a store in memory or a table, and `Backend.Holds` says which records it stands for.
Whatever is around, an operation over a backend fails and leaves it exactly as it was, or it has on
those records the effect that it has in memory (`Holds.perform_cases`). So whatever is known of the
effects of operations is known over every kind of store.

A table draws an identifier once for a new record and refuses it if it is taken, where the store in
memory draws again. Over a table an operation therefore does what it does in memory when every draw
gives the same (`Surroundings.once`).
-/

namespace AccountServer

/-! ## Drawing once -/

/-- What is around if every draw gives what the first one gives. -/
def Surroundings.once (around : Surroundings) : Surroundings :=
  { around with draws := fun _ => around.draws 0 }

theorem MemoryStore.freeDraw?_of_taken {s : MemoryStore} {id : Uuid} (h : s.get? id ≠ none) :
    s.freeDraw? (fun _ => id) = none := by
  have hcontains : s.contains id = true := Option.isSome_iff_ne_none.mpr h
  rw [freeDraw?, List.find?_eq_none]
  intro drawn hdrawn
  obtain ⟨n, -, rfl⟩ := List.mem_map.mp hdrawn
  simp [hcontains]

namespace Mirrors

variable {t : TableStore} {s : MemoryStore}

/-- A new record, whether or not the identifier that is drawn for it is free. -/
theorem create_once (h : Mirrors t s) {around : Surroundings} {u : User}
    (hstored : (TableStore.stamped around u).Storable) :
    Matched (s.perform (.create u) around.once) (t.perform (.create u) around) := by
  by_cases fresh : s.get? (around.draws 0) = none
  · have hcreate : Matched (s.perform (.create u) around.once)
        (t.perform (.create u) around.once) := h.create fresh hstored
    exact hcreate
  · have hs : s.perform (.create u) around.once = s.changed (s.create around.once u) := rfl
    rw [hs, TableStore.perform_create, MemoryStore.create_eq, TableStore.create_eq, h.isOpen]
    cases hash : u.passwordHash.isEmpty with
    | true => exact h.refused rfl (by decide)
    | false =>
      -- The table refuses the row for the identifier, if not for the username.
      have hclash : ¬ TableStore.checkUnique t.rows (Row.encode (TableStore.stamped around u)) =
          .ok () := by
        rw [h.rows, TableStore.checkUnique_encode]
        exact fun hunique =>
          fresh (h.wellKept.get?_eq_none_iff.mpr fun v hv => (hunique v hv).2)
      obtain ⟨e, he, hkind⟩ := TableStore.exists_checkUnique_eq_error hclash
      have hdraw : s.freeDraw? around.once.draws = none := MemoryStore.freeDraw?_of_taken fresh
      simp only [Bool.false_eq_true, if_false, if_true]
      rw [he, hdraw]
      cases s.usernameTaken u.username none with
      | true => exact h.refused hkind.symm (by simp [StoreError.kind])
      | false => exact h.refused hkind.symm (by simp [StoreError.kind])

/-- A write comes to the same in both stores if the store in memory only sees the first draw. -/
theorem write_once (h : Mirrors t s) {w : Write} (hw : w.Storable) {around : Surroundings}
    (hnow : around.now.Storable) :
    Matched (w.perform around.once s) (w.perform around t) := by
  cases w with
  | create u => exact h.create_once ⟨hnow, hnow, hw.1, hw.2⟩
  | update id u => exact h.write (w := .update id u) hw hnow nofun
  | delete id => exact h.write (w := .delete id) hw hnow nofun

/-- The rows are all that there is of a table. -/
theorem unique {t' : TableStore} (h : Mirrors t s) (h' : Mirrors t' s) : t' = t := by
  obtain ⟨rows, isOpen⟩ := t
  obtain ⟨rows', isOpen'⟩ := t'
  congr 1
  · exact h'.rows.trans h.rows.symm
  · exact h'.isOpen.trans h.isOpen.symm

end Mirrors

theorem Plan.Portable.run_once {draws : Bool} {p : Action User} (hp : p.Portable draws)
    {t : TableStore} {s : MemoryStore} (h : Mirrors t s) {around : Nat → Surroundings}
    (htimes : ∀ n, (around n).now.Storable) :
    SameResult (p.run (fun n => (around n).once) s).1 (p.run around t).1 ∧
      Mirrors (p.run around t).2 (p.run (fun n => (around n).once) s).2 :=
  hp.run_of_matched h htimes (fun _ => rfl) (fun _ => rfl) fun n _ hw _ =>
    h.write_once hw (htimes n)

/-! ## Stores of any kind -/

namespace Backend

/-- The records that a store stands for. -/
inductive Holds : Backend → MemoryStore → Prop where
  | memory {s : MemoryStore} (wellKept : s.WellKept) : Holds (.memory s) s
  | table {t : TableStore} {s : MemoryStore} (mirrors : Mirrors t s) : Holds (.table t) s

/-- The times that a store keeps as they are. A table keeps microseconds, and finer than that the
clock of the service does not go. -/
inductive Keeps : Backend → Instant → Prop where
  | memory (m : MemoryStore) (time : Instant) : Keeps (.memory m) time
  | table (t : TableStore) {time : Instant} (storable : time.Storable) : Keeps (.table t) time

theorem keeps_table_iff {t : TableStore} {time : Instant} :
    (Backend.table t).Keeps time ↔ time.Storable :=
  ⟨fun (.table _ h) => h, .table t⟩

/-! Calls and plans over a store are those over the store that it is. -/

theorem write_memory (w : Write) (around : Surroundings) (m : MemoryStore) :
    w.perform around (Backend.memory m) =
      ((w.perform around m).1, .memory (w.perform around m).2) := by
  cases w <;> rfl

theorem write_table (w : Write) (around : Surroundings) (t : TableStore) :
    w.perform around (Backend.table t) =
      ((w.perform around t).1, .table (w.perform around t).2) := by
  cases w <;> rfl

variable {ε α : Type}

theorem run_memory (p : Plan ε α) : ∀ (around : Nat → Surroundings) (m : MemoryStore),
    p.run around (Backend.memory m) = ((p.run around m).1, .memory (p.run around m).2) := by
  induction p with
  | done r => exact fun _ _ => rfl
  | ask q next ih =>
    intro around m
    cases q with
    | store call => exact ih _ _ _
    | clock | salt | random => exact ih _ _ _

theorem run_table (p : Plan ε α) : ∀ (around : Nat → Surroundings) (t : TableStore),
    p.run around (Backend.table t) = ((p.run around t).1, .table (p.run around t).2) := by
  induction p with
  | done r => exact fun _ _ => rfl
  | ask q next ih =>
    intro around t
    cases q with
    | store call => exact ih _ _ _
    | clock | salt | random => exact ih _ _ _

namespace Holds

variable {b : Backend} {s : MemoryStore}

theorem wellKept (h : b.Holds s) : s.WellKept := by
  cases h with
  | memory hw => exact hw
  | table hmirrors => exact hmirrors.wellKept

/-- An operation comes to what it comes to in memory, at the same times. If nothing changes there,
nothing changes here. -/
theorem exists_perform (h : b.Holds s) (accounts : Accounts) (op : Operation)
    {around : Nat → Surroundings} (hclock : ∀ n, b.Keeps (around n).now) :
    let there := accounts.perform ⟨op, around⟩ b
    ∃ around' : Nat → Surroundings, (∀ n, (around' n).now = (around n).now) ∧
      let here := accounts.perform ⟨op, around'⟩ s
      SameResult here.1 there.1 ∧ there.2.Holds here.2 ∧ (here.2 = s → there.2 = b) ∧
        ∀ time, there.2.Keeps time ↔ b.Keeps time := by
  cases h with
  | memory hw =>
    refine ⟨around, fun _ => rfl, ?_⟩
    have hrun : accounts.perform ⟨op, around⟩ (Backend.memory s) =
        ((accounts.perform ⟨op, around⟩ s).1, .memory (accounts.perform ⟨op, around⟩ s).2) :=
      run_memory _ _ _
    rw [hrun]
    refine ⟨.refl _, .memory (accounts.wellKept_after [⟨op, around⟩] hw), congrArg _, ?_⟩
    exact fun time => ⟨fun _ => .memory _ _, fun _ => .memory _ _⟩
  | @table t _ hmirrors =>
    refine ⟨fun n => (around n).once, fun _ => rfl, ?_⟩
    have hrun : accounts.perform ⟨op, around⟩ (Backend.table t) =
        ((accounts.perform ⟨op, around⟩ t).1, .table (accounts.perform ⟨op, around⟩ t).2) :=
      run_table _ _ _
    obtain ⟨hsame, hafter⟩ :=
      (op.portable accounts).run_once hmirrors fun n => keeps_table_iff.mp (hclock n)
    rw [hrun]
    refine ⟨hsame, .table hafter, fun hstays => ?_, fun time => ?_⟩
    · have hrows : Mirrors (accounts.perform ⟨op, around⟩ t).2 s := hstays ▸ hafter
      exact congrArg Backend.table (hmirrors.unique hrows)
    · rw [keeps_table_iff, keeps_table_iff]

/-- An operation fails and changes nothing, or it has its effect on the records. -/
theorem perform_cases (h : b.Holds s) (accounts : Accounts) (op : Operation)
    {around : Nat → Surroundings} (hclock : ∀ n, b.Keeps (around n).now) :
    (∃ e, accounts.perform ⟨op, around⟩ b = (.error e, b)) ∨
      ∃ u b' s', accounts.perform ⟨op, around⟩ b = (.ok u, b') ∧ b'.Holds s' ∧
        (∀ time, b'.Keeps time ↔ b.Keeps time) ∧ op.Effect accounts s u s' := by
  obtain ⟨around', -, hsame, hholds, hstays, hkeeps⟩ :=
    h.exists_perform accounts op hclock
  generalize accounts.perform ⟨op, around⟩ b = there at *
  obtain ⟨result, b'⟩ := there
  rcases accounts.perform_cases ⟨op, around'⟩ h.wellKept with ⟨e, heq⟩ | ⟨u, s', heq, -, heffect⟩
  · rw [heq] at hsame hstays
    obtain rfl : b' = b := hstays rfl
    cases result with
    | ok u => exact hsame.elim
    | error e' => exact Or.inl ⟨e', rfl⟩
  · rw [heq] at hsame hholds
    obtain rfl : result = .ok u := hsame.eq_of_ok
    exact Or.inr ⟨u, b', s', rfl, hholds, hkeeps, heffect⟩

end Holds

end Backend

/-! ## Errands -/

/-- At all times of the errands the clock shows what the store keeps. -/
def Backend.KeepsAll (b : Backend) (errands : List Errand) : Prop :=
  ∀ errand ∈ errands, ∀ n, b.Keeps (errand.around n).now

/-- Books that are kept from the outcomes stay true of the records that the store holds, if a
failure and a success both keep them so. -/
theorem Accounts.books_kept_over (accounts : Accounts) {β : Type} {record : β → Outcome → β}
    {I : MemoryStore → β → Prop}
    (hfailed : ∀ s k op, I s k → I s (record k ⟨op, none⟩))
    (hdone : ∀ s k op u s', s.WellKept → s'.WellKept → I s k → op.Effect accounts s u s' →
      I s' (record k ⟨op, some u⟩))
    (errands : List Errand) : ∀ {b : Backend} {s : MemoryStore} {k : β}, b.Holds s → I s k →
      b.KeepsAll errands →
      let b' := accounts.after b errands
      ∃ s', b'.Holds s' ∧ (∀ time, b'.Keeps time ↔ b.Keeps time) ∧
        I s' ((accounts.outcomes b errands).foldl record k) := by
  induction errands with
  | nil => exact fun {_ s _} hb h _ => ⟨s, hb, fun _ => Iff.rfl, h⟩
  | cons errand rest ih =>
    intro b s k hb h hclock
    obtain ⟨hnow, hrest⟩ := List.forall_mem_cons.mp hclock
    dsimp only
    rw [after_cons, outcomes, List.foldl_cons]
    rcases hb.perform_cases accounts errand.op hnow with
      ⟨e, heq⟩ | ⟨u, b', s', heq, hb', hkeeps, heffect⟩
    · rw [heq]
      exact ih hb (hfailed s k errand.op h) hrest
    · have hlater : b'.KeepsAll rest := by
        intro later hmem n
        rw [hkeeps]
        exact hrest later hmem n
      rw [heq]
      simp only [← hkeeps]
      exact ih hb' (hdone s k errand.op u s' hb.wellKept hb'.wellKept h heffect) hlater

/-- Whatever errands are carried out, the store stands for records, and it keeps the times that it
has always kept. -/
theorem Backend.Holds.exists_after {b : Backend} {s : MemoryStore} (h : b.Holds s)
    (accounts : Accounts) {errands : List Errand} (hclock : b.KeepsAll errands) :
    ∃ s', (accounts.after b errands).Holds s' ∧
      ∀ time, (accounts.after b errands).Keeps time ↔ b.Keeps time := by
  -- There is nothing to keep books about.
  obtain ⟨s', hs', hkeeps, -⟩ := @Accounts.books_kept_over accounts Unit (fun k _ => k)
    (fun _ _ => True) (fun _ _ _ h => h) (fun _ _ _ _ _ _ _ h _ => h) errands b s () h trivial
    hclock
  exact ⟨s', hs', hkeeps⟩

end AccountServer
