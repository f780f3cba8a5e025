import AccountServer.Proofs.Store.Records

/-!
# Plans whose answers are foreseen

A plan of a service asks the store for records and may write once. If it is known beforehand what
the store answers to each of its lookups, then the store has no say in what the plan does: it either
ends without a change, or it comes to one and the same write, after which only the answer to that
counts (`Foreseen.run`). Two stores that answer those lookups alike can be told apart by nothing but
the answer to that write.

The clock shows times of `T`, and all writes that a plan may come to are in `W`.
-/

namespace AccountServer

/-! ## Questions -/

namespace Question

/-- Questions that the store is not asked. -/
def isOutside : Question → Bool
  | .store _ => false
  | .clock | .salt | .random => true

/-- What can be answered if the clock shows times of `T`. -/
def Admits (T : Instant → Prop) : (q : Question) → q.Answer → Prop
  | .clock, now => T now
  | .store _, _ | .salt, _ | .random, _ => True

/-- What is answered from outside is the same over any store. -/
theorem exists_answer {T : Instant → Prop} {q : Question} (h : q.isOutside = true)
    (around : Surroundings) (hnow : T around.now) :
    ∃ answer, q.Admits T answer ∧
      ∀ {σ : Type} [AccountStore σ] (d : σ), q.answer around d = (answer, d) := by
  cases q with
  | store call => cases h
  | clock => exact ⟨around.now, hnow, fun _ => rfl⟩
  | salt => exact ⟨around.salt, trivial, fun _ => rfl⟩
  | random => exact ⟨around.random, trivial, fun _ => rfl⟩

end Question

/-- What a table answers to lookups. -/
def MemoryStore.Knows (s : MemoryStore) (l : Lookup) (answer : Except StoreError User) : Prop :=
  answer = l.answer s

namespace Plan

variable {ε ε' α β : Type}

/-- Looks a record up and goes on with the answer. -/
def look (l : Lookup) (next : Except StoreError User → Plan ε α) : Plan ε α :=
  match l with
  | .byId id => .ask (.store (.get id)) next
  | .byName username => .ask (.store (.byUsername username)) next

/-- Performs a write and goes on with the answer. -/
def write (w : Write) (next : Except StoreError User → Plan ε α) : Plan ε α :=
  match w with
  | .create u => .ask (.store (.create u)) next
  | .update id u => .ask (.store (.update id u)) next
  | .delete id => .ask (.store (.delete id)) next

/-- A lookup takes one step, and the plan goes on with its answer. -/
theorem run_look {σ : Type} [AccountStore σ] (l : Lookup)
    (next : Except StoreError User → Plan ε α) (around : Nat → Surroundings) (d : σ) :
    (look l next).run around d =
      (next (l.perform (around 0) d).1).run
        (fun n => around (n + 1)) (l.perform (around 0) d).2 := by
  cases l <;> rfl

/-- So does a write. -/
theorem run_write {σ : Type} [AccountStore σ] (w : Write)
    (next : Except StoreError User → Plan ε α) (around : Nat → Surroundings) (d : σ) :
    (write w next).run around d =
      (next (w.perform (around 0) d).1).run
        (fun n => around (n + 1)) (w.perform (around 0) d).2 := by
  cases w <;> rfl

theorem bind_look (l : Lookup) (next : Except StoreError User → Plan ε α) (f : α → Plan ε β) :
    look l next >>= f = look l fun answer => next answer >>= f := by
  cases l <;> rfl

theorem bind_write (w : Write) (next : Except StoreError User → Plan ε α) (f : α → Plan ε β) :
    write w next >>= f = write w fun answer => next answer >>= f := by
  cases w <;> rfl

/-- Whatever is made of the result, the lookups stay. -/
theorem mapResult_look (l : Lookup) (next : Except StoreError User → Plan ε α)
    (f : Except ε α → Except ε' β) :
    (look l next).mapResult f = look l fun answer => (next answer).mapResult f := by
  cases l <;> rfl

theorem mapResult_write (w : Write) (next : Except StoreError User → Plan ε α)
    (f : Except ε α → Except ε' β) :
    (write w next).mapResult f = write w fun answer => (next answer).mapResult f := by
  cases w <;> rfl

/-- A plan that has failed is not gone on with. -/
theorem run_bind_error {σ : Type} [AccountStore σ] {p : Plan ε α} {e : ε} {d' : σ}
    (f : α → Plan ε β) : ∀ {around : Nat → Surroundings} {d : σ},
      p.run around d = (.error e, d') → (p >>= f).run around d = (.error e, d') := by
  induction p with
  | done r =>
    intro around d h
    cases r with
    | ok a => cases h
    | error e' =>
      cases h
      rfl
  | ask q next ih => exact fun h => ih _ h

/-- A plan that has succeeded is gone on with in the state that it has left. -/
theorem run_bind_ok {σ : Type} [AccountStore σ] {p : Plan ε α} {a : α} {d' : σ}
    (f : α → Plan ε β) : ∀ {around : Nat → Surroundings} {d : σ},
      p.run around d = (.ok a, d') →
        ∃ m, (p >>= f).run around d = (f a).run (fun n => around (n + m)) d' := by
  induction p with
  | done r =>
    intro around d h
    cases r with
    | ok b =>
      cases h
      exact ⟨0, rfl⟩
    | error e => cases h
  | ask q next ih =>
    intro around d h
    obtain ⟨m, hm⟩ := ih _ h
    exact ⟨m + 1, hm⟩

theorem run_mapResult {σ : Type} [AccountStore σ] (f : Except ε α → Except ε' β) (p : Plan ε α) :
    ∀ (around : Nat → Surroundings) (d : σ),
      (p.mapResult f).run around d = (f (p.run around d).1, (p.run around d).2) := by
  induction p with
  | done r => exact fun _ _ => rfl
  | ask q next ih => exact fun around d => ih _ _ _

/-- A plan that asks the store nothing. -/
inductive Outside : Plan ε α → Prop where
  | done (r : Except ε α) : Outside (.done r)
  | asks (q : Question) (next : q.Answer → Plan ε α) (outside : q.isOutside = true)
      (rest : ∀ answer, Outside (next answer)) : Outside (.ask q next)

namespace Outside

theorem run {p : Plan ε α} (h : p.Outside) : ∀ around : Nat → Surroundings,
    ∃ r, ∀ {σ : Type} [AccountStore σ] (d : σ), p.run around d = (r, d) := by
  induction h with
  | done r => exact fun _ => ⟨r, fun _ => rfl⟩
  | asks q next outside _ ih =>
    intro around
    obtain ⟨answer, -, hanswer⟩ :=
      Question.exists_answer (T := fun _ => True) outside (around 0) trivial
    obtain ⟨r, hr⟩ := ih answer fun n => around (n + 1)
    refine ⟨r, fun d => ?_⟩
    rw [Plan.run, hanswer]
    exact hr d

theorem bind {p : Plan ε α} {f : α → Plan ε β} (h : p.Outside) (hf : ∀ a, (f a).Outside) :
    (p >>= f).Outside := by
  induction h with
  | done r =>
    cases r with
    | ok a => exact hf a
    | error e => exact .done (.error e)
  | asks q next outside _ ih => exact .asks q _ outside ih

theorem mapResult {p : Plan ε α} (h : p.Outside) (f : Except ε α → Except ε' β) :
    (p.mapResult f).Outside := by
  induction h with
  | done r => exact .done (f r)
  | asks q next outside _ ih => exact .asks q _ outside ih

end Outside

/-! ## Foreseen plans -/

/-- The store gives the answers that are known. -/
def Answers (K : Lookup → Except StoreError User → Prop) {σ : Type} [AccountStore σ] (d : σ) :
    Prop :=
  ∀ l answer, K l answer → ∀ around, l.perform around d = (answer, d)

/-- A plan that only looks up what is known, and then performs one of the writes at most. -/
inductive Foreseen (K : Lookup → Except StoreError User → Prop) (T : Instant → Prop)
    (W : Write → Prop) : Plan ε α → Prop where
  | done (r : Except ε α) : Foreseen K T W (.done r)
  | asks (q : Question) (next : q.Answer → Plan ε α) (outside : q.isOutside = true)
      (rest : ∀ answer, q.Admits T answer → Foreseen K T W (next answer)) :
      Foreseen K T W (.ask q next)
  | looks (l : Lookup) (next : Except StoreError User → Plan ε α)
      (answer : Except StoreError User) (known : K l answer)
      (rest : Foreseen K T W (next answer)) : Foreseen K T W (look l next)
  | writes (w : Write) (next : Except StoreError User → Plan ε α) (allowed : W w)
      (rest : ∀ answer, (next answer).Outside) : Foreseen K T W (write w next)

namespace Foreseen

variable {K : Lookup → Except StoreError User → Prop} {T : Instant → Prop} {W : Write → Prop}

/-- A foreseen plan ends without a change, with a result that is settled before; or it comes to a
write that is settled before, and the result depends on the answer to it. -/
theorem run {p : Plan ε α} (h : p.Foreseen K T W) : ∀ {around : Nat → Surroundings},
    (∀ n, T (around n).now) →
    (∃ r, ∀ {σ : Type} [AccountStore σ] {d : σ}, Answers K d → p.run around d = (r, d)) ∨
    ∃ (w : Write) (n : Nat) (k : Except StoreError User → Except ε α), W w ∧
      ∀ {σ : Type} [AccountStore σ] {d : σ}, Answers K d →
        p.run around d = (k (w.perform (around n) d).1, (w.perform (around n) d).2) := by
  induction h with
  | done r => exact fun _ => Or.inl ⟨r, fun _ => rfl⟩
  | asks q next outside _ ih =>
    intro around htimes
    obtain ⟨answer, hadmits, hanswer⟩ := Question.exists_answer outside (around 0) (htimes 0)
    have hrun {σ : Type} [AccountStore σ] (d : σ) : (Plan.ask q next).run around d =
        (next answer).run (fun n => around (n + 1)) d := by
      rw [Plan.run, hanswer]
    rcases ih answer hadmits fun n => htimes (n + 1) with ⟨r, hr⟩ | ⟨w, n, k, hw, hk⟩
    · exact Or.inl ⟨r, fun hd => (hrun _).trans (hr hd)⟩
    · exact Or.inr ⟨w, n + 1, k, hw, fun hd => (hrun _).trans (hk hd)⟩
  | looks l next answer known _ ih =>
    intro around htimes
    have hrun {σ : Type} [AccountStore σ] {d : σ} (hd : Answers K d) :
        (look l next).run around d = (next answer).run (fun n => around (n + 1)) d := by
      rw [run_look, hd l answer known]
    rcases ih fun n => htimes (n + 1) with ⟨r, hr⟩ | ⟨w, n, k, hw, hk⟩
    · exact Or.inl ⟨r, fun hd => (hrun hd).trans (hr hd)⟩
    · exact Or.inr ⟨w, n + 1, k, hw, fun hd => (hrun hd).trans (hk hd)⟩
  | writes w next allowed rest =>
    intro around _
    -- After the write, the plan is one that asks no store: its result is that of the answer.
    have hafter (answer : Except StoreError User) := (rest answer).run fun n => around (n + 1)
    obtain ⟨k, hk⟩ := Classical.axiomOfChoice hafter
    refine Or.inr ⟨w, 0, k, allowed, fun _ => ?_⟩
    rw [run_write]
    exact hk _ _

/-- A plan that asks no store is foreseen whatever is known. -/
theorem of_outside {p : Plan ε α} (h : p.Outside) : p.Foreseen K T W := by
  induction h with
  | done r => exact .done r
  | asks q next outside _ ih => exact .asks q next outside fun answer _ => ih answer

theorem bind {p : Plan ε α} {f : α → Plan ε β} (h : p.Foreseen K T W) (hf : ∀ a, (f a).Outside) :
    (p >>= f).Foreseen K T W := by
  induction h with
  | done r =>
    cases r with
    | ok a => exact of_outside (hf a)
    | error e => exact .done (.error e)
  | asks q next outside _ ih => exact .asks q _ outside ih
  | looks l next answer known _ ih =>
    rw [bind_look]
    exact .looks l _ answer known ih
  | writes w next allowed rest =>
    rw [bind_write]
    exact .writes w _ allowed fun answer => (rest answer).bind hf

theorem mapResult {p : Plan ε α} (h : p.Foreseen K T W) (f : Except ε α → Except ε' β) :
    (p.mapResult f).Foreseen K T W := by
  induction h with
  | done r => exact .done (f r)
  | asks q next outside _ ih => exact .asks q _ outside ih
  | looks l next answer known _ ih =>
    rw [mapResult_look]
    exact .looks l _ answer known ih
  | writes w next allowed rest =>
    rw [mapResult_write]
    exact .writes w _ allowed fun answer => (rest answer).mapResult f

end Foreseen

end Plan

end AccountServer
