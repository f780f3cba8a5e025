import Mathlib.Logic.Function.Basic
import AccountServer.Proofs.Service.Operation

/-!
# Clients at work

Any number of clients carry out operations over one store. A `Moment` is what each of them still
has to do, together with the store, and a `Turn` answers the next question of one client. A list of
turns is an interleaving of the operations; a client that has had no turn yet has not begun.

`Underway` is what can be left of an operation. `turn_cases` says once what a turn does: it changes
nothing, or it is the write of its client and takes effect, or the write is refused. From it follow
the invariant of all clients (`Orderly`) and that who succeeds has written
(`exists_write_of_result`).
-/

namespace AccountServer

/-- One question of one client is answered. -/
structure Turn (ι : Type) where
  client : ι
  around : Surroundings

/-- What every client still has to do, and the store. -/
structure Moment (ι : Type) where
  plans : ι → Action User
  store : MemoryStore

namespace Moment

variable {ι : Type}

/-- Every client is about to begin its operation. -/
def start (accounts : Accounts) (ops : ι → Operation) (s : MemoryStore) : Moment ι :=
  ⟨fun i => (ops i).plan accounts, s⟩

/-- The result of a client that has come to its end. -/
def result? (m : Moment ι) (i : ι) : Option (Except AccountError User) := (m.plans i).result?

theorem result?_eq_some_iff {m : Moment ι} {i : ι} {r : Except AccountError User} :
    m.result? i = some r ↔ m.plans i = .done r := by
  unfold result?
  cases m.plans i with
  | done r' => simp [Plan.result?]
  | ask q next => simp [Plan.result?]

variable [DecidableEq ι]

/-- Answers the next question of a client. -/
def turn (m : Moment ι) (t : Turn ι) : Moment ι :=
  ⟨Function.update m.plans t.client ((m.plans t.client).step t.around m.store).1,
    ((m.plans t.client).step t.around m.store).2⟩

/-- The moment after some turns. -/
def after (m : Moment ι) (turns : List (Turn ι)) : Moment ι := turns.foldl turn m

@[simp] theorem after_nil (m : Moment ι) : m.after [] = m := rfl

@[simp] theorem after_cons (m : Moment ι) (t : Turn ι) (rest : List (Turn ι)) :
    m.after (t :: rest) = (m.turn t).after rest := rfl

@[simp] theorem after_append (m : Moment ι) (turns rest : List (Turn ι)) :
    m.after (turns ++ rest) = (m.after turns).after rest := List.foldl_append

theorem turn_plans_of_ne (m : Moment ι) {t : Turn ι} {i : ι} (h : i ≠ t.client) :
    (m.turn t).plans i = m.plans i := Function.update_of_ne h _ _

/-- What a turn makes of its client and of the store. -/
theorem turn_eq {m : Moment ι} {t : Turn ι} {p : Action User} {s : MemoryStore}
    (h : (m.plans t.client).step t.around m.store = (p, s)) :
    (m.turn t).plans t.client = p ∧ (m.turn t).store = s := by
  unfold turn
  rw [h]
  exact ⟨Function.update_self .., rfl⟩

/-- A turn of a client that is done changes nothing. -/
theorem turn_done {m : Moment ι} {t : Turn ι} {r : Except AccountError User}
    (h : m.plans t.client = .done r) :
    (m.turn t).plans t.client = .done r ∧ (m.turn t).store = m.store :=
  turn_eq (by rw [h]; rfl)

/-- Who has a result keeps it. -/
theorem plans_turn_of_done {m : Moment ι} {i : ι} {r : Except AccountError User}
    (h : m.plans i = .done r) (t : Turn ι) : (m.turn t).plans i = .done r := by
  by_cases hi : i = t.client
  · subst hi
    exact (turn_done h).1
  · rw [m.turn_plans_of_ne hi, h]

theorem plans_after_of_done {i : ι} {r : Except AccountError User} (turns : List (Turn ι)) :
    ∀ {m : Moment ι}, m.plans i = .done r → (m.after turns).plans i = .done r := by
  induction turns with
  | nil => exact fun h => h
  | cons t rest ih => exact fun h => ih (plans_turn_of_done h t)

end Moment

/-! ## What is left of an operation -/

/-- What can be left of an operation: all of it, what comes after its lookup, or nothing after a
success. -/
inductive Operation.Underway (accounts : Accounts) (op : Operation) : Action User → Prop where
  | waiting (p : Action User) (goes : op.Goes accounts p) : Underway accounts op p
  | begun (p : Action User) (s : MemoryStore) (kept : s.WellKept)
      (h : p.OneWrite op.sort (op.Writes accounts s)) : Underway accounts op p
  | succeeded (u : User) : Underway accounts op (.done (.ok u))

namespace Operation

variable {accounts : Accounts} {op : Operation} {p : Action User}

theorem Goes.ne_ok (h : op.Goes accounts p) (u : User) : p ≠ .done (.ok u) := by
  cases h with
  | fails e => intro heq; cases heq
  | removes text id hop hid => intro heq; cases heq
  | looks l next hl found missing => intro heq; cases l <;> cases heq

/-- A question that may change something is the write. -/
theorem Underway.write_of_ask {q : Question} {next : q.Answer → Action User}
    (h : op.Underway accounts (.ask q next)) (hq : q.isQuiet = false) :
    ∃ s w, s.WellKept ∧ op.Writes accounts s w ∧ Plan.ask q next = w.plan op.sort := by
  generalize hp : Plan.ask q next = p at h
  cases h with
  | waiting _ goes =>
    cases goes with
    | fails e => cases hp
    | removes text id hop hid =>
      exact ⟨.empty, .delete id, .empty, .delete text id hop hid, by subst hop; rfl⟩
    | looks l next' hl found missing =>
      cases l <;> cases hp <;> cases hq
  | begun _ s kept h =>
    obtain ⟨w, hwrites, heq⟩ := Plan.OneWrite.write_of_ask (hp ▸ h) hq
    exact ⟨s, w, kept, hwrites, hp ▸ heq⟩
  | succeeded u => cases hp

/-- The next question changes nothing and does not bring success, or it is the write. -/
theorem Underway.step (h : op.Underway accounts p) {s : MemoryStore} (hw : s.WellKept)
    (around : Surroundings) :
    (∃ p', p.step around s = (p', s) ∧ op.Underway accounts p' ∧
      ∀ u, p' = .done (.ok u) → p = .done (.ok u)) ∨
    ∃ s₀ w, s₀.WellKept ∧ op.Writes accounts s₀ w ∧ p = w.plan op.sort := by
  cases h with
  | waiting _ goes =>
    rcases goes.step hw around with ⟨p', hstep, hp'⟩ | ⟨w, hwrites, heq⟩
    · exact Or.inl ⟨p', hstep, .begun p' s hw hp', fun u hu => absurd hu (hp'.ne_ok u)⟩
    · exact Or.inr ⟨s, w, hw, hwrites, heq⟩
  | begun _ s₀ kept h =>
    rcases h.step around s with ⟨p', hstep, hp'⟩ | ⟨w, hwrites, heq⟩
    · exact Or.inl ⟨p', hstep, .begun p' s₀ kept hp', fun u hu => absurd hu (hp'.ne_ok u)⟩
    · exact Or.inr ⟨s₀, w, kept, hwrites, heq⟩
  | succeeded u => exact Or.inl ⟨.done (.ok u), rfl, .succeeded u, fun _ h => h⟩

end Operation

/-! ## What a turn does -/

namespace Moment

variable {ι : Type} [DecidableEq ι] {accounts : Accounts} {ops : ι → Operation} {m : Moment ι}

/-- The write of a client takes effect, and the client has its result; or it is refused and changes
nothing. -/
theorem turn_write {t : Turn ι} {w : Write} {sort : StoreError → AccountError}
    (h : m.plans t.client = w.plan sort) :
    (∃ u, (m.turn t).plans t.client = .done (.ok u) ∧
      m.store.Took t.around.now w u (m.turn t).store) ∨
    ∃ e, (m.turn t).plans t.client = .done (.error (sort e)) ∧ (m.turn t).store = m.store ∧
      m.store.Refuses t.around w e := by
  have hstep := w.step_plan sort t.around m.store
  rw [← h] at hstep
  rcases w.perform_cases t.around m.store with ⟨u, s', heq, htook⟩ | ⟨e, heq, hrefuses⟩
  · obtain ⟨hplan, hstore⟩ := turn_eq (hstep.trans (by rw [heq]))
    exact Or.inl ⟨u, hplan, hstore ▸ htook⟩
  · obtain ⟨hplan, hstore⟩ := turn_eq (hstep.trans (by rw [heq]))
    exact Or.inr ⟨e, hplan, hstore, hrefuses⟩

/-- The store is well kept, and every client carries out its operation. -/
structure Orderly (accounts : Accounts) (ops : ι → Operation) (m : Moment ι) : Prop where
  wellKept : m.store.WellKept
  underway : ∀ i, (ops i).Underway accounts (m.plans i)

namespace Orderly

omit [DecidableEq ι] in
theorem start {s : MemoryStore} (hw : s.WellKept) :
    (Moment.start accounts ops s).Orderly accounts ops :=
  ⟨hw, fun i => .waiting _ ((ops i).goes accounts)⟩

/-- A turn changes nothing and brings no success, or it is the write of its client. -/
theorem turn_cases (h : m.Orderly accounts ops) (t : Turn ι) :
    ((m.turn t).store = m.store ∧
      (ops t.client).Underway accounts ((m.turn t).plans t.client) ∧
      ∀ u, (m.turn t).plans t.client = .done (.ok u) → m.plans t.client = .done (.ok u)) ∨
    ∃ s w, s.WellKept ∧ (ops t.client).Writes accounts s w ∧
      m.plans t.client = w.plan (ops t.client).sort := by
  rcases (h.underway t.client).step h.wellKept t.around with ⟨p, hstep, hp, hok⟩ | hwrite
  · obtain ⟨hplan, hstore⟩ := turn_eq hstep
    exact Or.inl ⟨hstore, hplan ▸ hp, fun u hu => hok u (hplan ▸ hu)⟩
  · exact Or.inr hwrite

theorem turn (h : m.Orderly accounts ops) (t : Turn ι) : (m.turn t).Orderly accounts ops := by
  have hself : (m.turn t).store.WellKept ∧
      (ops t.client).Underway accounts ((m.turn t).plans t.client) := by
    rcases h.turn_cases t with ⟨hstore, hplan, -⟩ | ⟨s, w, -, -, hplan⟩
    · exact ⟨hstore ▸ h.wellKept, hplan⟩
    · rcases turn_write hplan with ⟨u, hok, htook⟩ | ⟨e, herror, hstore, -⟩
      · exact ⟨htook.wellKept h.wellKept, hok ▸ .succeeded u⟩
      · exact ⟨hstore ▸ h.wellKept, herror ▸ .waiting _ (.fails _)⟩
  refine ⟨hself.1, fun i => ?_⟩
  by_cases hi : i = t.client
  · exact hi ▸ hself.2
  · rw [m.turn_plans_of_ne hi]
    exact h.underway i

theorem after (turns : List (Turn ι)) : ∀ {m : Moment ι}, m.Orderly accounts ops →
    (m.after turns).Orderly accounts ops := by
  induction turns with
  | nil => exact fun h => h
  | cons t rest ih => exact fun h => ih (h.turn t)

end Orderly

/-- A client has success only by a turn in which its write took effect. -/
theorem exists_write_of_result {i : ι} {u : User} (turns : List (Turn ι)) :
    ∀ {m : Moment ι}, m.Orderly accounts ops → m.plans i ≠ .done (.ok u) →
      (m.after turns).plans i = .done (.ok u) →
      ∃ before around rest w, turns = before ++ ⟨i, around⟩ :: rest ∧
        (m.after before).plans i = w.plan (ops i).sort ∧
        (m.after before).store.Took around.now w u ((m.after before).turn ⟨i, around⟩).store := by
  induction turns with
  | nil => exact fun _ hnot hend => absurd hend hnot
  | cons t rest ih =>
    intro m h hnot hend
    -- Either success came with this first turn, or the rest of the turns brings it.
    by_cases hnow : (m.turn t).plans i = .done (.ok u)
    · have hi : i = t.client := by
        by_contra hne
        exact hnot (m.turn_plans_of_ne hne ▸ hnow)
      subst hi
      rcases h.turn_cases t with ⟨-, -, hok⟩ | ⟨s, w, -, -, hplan⟩
      · exact absurd (hok u hnow) hnot
      · rcases turn_write hplan with ⟨v, hv, htook⟩ | ⟨e, he, -⟩
        · rw [hv] at hnow
          cases hnow
          exact ⟨[], t.around, rest, w, rfl, hplan, htook⟩
        · rw [he] at hnow
          cases hnow
    · obtain ⟨before, around, rest', w, heq, hplan, htook⟩ := ih (h.turn t) hnow hend
      exact ⟨t :: before, around, rest', w, by rw [heq]; rfl, hplan, htook⟩

end Moment

end AccountServer
