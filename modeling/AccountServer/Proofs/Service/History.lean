import AccountServer.Proofs.Service.Operation

/-!
# One operation after the other

An `Errand` is an operation that is carried out alone, with all that the outside supplies to it. An
`Outcome` is what its caller gets to see. `Effect` says what an operation that has succeeded made of
the store, and an operation that fails has changed nothing (`perform_cases`). So from the outcomes
alone one can keep books about a store without looking into it; `books_kept` shows that they stay
true.
-/

namespace AccountServer

/-- An operation, and what the outside supplies to each of its questions. -/
structure Errand where
  op : Operation
  around : Nat → Surroundings

/-- What came of an errand: the record that was answered, or nothing for a failure. -/
structure Outcome where
  op : Operation
  answer? : Option User

namespace Accounts

variable (accounts : Accounts) {σ : Type} [AccountStore σ]

/-- Carries out an errand. -/
def perform (errand : Errand) (s : σ) : Except AccountError User × σ :=
  (errand.op.plan accounts).run errand.around s

/-- The store after some errands. -/
def after (s : σ) (errands : List Errand) : σ :=
  errands.foldl (fun s errand => (accounts.perform errand s).2) s

/-- What came of some errands. -/
def outcomes (s : σ) : List Errand → List Outcome
  | [] => []
  | errand :: rest =>
    ⟨errand.op, (accounts.perform errand s).1.toOption⟩ ::
      outcomes (accounts.perform errand s).2 rest

@[simp] theorem after_nil (s : σ) : accounts.after s [] = s := rfl

@[simp] theorem after_cons (s : σ) (errand : Errand) (rest : List Errand) :
    accounts.after s (errand :: rest) = accounts.after (accounts.perform errand s).2 rest := rfl

@[simp] theorem after_append (s : σ) (errands rest : List Errand) :
    accounts.after s (errands ++ rest) = accounts.after (accounts.after s errands) rest :=
  List.foldl_append

end Accounts

/-! ## What a success has done -/

namespace Operation

/-- What an operation that answered `u` has made of the store `s`. -/
inductive Effect (accounts : Accounts) (op : Operation) (s : MemoryStore) (u : User) :
    MemoryStore → Prop where
  | rewrote (l : Lookup) (old v : User) (now : Instant) (hl : op.lookup? = some l)
      (finds : l.Finds old) (found : s.get? old.id = some old)
      (rewrites : op.Rewrites accounts old v) (vacant : v.id ≠ old.id → s.get? v.id = none)
      (stored : u = { v with created := old.created, modified := now }) :
      Effect accounts op s u ((s.erase old.id).insert u)
  | registered (v : User) (id : Uuid) (now : Instant) (registers : op.Registers accounts v)
      (name : ∀ w ∈ s.users, w.username ≠ v.username) (free : s.get? id = none)
      (stored : u = { v with id := id, created := now, modified := now }) :
      Effect accounts op s u (s.insert u)
  | removed (text : String) (hop : op = .deleteUser text) (hid : Uuid.parse? text = some u.id)
      (found : s.get? u.id = some u) : Effect accounts op s u (s.erase u.id)

variable {accounts : Accounts} {op : Operation} {s s' : MemoryStore}

/-- A write that an operation may come to has the effect of the operation when it succeeds. -/
theorem Writes.effect (hw : s.WellKept) {w : Write} {u : User} {now : Instant}
    (h : op.Writes accounts s w) (ht : s.Took now w u s') : op.Effect accounts s u s' := by
  cases h with
  | update l old v hl hold finds rewrites =>
    cases ht with
    | replaced _ _ current hash found vacant name =>
      obtain rfl : current = old := by
        have hid : current.id = old.id := (hw.keyed _ (MemoryStore.mem_of_get? found)).symm
        exact List.inj_on_of_nodup_map hw.ids (MemoryStore.mem_users_of_get? found) hold hid
      exact .rewrote l current v now hl finds found rewrites vacant rfl
  | create l v hl missing registers =>
    cases ht with
    | added _ id hash name free => exact .registered v id now registers name free rfl
  | delete text id hop hid =>
    cases ht with
    | removed _ _ found =>
      have hkey : id = u.id := hw.keyed _ (MemoryStore.mem_of_get? found)
      subst hkey
      exact .removed text hop hid found

end Operation

/-- An errand has failed and changed nothing, or it has had its effect. -/
theorem Accounts.perform_cases (accounts : Accounts) (errand : Errand) {s : MemoryStore}
    (hw : s.WellKept) :
    (∃ e, accounts.perform errand s = (.error e, s)) ∨
      ∃ u s', accounts.perform errand s = (.ok u, s') ∧ s'.WellKept ∧
        errand.op.Effect accounts s u s' := by
  rcases errand.op.run_cases accounts hw errand.around with h | ⟨u, s', w, n, heq, hwrites, htook⟩
  · exact Or.inl h
  · exact Or.inr ⟨u, s', heq, htook.wellKept hw, hwrites.effect hw htook⟩

/-- Books that are kept from the outcomes stay true of the store, if a failure and a success both
keep them so. -/
theorem Accounts.books_kept (accounts : Accounts) {β : Type} {record : β → Outcome → β}
    {I : MemoryStore → β → Prop}
    (hfailed : ∀ s b op, I s b → I s (record b ⟨op, none⟩))
    (hdone : ∀ s b op u s', s.WellKept → I s b → op.Effect accounts s u s' →
      I s' (record b ⟨op, some u⟩))
    (errands : List Errand) : ∀ {s : MemoryStore} {b : β}, s.WellKept → I s b →
      I (accounts.after s errands) ((accounts.outcomes s errands).foldl record b) := by
  induction errands with
  | nil => exact fun _ h => h
  | cons errand rest ih =>
    intro s b hw h
    rw [after_cons, outcomes, List.foldl_cons]
    rcases accounts.perform_cases errand hw with ⟨e, heq⟩ | ⟨u, s', heq, hw', heffect⟩
    · rw [heq]
      exact ih hw (hfailed s b errand.op h)
    · rw [heq]
      exact ih hw' (hdone s b errand.op u s' hw h heffect)

theorem Accounts.wellKept_after (accounts : Accounts) (errands : List Errand) {s : MemoryStore}
    (hw : s.WellKept) : (accounts.after s errands).WellKept := by
  induction errands generalizing s with
  | nil => exact hw
  | cons errand rest ih =>
    rw [after_cons]
    rcases accounts.perform_cases errand hw with ⟨e, heq⟩ | ⟨u, s', heq, hw', -⟩
    · exact ih (by rw [heq]; exact hw)
    · exact ih (by rw [heq]; exact hw')

end AccountServer
