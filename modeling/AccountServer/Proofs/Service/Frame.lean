import AccountServer.Proofs.Service.AnyStore
import AccountServer.Proofs.Service.Overlap

/-!
# What an operation leaves alone

An operation that fails leaves the store exactly as it was. One that succeeds changes at most one
record, and of that one only the fields that it is there to set (`Operation.owned`) and the time of
modification; `Operation.Frame` says so for each of them. Consulting the service changes nothing.

All of this is read off `Operation.Effect`, which is the same over a store of any kind. Without
connections there is no effect to speak of: every operation fails (`perform_of_closed`).
-/

namespace AccountServer

/-! ## Changes of one record -/

namespace MemoryStore

/-- The record `old` has become `u`, which is kept under the identifier that it has now. Nothing but
some fields and the time of modification differs, and all other records are as before. -/
structure Alters (s : MemoryStore) (old u : User) (fields : List Field) (s' : MemoryStore) :
    Prop where
  found : s.get? old.id = some old
  stored : s'.get? u.id = some u
  same : ∀ f ∉ fields, f.Same u old
  created : u.created = old.created
  moved : u.id ≠ old.id → s.get? u.id = none ∧ s'.get? old.id = none
  others : ∀ id, id ≠ old.id → id ≠ u.id → s'.get? id = s.get? id

/-- The record `u` has come in, whose owner has never logged in or out. All others are as before. -/
structure Gains (s : MemoryStore) (u : User) (s' : MemoryStore) : Prop where
  free : s.get? u.id = none
  name : ∀ v ∈ s.users, v.username ≠ u.username
  lastLogin : u.lastLogin = none
  lastLogout : u.lastLogout = none
  stored : s'.get? u.id = some u
  others : ∀ id, id ≠ u.id → s'.get? id = s.get? id

/-- The record `u` is gone, and all others are as before. -/
structure Loses (s : MemoryStore) (u : User) (s' : MemoryStore) : Prop where
  found : s.get? u.id = some u
  gone : s'.get? u.id = none
  others : ∀ id, id ≠ u.id → s'.get? id = s.get? id

variable {s : MemoryStore} {u : User}

theorem Gains.insert (free : s.get? u.id = none) (name : ∀ v ∈ s.users, v.username ≠ u.username)
    (lastLogin : u.lastLogin = none) (lastLogout : u.lastLogout = none) :
    s.Gains u (s.insert u) where
  free := free
  name := name
  lastLogin := lastLogin
  lastLogout := lastLogout
  stored := by simp
  others id hne := by rw [get?_insert, if_neg hne]

theorem Loses.erase (found : s.get? u.id = some u) : s.Loses u (s.erase u.id) where
  found := found
  gone := by simp
  others id hne := by rw [get?_erase, if_neg hne]

end MemoryStore

/-! ## Operations -/

namespace Operation

/-- What an operation that answered `u` has changed. -/
def Frame (op : Operation) (s : MemoryStore) (u : User) (s' : MemoryStore) : Prop :=
  match op with
  | .login .. | .logout _ | .updateUser .. | .updatePassword .. =>
    ∃ old, op.Names old ∧ s.Alters old u op.owned s'
  | .ensureAdmin username _ =>
    (∃ old, op.Names old ∧ s.Alters old u op.owned s') ∨ u.username = username ∧ s.Gains u s'
  | .createUser username .. => u.username = username ∧ s.Gains u s'
  | .deleteUser text => Uuid.parse? text = some u.id ∧ s.Loses u s'

variable {accounts : Accounts} {op : Operation} {s : MemoryStore}

/-- The store sets the time of modification and puts the time of creation back. -/
theorem Rewrites.alters {old v : User} (h : op.Rewrites accounts old v) (now : Instant)
    (found : s.get? old.id = some old) (vacant : v.id ≠ old.id → s.get? v.id = none) :
    let u : User := { v with created := old.created, modified := now }
    s.Alters old u op.owned ((s.erase old.id).insert u) where
  found := found
  stored := by simp
  same f hf := by
    have hsame : f.Same v old := h.same hf
    cases f <;> exact hsame
  created := rfl
  moved hne := by
    refine ⟨vacant hne, ?_⟩
    simp [Ne.symm hne]
  others id hold hnew := by
    rw [MemoryStore.get?_insert, if_neg hnew, MemoryStore.get?_erase, if_neg hold]

theorem Effect.frame {u : User} {s' : MemoryStore} (he : op.Effect accounts s u s') :
    op.Frame s u s' := by
  cases he with
  | rewrote l old v now hl finds found rewrites vacant stored =>
    subst stored
    have hnames : op.Names old := ⟨l, hl, finds⟩
    have halters := rewrites.alters now found vacant
    cases op with
    | login _ _ | logout _ | updateUser _ _ _ _ _ | updatePassword _ _ =>
      exact ⟨old, hnames, halters⟩
    | ensureAdmin _ _ => exact Or.inl ⟨old, hnames, halters⟩
    | createUser _ _ _ _ | deleteUser _ => exact rewrites.elim
  | registered v id now registers name free stored =>
    subst stored
    cases op with
    | createUser username password email role =>
      obtain ⟨email', salt, hash, -, -, -, -, rfl⟩ := registers
      exact ⟨rfl, .insert free name rfl rfl⟩
    | ensureAdmin username password =>
      obtain ⟨email', salt, hash, -, -, -, -, rfl⟩ := registers
      exact Or.inr ⟨rfl, .insert free name rfl rfl⟩
    | login _ _ | logout _ | updateUser _ _ _ _ _ | updatePassword _ _ | deleteUser _ =>
      exact registers.elim
  | removed text hop hid found =>
    subst hop
    exact ⟨hid, .erase found⟩

end Operation

/-! ## Questions that change nothing -/

/-- A quiet question changes no store of any kind. -/
theorem Backend.answer_quiet {q : Question} (h : q.isQuiet = true) (around : Surroundings)
    (b : Backend) : (q.answer around b).2 = b := by
  cases q with
  | clock | salt | random => rfl
  | store call =>
    cases b with
    | memory m => cases call <;> first | rfl | cases h
    | table t => cases call <;> first | rfl | cases h

/-- What the service can be asked without changing anything. -/
inductive Consultation where
  | getUser (id : String)
  | getUserByUsername (username : String)
  | getAllUsers
  | findUsers (filter : UserFilter)

namespace Consultation

/-- What is answered when all goes well. -/
abbrev Result : Consultation → Type
  | .getUser _ | .getUserByUsername _ => User
  | .getAllUsers | .findUsers _ => List User

def plan : (c : Consultation) → Action c.Result
  | .getUser id => Accounts.getUser id
  | .getUserByUsername username => Accounts.getUserByUsername username
  | .getAllUsers => Accounts.getAllUsers
  | .findUsers filter => Accounts.findUsers filter

theorem run_ask {call : StoreCall} (h : (Question.store call).isQuiet = true)
    (around : Nat → Surroundings) (b : Backend) : ((Accounts.ask call).run around b).2 = b := by
  rw [Operation.ask_eq]
  exact Backend.answer_quiet h (around 0) b

/-- Consulting the service changes nothing, whatever store there is. -/
theorem run_plan (c : Consultation) (around : Nat → Surroundings) (b : Backend) :
    (c.plan.run around b).2 = b := by
  cases c with
  | getUser text =>
    show ((Accounts.argument (Validation.userId text) >>= fun id => Accounts.ask (.get id)).run
      around b).2 = b
    cases Validation.userId text with
    | error e => rfl
    | ok id => exact run_ask rfl around b
  | getUserByUsername _ | getAllUsers | findUsers _ => exact run_ask rfl around b

end Consultation

/-! ## A table without connections -/

namespace TableStore

variable {t : TableStore}

theorem write_of_closed (h : t.isOpen = false) (w : Write) (around : Surroundings) :
    ∃ e, w.perform around t = (.error e, t) := by
  cases w with
  | create u =>
    show ∃ e, t.perform (.create u) around = (.error e, t)
    rw [perform_create, create_eq, h]
    cases u.passwordHash.isEmpty with
    | true => exact ⟨_, rfl⟩
    | false => exact ⟨_, rfl⟩
  | update id u =>
    show ∃ e, t.update around id u = (.error e, t)
    rw [update, overwrite_eq, h]
    cases u.passwordHash.isEmpty with
    | true => exact ⟨_, rfl⟩
    | false => exact ⟨_, rfl⟩
  | delete id =>
    show ∃ e, t.delete id = (.error e, t)
    rw [delete, checkOpen, h]
    exact ⟨_, rfl⟩

theorem answerFrom_of_closed (h : t.isOpen = false) (l : Lookup) :
    ∃ e, l.answerFrom t = .error e := by
  cases l with
  | byId id =>
    show ∃ e, t.get id = .error e
    rw [get, checkOpen, h]
    exact ⟨_, rfl⟩
  | byName username =>
    show ∃ e, t.byUsername username = .error e
    rw [byUsername, checkOpen, h]
    exact ⟨_, rfl⟩

/-- What is left of an operation comes to nothing, at the latest with its write. -/
theorem run_oneWrite_of_closed (h : t.isOpen = false) {sort : StoreError → AccountError}
    {W : Write → Prop} {p : Action User} (hp : p.OneWrite sort W) :
    ∀ around : Nat → Surroundings, ∃ e, p.run around (Backend.table t) = (.error e, .table t) := by
  induction hp with
  | failed e => exact fun _ => ⟨e, rfl⟩
  | asks q next quiet _ ih =>
    intro around
    have hrun : (Plan.ask q next).run around (Backend.table t) =
        (next (q.answer (around 0) (Backend.table t)).1).run (fun n => around (n + 1))
          (q.answer (around 0) (Backend.table t)).2 := rfl
    rw [hrun, Backend.answer_quiet quiet]
    exact ih _ _
  | writes w _ =>
    intro around
    obtain ⟨e, heq⟩ := write_of_closed h w (around 0)
    rw [Write.run_plan, Backend.write_table, heq]
    exact ⟨sort e, rfl⟩

/-- Without connections every operation fails. -/
theorem perform_of_closed (h : t.isOpen = false) (accounts : Accounts) (op : Operation)
    (around : Nat → Surroundings) :
    ∃ e, accounts.perform ⟨op, around⟩ (Backend.table t) = (.error e, .table t) := by
  have hgoes := op.goes accounts
  show ∃ e, (op.plan accounts).run around (Backend.table t) = _
  generalize op.plan accounts = p at hgoes
  cases hgoes with
  | fails e => exact ⟨e, rfl⟩
  | removes text id hop hid =>
    exact run_oneWrite_of_closed h (.writes (W := fun _ => True) _ trivial) around
  | looks l next hl found missing =>
    obtain ⟨e, heq⟩ := answerFrom_of_closed h l
    have hrun : (l.plan next).run around (Backend.table t) =
        (next (l.answerFrom t)).run (fun n => around (n + 1)) (Backend.table t) := by
      cases l <;> rfl
    rw [hrun, heq]
    exact run_oneWrite_of_closed h (missing e) _

end TableStore

/-! ## All or nothing -/

/-- **All or nothing.** Whatever has been done to an empty store, it stands for some records. On any
store that does, an operation fails and leaves it exactly as it was, or it changes the records no
more than its frame allows. On a table without connections every operation fails and changes
nothing. Consulting the service changes nothing at all. -/
theorem operations_all_or_nothing (accounts : Accounts) :
    (∀ (b : Backend) (errands : List Errand), b.Holds .empty → b.KeepsAll errands →
      ∃ s, (accounts.after b errands).Holds s ∧
        ∀ time, (accounts.after b errands).Keeps time ↔ b.Keeps time) ∧
    (∀ (b : Backend) (s : MemoryStore) (op : Operation) (around : Nat → Surroundings), b.Holds s →
      (∀ n, b.Keeps (around n).now) →
      (∀ e b', accounts.perform ⟨op, around⟩ b = (.error e, b') → b' = b) ∧
        ∀ u b', accounts.perform ⟨op, around⟩ b = (.ok u, b') →
          ∃ s', b'.Holds s' ∧ op.Frame s u s') ∧
    (∀ (t : TableStore) (op : Operation) (around : Nat → Surroundings), t.isOpen = false →
      ∃ e, accounts.perform ⟨op, around⟩ (Backend.table t) = (.error e, .table t)) ∧
    ∀ (c : Consultation) (around : Nat → Surroundings) (b : Backend),
      (c.plan.run around b).2 = b := by
  refine ⟨fun b errands hb hclock => hb.exists_after accounts hclock, ?_,
    fun t op around ht => TableStore.perform_of_closed ht accounts op around,
    fun c around b => c.run_plan around b⟩
  intro b s op around hb hclock
  rcases hb.perform_cases accounts op hclock with ⟨e, heq⟩ | ⟨u, b', s', heq, hb', -, heffect⟩
  · rw [heq]
    exact ⟨fun _ _ hfails => (congrArg Prod.snd hfails).symm, fun _ _ hdone => by simp at hdone⟩
  · rw [heq]
    refine ⟨fun _ _ hfails => by simp at hfails, fun v b'' hdone => ?_⟩
    obtain ⟨rfl, rfl⟩ : u = v ∧ b' = b'' := by simpa using hdone
    exact ⟨s', hb', heffect.frame⟩

/-- Alice moves to another identifier and another name in a table where there is also bob. She
cannot take his name. -/
theorem operations_all_or_nothing_on_move :
    let around (id : Nat) : Nat → Surroundings := fun _ =>
      ⟨⟨5, 0, by decide⟩, fun _ => ⟨BitVec.ofNat 128 id⟩, [], 0⟩
    let first := "00000000-0000-0000-0000-000000000001"
    let accounts : Accounts := ⟨.marking⟩
    let errands : List Errand :=
      [⟨.createUser "alice" "one" "" .normal, around 1⟩,
        ⟨.createUser "bob" "two" "" .normal, around 2⟩]
    let b := accounts.after (Backend.table .empty) errands
    let clash : Operation := .updateUser first first "bob" "" .normal
    let move : Operation :=
      .updateUser first "00000000-0000-0000-0000-000000000003" "carol" "" .admin
    (Backend.table .empty).Holds .empty ∧ (Backend.table .empty).KeepsAll errands ∧
      (∃ e, accounts.perform ⟨clash, around 0⟩ b = (.error e, b)) ∧
      ∃ s u b' s', b.Holds s ∧ accounts.perform ⟨move, around 0⟩ b = (.ok u, b') ∧ b'.Holds s' ∧
        move.Frame s u s' ∧ u.id = ⟨3⟩ := by
  intro around first accounts errands b clash move
  have hnow : Instant.Storable ⟨5, 0, by decide⟩ := by decide
  have hclock : (Backend.table .empty).KeepsAll errands := by
    intro errand herrand n
    rcases List.mem_pair.mp herrand with rfl | rfl
    · exact .table _ hnow
    · exact .table _ hnow
  have hempty : (Backend.table .empty).Holds .empty := .table .empty
  obtain ⟨hreached, hframe, -, -⟩ := operations_all_or_nothing accounts
  obtain ⟨s, hs, hsame⟩ := hreached _ errands hempty hclock
  have hkeeps : ∀ n, b.Keeps ((around 0) n).now := fun _ => (hsame _).mpr (.table _ hnow)
  refine ⟨hempty, hclock, ?_, ?_⟩
  · have hfails : (accounts.perform ⟨clash, around 0⟩ b).1.toOption.isSome = false := by
      decide +kernel
    obtain ⟨hclash, -⟩ := hframe b s clash (around 0) hs hkeeps
    generalize accounts.perform ⟨clash, around 0⟩ b = after at hclash hfails
    obtain ⟨result, b'⟩ := after
    cases result with
    | error e => exact ⟨e, congrArg _ (hclash e b' rfl)⟩
    | ok u => cases hfails
  · have hmoves : (accounts.perform ⟨move, around 0⟩ b).1.toOption.map User.id = some ⟨3⟩ := by
      decide +kernel
    obtain ⟨-, hmove⟩ := hframe b s move (around 0) hs hkeeps
    generalize accounts.perform ⟨move, around 0⟩ b = after at hmove hmoves
    obtain ⟨result, b'⟩ := after
    cases result with
    | error e => cases hmoves
    | ok u =>
      obtain ⟨s', hs', hmoved⟩ := hmove u b' rfl
      exact ⟨s, u, b', s', hs, rfl, hs', hmoved, Option.some.inj hmoves⟩

end AccountServer
