import AccountServer.Proofs.Store.Lookup
import AccountServer.Service.Accounts

/-!
# The operations on accounts

`Operation` lists what the service can be asked to do to accounts. All operations go the same way,
which `goes` says once: an operation looks one record up, asks on without changing anything, and
calls the store for a write at most once. With the answer to that write it ends.

* `Write` is a call that changes a store, `Lookup` one that looks for a record.
* `OneWrite` is what is left of an operation after its lookup.
* `Rewrites`, `Registers` and `Goes` say what each operation may write.
-/

namespace AccountServer

/-! ## Questions -/

/-- The plan that performs the call and ends with the answer, its failure put in other words. -/
def Write.plan (sort : StoreError → AccountError) : Write → Action User
  | .create u => .ask (.store (.create u)) fun answer => .done (answer.mapError sort)
  | .update id u => .ask (.store (.update id u)) fun answer => .done (answer.mapError sort)
  | .delete id => .ask (.store (.delete id)) fun answer => .done (answer.mapError sort)

theorem Write.exists_plan_eq (sort : StoreError → AccountError) (w : Write) :
    ∃ next, w.plan sort = .ask (.store w.call) next := by
  cases w <;> exact ⟨_, rfl⟩

/-- A write takes one turn, in which it is done. -/
@[simp] theorem Write.step_plan (sort : StoreError → AccountError) (w : Write)
    (around : Surroundings) (s : MemoryStore) :
    (w.plan sort).step around s =
      (.done ((w.perform around s).1.mapError sort), (w.perform around s).2) := by
  cases w <;> rfl

theorem Write.run_plan {σ : Type} [AccountStore σ] (sort : StoreError → AccountError) (w : Write)
    (around : Nat → Surroundings) (d : σ) :
    (w.plan sort).run around d =
      ((w.perform (around 0) d).1.mapError sort, (w.perform (around 0) d).2) := by
  cases w <;> rfl

/-- The plan that asks for a record and goes on with the answer. -/
def Lookup.plan (next : Except StoreError User → Action User) : Lookup → Action User
  | .byId id => .ask (.store (.get id)) next
  | .byName username => .ask (.store (.byUsername username)) next

/-- A lookup leaves the store as it is. -/
theorem Lookup.run_plan (l : Lookup) (next : Except StoreError User → Action User)
    (around : Nat → Surroundings) (s : MemoryStore) :
    (l.plan next).run around s = (next (l.answer s)).run (fun n => around (n + 1)) s := by
  cases l <;> rfl

/-- Questions whose answering changes no store. -/
def Question.isQuiet : Question → Bool
  | .store (.create _) | .store (.update ..) | .store (.delete _) | .store .close => false
  | _ => true

theorem Question.answer_quiet {q : Question} (h : q.isQuiet = true) (around : Surroundings)
    (s : MemoryStore) : (q.answer around s).2 = s := by
  cases q with
  | store call => cases call <;> first | rfl | cases h
  | clock | salt | random => rfl

/-! ## Plans with one write -/

namespace Plan

/-- A plan that asks questions which change nothing and then, unless it fails, performs one write
and ends with the answer. -/
inductive OneWrite (sort : StoreError → AccountError) (W : Write → Prop) : Action User → Prop where
  | failed (e : AccountError) : OneWrite sort W (.done (.error e))
  | asks (q : Question) (next : q.Answer → Action User) (quiet : q.isQuiet = true)
      (rest : ∀ answer, OneWrite sort W (next answer)) : OneWrite sort W (.ask q next)
  | writes (w : Write) (allowed : W w) : OneWrite sort W (w.plan sort)

namespace OneWrite

variable {sort : StoreError → AccountError} {W : Write → Prop} {α : Type} {f : α → Action User}

theorem mono {W' : Write → Prop} (h : ∀ w, W w → W' w) {p : Action User}
    (hp : p.OneWrite sort W) : p.OneWrite sort W' := by
  induction hp with
  | failed e => exact .failed e
  | asks q next quiet _ ih => exact .asks q next quiet ih
  | writes w allowed => exact .writes w (h w allowed)

theorem ne_ok {p : Action User} (h : p.OneWrite sort W) (u : User) : p ≠ .done (.ok u) := by
  cases h with
  | failed e => intro heq; cases heq
  | asks q next quiet rest => intro heq; cases heq
  | writes w allowed => intro heq; cases w <;> cases heq

/-- The only question that may change the store is the write. -/
theorem write_of_ask {q : Question} {next : q.Answer → Action User}
    (h : (Plan.ask q next).OneWrite sort W) (hq : q.isQuiet = false) :
    ∃ w, W w ∧ Plan.ask q next = w.plan sort := by
  generalize hp : Plan.ask q next = p at h
  cases h with
  | failed e => cases hp
  | asks _ _ quiet _ =>
    cases hp
    rw [quiet] at hq
    cases hq
  | writes w allowed => exact ⟨w, allowed, rfl⟩

/-- The next question changes nothing, or it is the write. -/
theorem step {p : Action User} (h : p.OneWrite sort W) (around : Surroundings)
    (s : MemoryStore) :
    (∃ p', p.step around s = (p', s) ∧ p'.OneWrite sort W) ∨ ∃ w, W w ∧ p = w.plan sort := by
  cases h with
  | failed e => exact Or.inl ⟨.done (.error e), rfl, .failed e⟩
  | asks q next quiet rest =>
    refine Or.inl ⟨next (q.answer around s).1, ?_, rest _⟩
    rw [Plan.step]
    exact congrArg (Prod.mk _) (Question.answer_quiet quiet around s)
  | writes w allowed => exact Or.inr ⟨w, allowed, rfl⟩

/-- Run alone, such a plan fails and changes nothing, or it comes to its write. -/
theorem run {p : Action User} (h : p.OneWrite sort W) (s : MemoryStore) :
    ∀ around : Nat → Surroundings, (∃ e, p.run around s = (.error e, s)) ∨
      ∃ w n, W w ∧ p.run around s =
        ((w.perform (around n) s).1.mapError sort, (w.perform (around n) s).2) := by
  induction h with
  | failed e => exact fun _ => Or.inl ⟨e, rfl⟩
  | asks q next quiet _ ih =>
    intro around
    have hrun : (Plan.ask q next).run around s =
        (next (q.answer (around 0) s).1).run (fun n => around (n + 1)) (q.answer (around 0) s).2 :=
      rfl
    rw [hrun, Question.answer_quiet quiet]
    rcases ih (q.answer (around 0) s).1 fun n => around (n + 1) with h | ⟨w, n, hw, h⟩
    · exact Or.inl h
    · exact Or.inr ⟨w, n + 1, hw, h⟩
  | writes w allowed => exact fun around => Or.inr ⟨w, 0, allowed, w.run_plan sort around s⟩

theorem ite {c : Prop} [Decidable c] {p q : Action User} (hp : p.OneWrite sort W)
    (hq : q.OneWrite sort W) : (if c then p else q).OneWrite sort W := by
  split
  · exact hp
  · exact hq

theorem ofExcept {r : Except AccountError α} (h : ∀ a, r = .ok a → (f a).OneWrite sort W) :
    (Plan.ofExcept r >>= f).OneWrite sort W := by
  cases r with
  | error e => exact .failed e
  | ok a => exact h a rfl

theorem argument {r : Except ArgumentFault α} (h : ∀ a, r = .ok a → (f a).OneWrite sort W) :
    (Accounts.argument r >>= f).OneWrite sort W := by
  cases r with
  | error e => exact .failed (.badArgument e)
  | ok a => exact h a rfl

theorem clock {f : Instant → Action User} (h : ∀ now, (f now).OneWrite sort W) :
    (Plan.clock >>= f).OneWrite sort W :=
  .asks .clock f rfl h

theorem hashPassword {s : Accounts} {password : String} {f : String → Action User}
    (h : ∀ salt hash, s.hasher.hash salt password = .ok hash → (f hash).OneWrite sort W) :
    (s.hashPassword password >>= f).OneWrite sort W := by
  refine .asks .salt _ rfl fun salt => ?_
  refine OneWrite.ofExcept (f := f) fun hash hh => h salt hash ?_
  cases hr : s.hasher.hash salt password with
  | error e => rw [hr] at hh; cases hh
  | ok hash' => rw [hr] at hh; cases hh; rfl

/-- A plan goes on only with a password that has been verified. -/
theorem verifyPassword {s : Accounts} {password stored : String} {f : Unit → Action User}
    (h : s.hasher.verify password stored = .ok () → (f ()).OneWrite sort W) :
    (s.verifyPassword password stored >>= f).OneWrite sort W := by
  unfold Accounts.verifyPassword
  split
  · next hv => exact h hv
  · exact .failed _
  · exact .failed _

theorem ensureUsernameFree {username : String} {f : Unit → Action User}
    (h : (f ()).OneWrite sort W) :
    (Accounts.ensureUsernameFree username >>= f).OneWrite sort W := by
  refine .asks (.store (.byUsername username)) _ rfl fun answer => ?_
  cases answer with
  | ok u => exact .failed _
  | error e => cases e <;> first | exact h | exact .failed _

/-- A record is looked up, of which only counts whether it is there. -/
theorem lookUp_get {id : Uuid} {f : Option User → Action User}
    (h : ∀ found, (f found).OneWrite sort W) :
    (Accounts.lookUp (.get id) >>= f).OneWrite sort W := by
  refine .asks (.store (.get id)) _ rfl fun answer => ?_
  cases answer with
  | ok u => exact h (some u)
  | error e => cases e <;> first | exact h none | exact .failed _

end OneWrite

end Plan

/-! ## Operations -/

/-- What the service can be asked to do to accounts. -/
inductive Operation where
  | login (username password : String)
  | logout (id : Uuid)
  | createUser (username password email : String) (role : Role)
  | updateUser (currentId newId username email : String) (role : Role)
  | updatePassword (id password : String)
  | deleteUser (id : String)
  | ensureAdmin (username password : String)

namespace Operation

variable (accounts : Accounts)

/-- The plan of an operation. -/
def plan : Operation → Action User
  | .login username password => accounts.login username password
  | .logout id => Accounts.logout id
  | .createUser username password email role => accounts.createUser username password email role
  | .updateUser currentId newId username email role =>
    Accounts.updateUser currentId newId username email role
  | .updatePassword id password => accounts.updatePassword id password
  | .deleteUser id => Accounts.deleteUser id
  | .ensureAdmin username password => accounts.ensureAdmin username password

/-- How the failure of the write is put to the caller. -/
def sort : Operation → StoreError → AccountError
  | .login .. | .logout _ => fun e => .store (.store e)
  | _ => .ofStore

/-- What the operation looks up first; nothing if what it is to look for is no identifier. -/
def lookup? : Operation → Option Lookup
  | .login username _ | .createUser username .. | .ensureAdmin username _ => some (.byName username)
  | .logout id => some (.byId id)
  | .updateUser id .. | .updatePassword id _ => (Uuid.parse? id).map .byId
  | .deleteUser _ => none

/-- What the operation makes of the record that it has looked up. -/
def Rewrites : Operation → User → User → Prop
  | .login _ password, u, v =>
    accounts.hasher.verify password u.passwordHash = .ok () ∧
      ∃ now : Instant, v = { u with lastLogin := some now }
  | .logout _, u, v => ∃ now : Instant, v = { u with lastLogout := some now }
  | .updateUser _ newId username email role, u, v =>
    ∃ id email', Validation.username username = .ok () ∧
      Validation.optionalEmail email = .ok email' ∧ Uuid.parse? newId = some id ∧
      v = { u with id := id, username := username, email := email', role := role }
  | .updatePassword _ password, u, v =>
    Validation.password password = .ok () ∧ ∃ salt hash,
      accounts.hasher.hash salt password = .ok hash ∧ v = { u with passwordHash := hash }
  | .ensureAdmin _ password, u, v =>
    Validation.password password = .ok () ∧ ∃ salt hash,
      accounts.hasher.hash salt password = .ok hash ∧
      v = { u with role := .admin, passwordHash := hash }
  | .createUser .., _, _ | .deleteUser _, _, _ => False

/-- The record of a new user. -/
def Drafts (username password email : String) (role : Role) (u : User) : Prop :=
  ∃ email' salt hash, Validation.username username = .ok () ∧
    Validation.password password = .ok () ∧ Validation.optionalEmail email = .ok email' ∧
    accounts.hasher.hash salt password = .ok hash ∧ u = .draft username hash role email'

/-- The record that the operation takes in when its lookup finds nothing. -/
def Registers : Operation → User → Prop
  | .createUser username password email role, u => Drafts accounts username password email role u
  | .ensureAdmin username password, u => Drafts accounts username password "" .admin u
  | _, _ => False

/-- How an operation goes: it fails at once, it removes a user, or it looks a record up. Then it
writes what it has made of that record, or a new record if there is none. -/
inductive Goes (op : Operation) : Action User → Prop where
  | fails (e : AccountError) : Goes op (.done (.error e))
  | removes (text : String) (id : Uuid) (hop : op = .deleteUser text)
      (hid : Uuid.parse? text = some id) : Goes op ((Write.delete id).plan .ofStore)
  | looks (l : Lookup) (next : Except StoreError User → Action User) (hl : op.lookup? = some l)
      (found : ∀ u, l.Finds u →
        (next (.ok u)).OneWrite op.sort fun w => ∃ v, w = .update u.id v ∧ op.Rewrites accounts u v)
      (missing : ∀ e,
        (next (.error e)).OneWrite op.sort fun w => ∃ u, w = .create u ∧ op.Registers accounts u) :
      Goes op (l.plan next)

namespace Goes

variable {accounts : Accounts} {op : Operation} {α : Type}

theorem argument {r : Except ArgumentFault α} {f : α → Action User}
    (h : ∀ a, r = .ok a → Goes accounts op (f a)) :
    Goes accounts op (Accounts.argument r >>= f) := by
  cases r with
  | error e => exact .fails (.badArgument e)
  | ok a => exact h a rfl

/-- The lookup of an operation decides whether a record is rewritten or a new one comes in. -/
theorem lookUp {username : String} {f : Option User → Action User}
    (hl : op.lookup? = some (.byName username))
    (found : ∀ u, u.username = username → (f (some u)).OneWrite op.sort fun w =>
      ∃ v, w = .update u.id v ∧ op.Rewrites accounts u v)
    (missing : (f none).OneWrite op.sort fun w =>
      ∃ u, w = .create u ∧ op.Registers accounts u) :
    Goes accounts op (Accounts.lookUp (.byUsername username) >>= f) := by
  refine .looks (.byName username) _ hl (fun u hu => found u hu) fun e => ?_
  cases e <;> first | exact missing | exact .failed _

theorem ask {id : Uuid} {f : User → Action User} (hl : op.lookup? = some (.byId id))
    (found : ∀ u, u.id = id → (f u).OneWrite op.sort fun w =>
      ∃ v, w = .update u.id v ∧ op.Rewrites accounts u v) :
    Goes accounts op (Accounts.ask (.get id) >>= f) :=
  .looks (.byId id) _ hl (fun u hu => found u hu) fun _ => .failed _

theorem ensureUsernameFree {username : String} {f : Unit → Action User}
    (hl : op.lookup? = some (.byName username))
    (missing : (f ()).OneWrite op.sort fun w => ∃ u, w = .create u ∧ op.Registers accounts u) :
    Goes accounts op (Accounts.ensureUsernameFree username >>= f) := by
  refine .looks (.byName username) _ hl (fun u _ => .failed _) fun e => ?_
  cases e <;> first | exact missing | exact .failed _

end Goes

/-! ## Every operation -/

theorem ask_eq (call : StoreCall) :
    Accounts.ask call = .ask (.store call) fun answer => .done (answer.mapError .ofStore) :=
  congrArg (Plan.ask _) (funext fun answer => by cases answer <;> rfl)

theorem demand_eq (call : StoreCall) :
    Accounts.demand call =
      .ask (.store call) fun answer => .done (answer.mapError fun e => .store (.store e)) :=
  congrArg (Plan.ask _) (funext fun answer => by cases answer <;> rfl)

theorem userId_eq_ok {text : String} {id : Uuid} (h : Validation.userId text = .ok id) :
    Uuid.parse? text = some id := by
  unfold Validation.userId at h
  split at h
  · next hp => rw [hp, Except.ok.inj h]
  · cases h

/-- What is left of a registration once the name is known to be free. -/
theorem registers (username password email : String) (role : Role) {email' : Option String}
    (hname : Validation.username username = .ok ())
    (hpassword : Validation.password password = .ok ())
    (hemail : Validation.optionalEmail email = .ok email') :
    (accounts.hashPassword password >>= fun hash =>
      Accounts.ask (.create (.draft username hash role email'))).OneWrite .ofStore
      fun w => ∃ u, w = .create u ∧ Drafts accounts username password email role u := by
  refine .hashPassword fun salt hash hh => ?_
  rw [ask_eq]
  exact .writes (.create _) ⟨_, rfl, email', salt, hash, hname, hpassword, hemail, hh, rfl⟩

theorem createUser_oneWrite (username password email : String) (role : Role) :
    (accounts.createUser username password email role).OneWrite .ofStore
      fun w => ∃ u, w = .create u ∧ Drafts accounts username password email role u := by
  refine .argument fun _ hname => .argument fun _ hpassword => .argument fun email' hemail => ?_
  exact .ensureUsernameFree (registers accounts username password email role hname hpassword hemail)

/-- Every operation goes that way. -/
theorem goes (op : Operation) : Goes accounts op (op.plan accounts) := by
  cases op with
  | login username password =>
    refine .lookUp rfl (fun u _ => ?_) (.failed _)
    refine .verifyPassword fun hv => .clock fun now => ?_
    rw [demand_eq]
    exact .writes (.update _ _) ⟨_, rfl, hv, now, rfl⟩
  | logout id =>
    refine .ask rfl fun u hu => .clock fun now => ?_
    rw [demand_eq, ← hu]
    exact .writes (.update _ _) ⟨_, rfl, now, rfl⟩
  | createUser username password email role =>
    refine .argument fun _ hname => .argument fun _ hpassword => .argument fun email' hemail => ?_
    exact .ensureUsernameFree rfl
      (registers accounts username password email role hname hpassword hemail)
  | updateUser currentId newId username email role =>
    refine .argument fun _ hname => .argument fun email' hemail => .argument fun id hid =>
      .argument fun new hnew => ?_
    refine .ask (by rw [lookup?, userId_eq_ok hid]; rfl) fun u hu => ?_
    have hwrite : (Accounts.ask (.update id { u with
        id := new, username, email := email', role })).OneWrite .ofStore
        fun w => ∃ v, w = .update u.id v ∧
          (updateUser currentId newId username email role).Rewrites accounts u v := by
      rw [ask_eq, ← hu]
      exact .writes (.update _ _) ⟨_, rfl, new, email', hname, hemail, userId_eq_ok hnew, rfl⟩
    -- Each of the two tests on the way to the write is made only if something is to change.
    dsimp only
    refine .ite (.lookUp_get fun found => .ite (.failed _) ?_) ?_
    · exact .ite (.ensureUsernameFree hwrite) hwrite
    · exact .ite (.ensureUsernameFree hwrite) hwrite
  | updatePassword id password =>
    refine .argument fun _ hpassword => .argument fun id' hid => ?_
    refine .ask (by rw [lookup?, userId_eq_ok hid]; rfl) fun u hu => ?_
    refine .hashPassword fun salt hash hh => ?_
    rw [ask_eq, ← hu]
    exact .writes (.update _ _) ⟨_, rfl, hpassword, salt, hash, hh, rfl⟩
  | deleteUser id =>
    refine .argument fun id' hid => ?_
    rw [ask_eq]
    exact .removes id id' rfl (userId_eq_ok hid)
  | ensureAdmin username password =>
    refine .lookUp rfl (fun u _ => ?_) (createUser_oneWrite accounts username password "" .admin)
    refine .argument fun _ hpassword => .hashPassword fun salt hash hh => ?_
    rw [ask_eq]
    exact .writes (.update _ _) ⟨_, rfl, hpassword, salt, hash, hh, rfl⟩

/-! ## What an operation comes to -/

variable {accounts} in
/-- The password hash stays, or it is one that the hasher has made. -/
theorem Rewrites.passwordHash {op : Operation} {u v : User} (h : op.Rewrites accounts u v) :
    v.passwordHash = u.passwordHash ∨
      ∃ salt password, accounts.hasher.hash salt password = .ok v.passwordHash := by
  cases op with
  | login username password =>
    obtain ⟨-, now, rfl⟩ := h
    exact Or.inl rfl
  | logout id =>
    obtain ⟨now, rfl⟩ := h
    exact Or.inl rfl
  | updateUser currentId newId username email role =>
    obtain ⟨id, email', -, -, -, rfl⟩ := h
    exact Or.inl rfl
  | updatePassword id password =>
    obtain ⟨-, salt, hash, heq, rfl⟩ := h
    exact Or.inr ⟨salt, password, heq⟩
  | ensureAdmin username password =>
    obtain ⟨-, salt, hash, heq, rfl⟩ := h
    exact Or.inr ⟨salt, password, heq⟩
  | createUser _ _ _ _ | deleteUser _ => exact h.elim

variable {accounts} in
theorem Registers.passwordHash {op : Operation} {u : User} (h : op.Registers accounts u) :
    ∃ salt password, accounts.hasher.hash salt password = .ok u.passwordHash := by
  cases op with
  | createUser username password email role =>
    obtain ⟨email', salt, hash, -, -, -, heq, rfl⟩ := h
    exact ⟨salt, password, heq⟩
  | ensureAdmin username password =>
    obtain ⟨email', salt, hash, -, -, -, heq, rfl⟩ := h
    exact ⟨salt, password, heq⟩
  | login _ _ | logout _ | updateUser _ _ _ _ _ | updatePassword _ _ | deleteUser _ => exact h.elim

/-- What the operation may write after a lookup in this table. -/
inductive Writes (op : Operation) (s : MemoryStore) : Write → Prop where
  | update (l : Lookup) (u v : User) (hl : op.lookup? = some l) (hu : u ∈ s.users)
      (finds : l.Finds u) (rewrites : op.Rewrites accounts u v) : Writes op s (.update u.id v)
  | create (l : Lookup) (u : User) (hl : op.lookup? = some l)
      (missing : ∀ v ∈ s.users, ¬ l.Finds v) (registers : op.Registers accounts u) :
      Writes op s (.create u)
  | delete (text : String) (id : Uuid) (hop : op = .deleteUser text)
      (hid : Uuid.parse? text = some id) : Writes op s (.delete id)

variable {accounts} {op : Operation} {p : Action User} {s : MemoryStore}

/-- An operation that has not begun either has only its write left, or its first question changes
nothing. -/
theorem Goes.cases (h : Goes accounts op p) (hw : s.WellKept) :
    p.OneWrite op.sort (op.Writes accounts s) ∨ ∃ l next, p = Lookup.plan next l ∧
      (next (l.answer s)).OneWrite op.sort (op.Writes accounts s) := by
  cases h with
  | fails e => exact Or.inl (.failed e)
  | removes text id hop hid =>
    subst hop
    exact Or.inl (.writes _ (.delete text id rfl hid))
  | looks l next hl found missing =>
    refine Or.inr ⟨l, next, rfl, ?_⟩
    rcases l.answer_eq hw with ⟨u, hu, hf, heq⟩ | ⟨hnone, heq⟩
    · rw [heq]
      refine (found u hf).mono ?_
      rintro w ⟨v, rfl, hv⟩
      exact .update l u v hl hu hf hv
    · rw [heq]
      refine (missing .notFound).mono ?_
      rintro w ⟨u, rfl, hu⟩
      exact .create l u hl hnone hu

/-- The first question of an operation changes nothing, or it is the write. -/
theorem Goes.step (h : Goes accounts op p) (hw : s.WellKept) (around : Surroundings) :
    (∃ p', p.step around s = (p', s) ∧ p'.OneWrite op.sort (op.Writes accounts s)) ∨
      ∃ w, op.Writes accounts s w ∧ p = w.plan op.sort := by
  rcases h.cases hw with h | ⟨l, next, rfl, hnext⟩
  · exact h.step around s
  · exact Or.inl ⟨next (l.answer s), by cases l <;> rfl, hnext⟩

/-- An operation that is run alone fails and changes nothing, or it comes to its write. -/
theorem Goes.run (h : Goes accounts op p) (hw : s.WellKept) (around : Nat → Surroundings) :
    (∃ e, p.run around s = (.error e, s)) ∨
      ∃ w n, op.Writes accounts s w ∧ p.run around s =
        ((w.perform (around n) s).1.mapError op.sort, (w.perform (around n) s).2) := by
  rcases h.cases hw with h | ⟨l, next, rfl, hnext⟩
  · exact h.run s around
  · rw [l.run_plan]
    rcases hnext.run s fun n => around (n + 1) with h | ⟨w, n, hw, h⟩
    · exact Or.inl h
    · exact Or.inr ⟨w, n + 1, hw, h⟩

/-- What an operation that is run alone has done: its write if it succeeds, else nothing. -/
theorem run_cases (accounts : Accounts) (op : Operation) (hw : s.WellKept)
    (around : Nat → Surroundings) :
    (∃ e, (op.plan accounts).run around s = (.error e, s)) ∨
      ∃ u s' w n, (op.plan accounts).run around s = (.ok u, s') ∧ op.Writes accounts s w ∧
        s.Took (around n).now w u s' := by
  rcases (op.goes accounts).run hw around with h | ⟨w, n, hw', h⟩
  · exact Or.inl h
  · rcases w.perform_cases (around n) s with ⟨u, s', heq, htook⟩ | ⟨e, heq, -⟩
    · exact Or.inr ⟨u, s', w, n, by rw [h, heq]; rfl, hw', htook⟩
    · exact Or.inl ⟨op.sort e, by rw [h, heq]; rfl⟩

end Operation

end AccountServer
