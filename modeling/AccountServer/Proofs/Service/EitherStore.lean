import AccountServer.Proofs.Service.History
import AccountServer.Proofs.Store.Lockstep

/-!
# The service over either store

An operation does not know what store it works on. If the rows of a table mirror the records in
memory, it comes to the same result over both, and they mirror each other afterwards
(`Mirrors.run`). So whatever happens to the one store happens to the other (`Mirrors.after`).

`Portable` is what makes this work: a plan that looks records up, makes what it writes of storable
times and tells its caller of a refused write no more than its kind.
-/

namespace AccountServer

/-- Whether two results are the same to the caller. Of a failure only the kind is compared. -/
def SameResult {α : Type} : Except AccountError α → Except AccountError α → Prop
  | .ok a, .ok b => a = b
  | .error e, .error e' => e.name = e'.name
  | _, _ => False

namespace SameResult

variable {α : Type} {r r' : Except AccountError α}

theorem refl (r : Except AccountError α) : SameResult r r := by
  cases r <;> rfl

/-- Who only looks at successes cannot tell the same results apart. -/
theorem toOption_eq (h : SameResult r r') : r.toOption = r'.toOption := by
  cases r with
  | ok a =>
    cases r' with
    | ok b => exact congrArg some h
    | error e => exact h.elim
  | error e =>
    cases r' with
    | ok b => exact h.elim
    | error e' => rfl

theorem eq_of_ok {a : α} (h : SameResult (.ok a) r) : r = .ok a := by
  cases r with
  | ok b => exact congrArg Except.ok (Eq.symm h)
  | error e => exact h.elim

/-- There is only one failure of this kind. -/
theorem eq_of_badCredentials (h : SameResult (.error .badCredentials) r) :
    r = .error .badCredentials := by
  cases r with
  | ok b => exact h.elim
  | error e => cases e <;> first | rfl | exact absurd h (by simp [SameResult, AccountError.name])

theorem mapError {a b : Except StoreError α} {sort : StoreError → AccountError}
    (hsort : ∀ e e', e.kind = e'.kind → (sort e).name = (sort e').name) (h : Agree a b) :
    SameResult (a.mapError sort) (b.mapError sort) := by
  cases a with
  | ok a =>
    cases b with
    | ok b => exact h
    | error e => exact h.elim
  | error e =>
    cases b with
    | ok b => exact h.elim
    | error e' => exact hsort e e' h.1

end SameResult

/-! ## Calls -/

/-- The record that a write hands to the store has storable times of login and logout. -/
def Write.Storable : Write → Prop
  | .create u | .update _ u =>
    (∀ t, u.lastLogin = some t → t.Storable) ∧ ∀ t, u.lastLogout = some t → t.Storable
  | .delete _ => True

/-- Whether the write draws an identifier. -/
def Write.draws : Write → Bool
  | .create _ => true
  | .update .. | .delete _ => false

/-- What a table answers to a lookup. -/
def Lookup.answerFrom (t : TableStore) : Lookup → Except StoreError User
  | .byId id => t.get id
  | .byName username => t.byUsername username

/-- The surroundings suit both stores: the clock shows storable times, and if identifiers are drawn,
the first one is free. -/
structure MemoryStore.Suits (s : MemoryStore) (draws : Bool) (around : Nat → Surroundings) :
    Prop where
  times : ∀ n, (around n).now.Storable
  fresh : draws = true → ∀ n, s.get? ((around n).draws 0) = none

namespace Mirrors

variable {t : TableStore} {s : MemoryStore}

/-- A lookup finds a storable record in both stores, or none in either. -/
theorem lookup (h : Mirrors t s) (l : Lookup) :
    (∃ u, u.Storable ∧ l.answer s = .ok u ∧ l.answerFrom t = .ok u) ∨
      l.answer s = .error .notFound ∧ l.answerFrom t = .error .notFound := by
  have hagree : Agree (l.answer s) (l.answerFrom t) := by
    cases l with
    | byId id => exact h.get id
    | byName username => exact h.byUsername username
  rcases l.answer_eq h.wellKept with ⟨u, hu, -, heq⟩ | ⟨-, heq⟩
  · rw [heq] at hagree ⊢
    refine Or.inl ⟨u, h.storable u hu, rfl, ?_⟩
    cases hanswer : l.answerFrom t with
    | ok v =>
      rw [hanswer] at hagree
      exact congrArg Except.ok (Eq.symm hagree)
    | error e =>
      rw [hanswer] at hagree
      exact hagree.elim
  · rw [heq] at hagree ⊢
    refine Or.inr ⟨rfl, ?_⟩
    cases hanswer : l.answerFrom t with
    | ok v =>
      rw [hanswer] at hagree
      exact hagree.elim
    | error e =>
      rw [hanswer] at hagree
      obtain ⟨hkind, -⟩ := hagree
      cases e <;> first | rfl | cases hkind

theorem answerFrom_eq (h : Mirrors t s) (l : Lookup) : l.answerFrom t = l.answer s := by
  rcases h.lookup l with ⟨u, -, hs, ht⟩ | ⟨hs, ht⟩ <;> rw [hs, ht]

/-- A write comes to the same in both stores if it is of storable times and draws what is free. -/
theorem write (h : Mirrors t s) {w : Write} (hw : w.Storable) {around : Surroundings}
    (hnow : around.now.Storable) (fresh : w.draws = true → s.get? (around.draws 0) = none) :
    Matched (w.perform around s) (w.perform around t) := by
  cases w with
  | create u => exact h.create (fresh rfl) ⟨hnow, hnow, hw.1, hw.2⟩
  | update id u => exact h.update fun created hcreated => ⟨hcreated, hnow, hw.1, hw.2⟩
  | delete id => exact h.delete id around

end Mirrors

/-! ## Plans -/

namespace Plan

/-- A plan that comes to the same over both stores. It draws identifiers only if it says so. -/
inductive Portable (draws : Bool) : Action User → Prop where
  | done (r : Except AccountError User) : Portable draws (.done r)
  | looks (l : Lookup) (next : Except StoreError User → Action User)
      (found : ∀ u, u.Storable → Portable draws (next (.ok u)))
      (missing : Portable draws (next (.error .notFound))) : Portable draws (l.plan next)
  | asksClock (next : Instant → Action User)
      (rest : ∀ now, now.Storable → Portable draws (next now)) : Portable draws (.ask .clock next)
  | asksSalt (next : List UInt8 → Action User) (rest : ∀ salt, Portable draws (next salt)) :
      Portable draws (.ask .salt next)
  | writes (sort : StoreError → AccountError)
      (hsort : ∀ e e', e.kind = e'.kind → (sort e).name = (sort e').name) (w : Write)
      (storable : w.Storable) (hdraws : w.draws = true → draws = true) :
      Portable draws (w.plan sort)

/-- Over stores that mirror each other a portable plan has the same result, and they mirror each
other afterwards. What is around may differ as long as both take its writes alike. -/
theorem Portable.run_of_matched {draws : Bool} {p : Action User} (hp : p.Portable draws)
    {t : TableStore} {s : MemoryStore} (h : Mirrors t s) :
    ∀ {around around' : Nat → Surroundings}, (∀ n, (around n).now.Storable) →
      (∀ n, (around' n).now = (around n).now) → (∀ n, (around' n).salt = (around n).salt) →
      (∀ n (w : Write), w.Storable → (w.draws = true → draws = true) →
        Matched (w.perform (around' n) s) (w.perform (around n) t)) →
      SameResult (p.run around' s).1 (p.run around t).1 ∧
        Mirrors (p.run around t).2 (p.run around' s).2 := by
  induction hp with
  | done r => exact fun _ _ _ _ => ⟨.refl r, h⟩
  | looks l next _ _ hfound hmissing =>
    intro around around' htimes hnow hsalt hmatched
    have hrun : (l.plan next).run around t =
        (next (l.answerFrom t)).run (fun n => around (n + 1)) t := by
      cases l <;> rfl
    rw [l.run_plan, hrun]
    have hnext (n : Nat) := hmatched (n + 1)
    rcases h.lookup l with ⟨u, hu, hs, ht⟩ | ⟨hs, ht⟩
    · rw [hs, ht]
      exact hfound u hu (fun n => htimes _) (fun n => hnow _) (fun n => hsalt _) hnext
    · rw [hs, ht]
      exact hmissing (fun n => htimes _) (fun n => hnow _) (fun n => hsalt _) hnext
  | asksClock next _ ih =>
    intro around around' htimes hnow hsalt hmatched
    show SameResult ((next (around' 0).now).run _ s).1 ((next (around 0).now).run _ t).1 ∧
      Mirrors ((next (around 0).now).run _ t).2 ((next (around' 0).now).run _ s).2
    rw [hnow 0]
    exact ih _ (htimes 0) (fun n => htimes _) (fun n => hnow _) (fun n => hsalt _)
      fun n => hmatched (n + 1)
  | asksSalt next _ ih =>
    intro around around' htimes hnow hsalt hmatched
    show SameResult ((next (around' 0).salt).run _ s).1 ((next (around 0).salt).run _ t).1 ∧
      Mirrors ((next (around 0).salt).run _ t).2 ((next (around' 0).salt).run _ s).2
    rw [hsalt 0]
    exact ih _ (fun n => htimes _) (fun n => hnow _) (fun n => hsalt _) fun n => hmatched (n + 1)
  | writes sort hsort w hw hdraws =>
    intro around around' _ _ _ hmatched
    -- The write is the only step in which the stores could part.
    obtain ⟨hagree, hmirrors⟩ := hmatched 0 w hw hdraws
    rw [w.run_plan, w.run_plan]
    exact ⟨.mapError hsort hagree, hmirrors⟩

/-- In surroundings that suit both stores a portable plan comes to the same over them. -/
theorem Portable.run {draws : Bool} {p : Action User} (hp : p.Portable draws) {t : TableStore}
    {s : MemoryStore} (h : Mirrors t s) {around : Nat → Surroundings}
    (hsuits : s.Suits draws around) :
    SameResult (p.run around s).1 (p.run around t).1 ∧
      Mirrors (p.run around t).2 (p.run around s).2 :=
  hp.run_of_matched h hsuits.times (fun _ => rfl) (fun _ => rfl) fun n _ hw hdraws =>
    h.write hw (hsuits.times n) fun hcreates => hsuits.fresh (hdraws hcreates) n

/-! ## The pieces of an operation -/

namespace Portable

variable {draws : Bool} {accounts : Accounts} {α : Type} {f : α → Action User}

theorem ite {c : Prop} [Decidable c] {p q : Action User} (hp : p.Portable draws)
    (hq : q.Portable draws) : (if c then p else q).Portable draws := by
  split
  · exact hp
  · exact hq

/-- What is computed without the store is the same over both. -/
theorem ofExcept (r : Except AccountError α) (h : ∀ a, (f a).Portable draws) :
    (Plan.ofExcept r >>= f).Portable draws := by
  cases r with
  | error e => exact .done (.error e)
  | ok a => exact h a

theorem argument (r : Except ArgumentFault α) (h : ∀ a, (f a).Portable draws) :
    (Accounts.argument r >>= f).Portable draws :=
  .ofExcept _ h

theorem hashPassword (password : String) {f : String → Action User}
    (h : ∀ hash, (f hash).Portable draws) : (accounts.hashPassword password >>= f).Portable draws :=
  .asksSalt _ fun _ => .ofExcept _ h

theorem clock {f : Instant → Action User} (h : ∀ now, now.Storable → (f now).Portable draws) :
    (Plan.clock >>= f).Portable draws :=
  .asksClock _ h

theorem verifyPassword (password stored : String) {f : Unit → Action User}
    (h : (f ()).Portable draws) :
    (accounts.verifyPassword password stored >>= f).Portable draws := by
  unfold Accounts.verifyPassword
  split
  · exact h
  · exact .done _
  · exact .done _

/-- Whoever is asked for by identifier is the same in both stores. -/
theorem ask (id : Uuid) {f : User → Action User} (h : ∀ u, u.Storable → (f u).Portable draws) :
    (Accounts.ask (.get id) >>= f).Portable draws :=
  .looks (.byId id) _ h (.done _)

theorem lookUp_get (id : Uuid) {f : Option User → Action User}
    (h : ∀ found, (f found).Portable draws) : (Accounts.lookUp (.get id) >>= f).Portable draws :=
  .looks (.byId id) _ (fun u _ => h (some u)) (h none)

theorem lookUp_byUsername (username : String) {f : Option User → Action User}
    (found : ∀ u, u.Storable → (f (some u)).Portable draws) (missing : (f none).Portable draws) :
    (Accounts.lookUp (.byUsername username) >>= f).Portable draws :=
  .looks (.byName username) _ found missing

/-- A name is free in both stores or in neither. -/
theorem ensureUsernameFree (username : String) {f : Unit → Action User}
    (h : (f ()).Portable draws) : (Accounts.ensureUsernameFree username >>= f).Portable draws :=
  .looks (.byName username) _ (fun _ _ => .done _) h

/-- What a caller is told of a failure of the store depends on its kind alone. -/
theorem sorted {e e' : StoreError} (h : e.kind = e'.kind) :
    (AccountError.ofStore e).name = (AccountError.ofStore e').name := by
  cases e <;> cases e' <;> first | rfl | cases h

/-- A write whose failure the caller is told. -/
theorem asked (w : Write) (hw : w.Storable) (hdraws : w.draws = true → draws = true) :
    (w.plan .ofStore).Portable draws :=
  .writes .ofStore (fun _ _ => sorted) w hw hdraws

/-- A write whose failure is the server's own. -/
theorem demanded (w : Write) (hw : w.Storable) (hdraws : w.draws = true → draws = true) :
    (w.plan fun e => .store (.store e)).Portable draws :=
  .writes _ (fun _ _ _ => rfl) w hw hdraws

end Portable

end Plan

/-! ## Operations -/

theorem Accounts.createUser_portable (accounts : Accounts) (username password email : String)
    (role : Role) : (accounts.createUser username password email role).Portable true := by
  refine .argument _ fun _ => .argument _ fun _ => .argument _ fun email' => ?_
  refine .ensureUsernameFree _ <| .hashPassword _ fun hash => ?_
  rw [Operation.ask_eq]
  exact .asked (.create _) ⟨nofun, nofun⟩ id

/-- Whether the operation may take in a new user, for whom identifiers are drawn. -/
def Operation.draws : Operation → Bool
  | .createUser .. | .ensureAdmin .. => true
  | _ => false

/-- Every operation comes to the same over both stores. -/
theorem Operation.portable (accounts : Accounts) (op : Operation) :
    (op.plan accounts).Portable op.draws := by
  cases op with
  | login username password =>
    refine .lookUp_byUsername _ (fun u hu => ?_) (.done _)
    refine .verifyPassword _ _ <| .clock fun now hnow => ?_
    rw [demand_eq]
    exact .demanded (.update _ _) ⟨fun t ht => Option.some.inj ht ▸ hnow, hu.lastLogout⟩ nofun
  | logout id =>
    refine .ask _ fun u hu => .clock fun now hnow => ?_
    rw [demand_eq]
    exact .demanded (.update _ _) ⟨hu.lastLogin, fun t ht => Option.some.inj ht ▸ hnow⟩ nofun
  | createUser username password email role =>
    exact accounts.createUser_portable username password email role
  | updateUser currentId newId username email role =>
    refine .argument _ fun _ => .argument _ fun email' => .argument _ fun id =>
      .argument _ fun new => .ask _ fun u hu => ?_
    -- Whatever is checked in between, it ends in this write.
    have hwrite : (Accounts.ask (.update id { u with
        id := new, username, email := email', role })).Portable false := by
      rw [ask_eq]
      exact .asked (.update _ _) ⟨hu.lastLogin, hu.lastLogout⟩ nofun
    dsimp only
    refine .ite (.lookUp_get _ fun found => .ite (.done _) ?_) ?_
    · exact .ite (.ensureUsernameFree _ hwrite) hwrite
    · exact .ite (.ensureUsernameFree _ hwrite) hwrite
  | updatePassword id password =>
    refine .argument _ fun _ => .argument _ fun id' => .ask _ fun u hu => ?_
    refine .hashPassword _ fun hash => ?_
    rw [ask_eq]
    exact .asked (.update _ _) ⟨hu.lastLogin, hu.lastLogout⟩ nofun
  | deleteUser id =>
    refine .argument _ fun id' => ?_
    rw [ask_eq]
    exact .asked (.delete _) trivial nofun
  | ensureAdmin username password =>
    refine .lookUp_byUsername _ (fun u hu => ?_)
      (accounts.createUser_portable username password "" .admin)
    refine .argument _ fun _ => .hashPassword _ fun hash => ?_
    rw [ask_eq]
    exact .asked (.update _ _) ⟨hu.lastLogin, hu.lastLogout⟩ nofun

/-! ## Errands -/

/-- The surroundings of all errands suit both stores. -/
def Accounts.Suited (accounts : Accounts) (s : MemoryStore) : List Errand → Prop
  | [] => True
  | errand :: rest =>
    s.Suits errand.op.draws errand.around ∧ accounts.Suited (accounts.perform errand s).2 rest

/-- What happens to the one store happens to the other. -/
theorem Mirrors.after (accounts : Accounts) (errands : List Errand) :
    ∀ {t : TableStore} {s : MemoryStore}, Mirrors t s → accounts.Suited s errands →
      Mirrors (accounts.after t errands) (accounts.after s errands) ∧
        accounts.outcomes t errands = accounts.outcomes s errands := by
  induction errands with
  | nil => exact fun h _ => ⟨h, rfl⟩
  | cons errand rest ih =>
    intro t s h ⟨hsuits, hrest⟩
    obtain ⟨hsame, hmirrors⟩ := (errand.op.portable accounts).run h hsuits
    obtain ⟨hafter, houtcomes⟩ := ih hmirrors hrest
    refine ⟨hafter, ?_⟩
    exact congr_arg₂ List.cons (congrArg (Outcome.mk errand.op) hsame.toOption_eq.symm) houtcomes

end AccountServer
