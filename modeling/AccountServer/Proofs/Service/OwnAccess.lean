import AccountServer.Proofs.Service.Foreseen
import AccountServer.Proofs.Store.OwnRecord
import AccountServer.Service.Access

/-!
# What a user may do who is no admin

Every request to act on an account comes to a foreseen plan if the caller is no admin. It is refused
before the store is asked for anything, or it is about the caller's own record, and then the only
record that is looked up is his own, and every write concerns him (`Write.Concerns`).

There is one exception: a user who gives himself another name learns whether somebody has it. So the
answers to lookups by name have to be known for a change of identity.
-/

namespace AccountServer

namespace Plan.Foreseen

variable {K : Lookup → Except StoreError User → Prop} {T : Instant → Prop} {W : Write → Prop}
  {ε α β : Type} {f : α → Plan ε β}

/-! ## The pieces of a plan -/

theorem ite {c : Prop} [Decidable c] {p q : Plan ε α} (hp : p.Foreseen K T W)
    (hq : q.Foreseen K T W) : (if c then p else q).Foreseen K T W := by
  split
  · exact hp
  · exact hq

theorem ofExcept {r : Except ε α} (h : ∀ a, r = .ok a → (f a).Foreseen K T W) :
    (Plan.ofExcept r >>= f).Foreseen K T W := by
  cases r with
  | error e => exact .done (.error e)
  | ok a => exact h a rfl

theorem clock {f : Instant → Plan ε β} (h : ∀ now, T now → (f now).Foreseen K T W) :
    (Plan.clock >>= f).Foreseen K T W :=
  .asks .clock _ rfl h

variable {accounts : Accounts}

/-- A check of an argument asks no store. -/
theorem argument {r : Except ArgumentFault α} {f : α → Action β}
    (h : ∀ a, r = .ok a → (f a).Foreseen K T W) : (Accounts.argument r >>= f).Foreseen K T W := by
  cases r with
  | error e => exact .done (.error (AccountError.badArgument e))
  | ok a => exact h a rfl

theorem hashPassword {password : String} {f : String → Action α}
    (h : ∀ hash, (f hash).Foreseen K T W) :
    (accounts.hashPassword password >>= f).Foreseen K T W :=
  .asks .salt _ rfl fun _ _ => .ofExcept fun hash _ => h hash

/-- A record may be asked for if it is known what the store answers. -/
theorem ask {id : Uuid} {u : User} {f : User → Action α} (known : K (.byId id) (.ok u))
    (h : (f u).Foreseen K T W) : (Accounts.ask (.get id) >>= f).Foreseen K T W :=
  .looks (.byId id) _ (.ok u) known h

/-- A name may be asked for if the answer is known, whatever it is. -/
theorem ensureUsernameFree {username : String} {f : Unit → Action α}
    {answer : Except StoreError User} (known : K (.byName username) answer)
    (h : (f ()).Foreseen K T W) : (Accounts.ensureUsernameFree username >>= f).Foreseen K T W := by
  refine .looks (.byName username) _ answer known ?_
  cases answer with
  | ok u => exact .done _
  | error e => cases e <;> first | exact h | exact .done _

/-- A write may be asked for if it is one of those that are allowed. -/
theorem asked {id : Uuid} {v : User} (allowed : W (.update id v)) :
    (Accounts.ask (.update id v)).Foreseen K T W := by
  rw [Operation.ask_eq]
  exact .writes (.update id v) _ allowed fun _ => .done _

theorem demanded {id : Uuid} {v : User} (allowed : W (.update id v)) :
    (Accounts.demand (.update id v)).Foreseen K T W := by
  rw [Operation.demand_eq]
  exact .writes (.update id v) _ allowed fun _ => .done _

end Plan.Foreseen

/-! ## Guards -/

namespace User

variable {me : User}

theorem isAdmin_eq_false (h : me.role ≠ .admin) : me.isAdmin = false := by
  simpa [isAdmin] using h

/-- Who is no admin may act on his own account and on no other. -/
theorem mayActOn_iff (h : me.role ≠ .admin) {target : Uuid} :
    me.mayActOn target = true ↔ me.id = target := by
  rw [mayActOn, isAdmin_eq_false h, Bool.or_false, decide_eq_true_iff]

end User

namespace Accounts

variable {caller : User} {target : Uuid}

theorem requireSelfOrAdmin_eq {id : String} (h : Validation.userId id = .ok target) :
    requireSelfOrAdmin caller id =
      if caller.mayActOn target then pure target else throw (.forbidden .notSelf) := by
  unfold requireSelfOrAdmin
  rw [h]
  rfl

theorem checkChange_of_no_admin (hcaller : caller.isAdmin = false) {current : User}
    {newId : String} {role : Role} {new : Uuid} (h : Validation.userId newId = .ok new) :
    checkChange caller target current newId role =
      if new ≠ target then throw (.forbidden .idChange)
      else if role ≠ current.role then throw (.forbidden .roleChange) else pure () := by
  unfold checkChange
  rw [hcaller, h]
  rfl

end Accounts

namespace Plan.Foreseen

variable {K : Lookup → Except StoreError User → Prop} {T : Instant → Prop} {W : Write → Prop}
  {α : Type} {me : User}

/-- Who is no admin gets no further. -/
theorem requireAdmin (hme : me.role ≠ .admin) (f : Unit → Action α) :
    (Accounts.requireAdmin me >>= f).Foreseen K T W := by
  rw [Accounts.requireAdmin, User.isAdmin_eq_false hme]
  exact .done _

/-- Who is no admin gets past the guard only with his own identifier. -/
theorem requireSelfOrAdmin (hme : me.role ≠ .admin) {id : String} {f : Uuid → Action α}
    (h : Validation.userId id = .ok me.id → (f me.id).Foreseen K T W) :
    (Accounts.requireSelfOrAdmin me id >>= f).Foreseen K T W := by
  cases hid : Validation.userId id with
  | error e =>
    unfold Accounts.requireSelfOrAdmin
    rw [hid]
    exact .done _
  | ok target =>
    rw [Accounts.requireSelfOrAdmin_eq hid]
    by_cases hown : me.mayActOn target = true
    · obtain rfl := (User.mayActOn_iff hme).mp hown
      rw [if_pos hown]
      exact h hid
    · rw [if_neg hown]
      exact .done _

/-- Who is no admin may not change identifier or role. -/
theorem checkChange (hme : me.role ≠ .admin) {target : Uuid} {current : User} {newId : String}
    {role : Role} {f : Unit → Action α}
    (h : Validation.userId newId = .ok target → role = current.role → (f ()).Foreseen K T W) :
    (Accounts.checkChange me target current newId role >>= f).Foreseen K T W := by
  have hno := User.isAdmin_eq_false hme
  cases hid : Validation.userId newId with
  | error e =>
    unfold Accounts.checkChange
    rw [hno, hid]
    exact .done _
  | ok new =>
    rw [Accounts.checkChange_of_no_admin hno hid]
    by_cases hnew : new = target
    · subst hnew
      by_cases hrole : role = current.role
      · rw [if_neg (not_not_intro rfl), if_neg (not_not_intro hrole)]
        exact h hid hrole
      · rw [if_neg (not_not_intro rfl), if_pos hrole]
        exact .done _
    · rw [if_pos hnew]
      exact .done _

end Plan.Foreseen

/-! ## Actions -/

namespace Accounts

open Plan (Foreseen)

variable {K : Lookup → Except StoreError User → Prop} {T : Instant → Prop} {renames : Prop}
  {me : User} (hme : me.role ≠ .admin) (known : K (.byId me.id) (.ok me)) (htimes : me.TimesAll T)

include hme known htimes

/-- A logout looks up the caller's own record and writes it back with the time of the logout. -/
theorem logoutBy_foreseen (id : String) :
    (logoutBy me id).Foreseen K T (Write.Concerns me T renames) := by
  refine .requireSelfOrAdmin hme fun _ => .ask known <| .clock fun now hnow => ?_
  refine .demanded (.change _ rfl rfl (Or.inl rfl) ⟨htimes.lastLogin, ?_⟩)
  exact fun t ht => Option.some.inj ht ▸ hnow

/-- A change of the password writes the caller's own record back with the new hash. -/
theorem updatePasswordBy_foreseen (accounts : Accounts) (id : String) (change : PasswordChange) :
    (accounts.updatePasswordBy me id change).Foreseen K T (Write.Concerns me T renames) := by
  refine .requireSelfOrAdmin hme fun hid => .argument fun _ _ => .argument fun id' hid' => ?_
  obtain rfl := Except.ok.inj (hid.symm.trans hid')
  refine .ask known <| .hashPassword fun hash => .asked ?_
  exact .change _ rfl rfl (Or.inl rfl) ⟨htimes.lastLogin, htimes.lastLogout⟩

omit htimes

/-- To be shown an account, a user looks up his own record and nothing else. -/
theorem getUserBy_foreseen (id : String) :
    (getUserBy me id).Foreseen K T (Write.Concerns me T renames) := by
  refine .requireSelfOrAdmin hme fun hid => .argument fun id' hid' => ?_
  obtain rfl := Except.ok.inj (hid.symm.trans hid')
  rw [Operation.ask_eq]
  exact .looks (.byId me.id) _ (.ok me) known (.done _)

omit known

/-- A user can only delete his own account, and no record is looked up for that. -/
theorem deleteUserBy_foreseen (id : String) :
    (deleteUserBy me id).Foreseen K T (Write.Concerns me T renames) := by
  refine .requireSelfOrAdmin hme fun hid => .argument fun id' hid' => ?_
  obtain rfl := Except.ok.inj (hid.symm.trans hid')
  rw [Operation.ask_eq]
  exact .writes (.delete me.id) _ .removal fun _ => .done _

theorem listUsersBy_foreseen (query : UserQuery) :
    (listUsersBy me query).Foreseen K T (Write.Concerns me T renames) :=
  .requireAdmin hme _

theorem createUserBy_foreseen (accounts : Accounts) (user : NewUser) :
    (accounts.createUserBy me user).Foreseen K T (Write.Concerns me T renames) :=
  .requireAdmin hme _

include known htimes

/-- A change of identity, which is the only action that may ask for names. -/
theorem updateUserBy_foreseen (id : String) (change : UserChange)
    (hnames : Validation.userId id = .ok me.id →
      renames ∧ ∀ username, ∃ answer, K (.byName username) answer) :
    (updateUserBy me id change).Foreseen K T (Write.Concerns me T renames) := by
  refine .requireSelfOrAdmin hme fun hid => ?_
  obtain ⟨hrenames, hnames⟩ := hnames hid
  have hget : getUser id = Accounts.ask (.get me.id) := by
    rw [getUser, hid]
    rfl
  rw [hget]
  refine .ask known <| .checkChange hme fun hnew hrole => ?_
  dsimp only
  rw [hrole]
  refine .argument fun _ _ => .argument fun email _ => .argument fun id' hid' =>
    .argument fun new hnew' => ?_
  obtain rfl := Except.ok.inj (hid.symm.trans hid')
  obtain rfl := Except.ok.inj (hnew.symm.trans hnew')
  refine .ask known ?_
  -- The identifier stays, so that only the name may have to be looked for.
  dsimp only
  rw [if_neg (not_not_intro rfl)]
  have hwrite : (Accounts.ask (.update me.id { me with
      id := me.id, username := change.username, email, role := me.role })).Foreseen K T
      (Write.Concerns me T renames) :=
    .asked (.change _ rfl rfl (Or.inr hrenames) ⟨htimes.lastLogin, htimes.lastLogout⟩)
  obtain ⟨answer, hanswer⟩ := hnames change.username
  exact .ite (.ensureUsernameFree hanswer hwrite) hwrite

end Accounts

end AccountServer
