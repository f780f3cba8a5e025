import AccountServer.Proofs.Service.Turnover

/-!
# Following one account

A `Bearer` follows one account from the outcomes alone, wherever it moves, until a success makes
its tokens void. `standing_after` says what the store holds then. Where the bearer is, there is a
record with the old hash and the old logout. When he is void, no record is like that any more, and
if no hash and no logout comes twice, none will be again.
-/

namespace AccountServer

open Token

/-! ## The bearer -/

/-- The identifier of an account, as long as the tokens are good that it had at a certain moment. -/
abbrev Bearer := Option Uuid

namespace Bearer

/-- Takes in what came of an operation. -/
def record (b : Bearer) (o : Outcome) : Bearer :=
  b.bind fun id =>
    match o.answer? with
    | none => some id
    | some u =>
      if o.op.account? u = some id then
        if o.op.endsTokens then none else some u.id
      else some id

/-- What has become of the account with the identifier. -/
def follow (id : Uuid) (outcomes : List Outcome) : Bearer := outcomes.foldl record (some id)

@[simp] theorem record_none (b : Bearer) (op : Operation) : record b ⟨op, none⟩ = b := by
  cases b <;> rfl

/-- What has become void stays so. -/
theorem foldl_none (outcomes : List Outcome) : outcomes.foldl record none = none := by
  induction outcomes with
  | nil => rfl
  | cons o rest ih => exact ih

theorem follow_eq_none_of_prefix {id : Uuid} {past outcomes : List Outcome}
    (h : past <+: outcomes) (hpast : follow id past = none) : follow id outcomes = none := by
  obtain ⟨rest, rfl⟩ := h
  unfold follow at hpast ⊢
  rw [List.foldl_append, hpast, foldl_none]

end Bearer

/-! ## What the store holds -/

/-- What there is of the record `u`. As long as the bearer is not void, a record with the hash and
the logout of `u` lies under the identifier that he has, and no other account has that hash. Once
he is void, every record with the hash has a later logout. -/
inductive MemoryStore.Standing (s : MemoryStore) (u : User) : Bearer → Prop where
  | good (id : Uuid) (a : User) (found : s.get? id = some a)
      (hash : a.passwordHash = u.passwordHash) (logout : a.lastLogout = u.lastLogout)
      (sole : ∀ id' b, s.get? id' = some b → b.passwordHash = u.passwordHash → id' = id) :
      Standing s u (some id)
  | void (later : ∀ id b, s.get? id = some b → b.passwordHash = u.passwordHash →
      logoutMicros u < logoutMicros b) : Standing s u none

namespace MemoryStore.Standing

variable {s s' : MemoryStore} {u v : User} {b : Bearer} {account : Option Uuid} {ends : Bool}
  {newHash : Option String} {newLogout : Option Instant}

/-- A record with the hash and the logout lies where the bearer is. -/
theorem eq_some_of_same (h : s.Standing u b) {id : Uuid} (hv : s.get? id = some v)
    (hash : v.passwordHash = u.passwordHash) (logout : logoutMicros v = logoutMicros u) :
    b = some id ∧ v.lastLogout = u.lastLogout := by
  cases h with
  | good id' a found _ hsame sole =>
    obtain rfl : id = id' := sole id v hv hash
    obtain rfl : a = v := Option.some.inj (found.symm.trans hv)
    exact ⟨rfl, hsame⟩
  | void later =>
    have hlater := later id v hv hash
    omega

theorem exists_of_eq_some (h : s.Standing u b) {id : Uuid} (hb : b = some id) :
    ∃ v, s.get? id = some v ∧ v.passwordHash = u.passwordHash ∧ v.lastLogout = u.lastLogout := by
  cases h with
  | good id' a found hash logout =>
    obtain rfl : id' = id := Option.some.inj hb
    exact ⟨a, found, hash, logout⟩
  | void => cases hb

section Step

variable (ht : Turnover s v account ends newHash newLogout s')
  (hhash : newHash ≠ some u.passwordHash)
  (hlogout : ∀ t, newLogout = some t → logoutMicros u < t.micros)
include ht hhash hlogout

/-- An answer with the hash of `u` has it from a record of the same account. Its logout is later
than that of `u` if the logout of this record was, or if the tokens were made void. -/
theorem later_of_answer {id : Uuid} {a : User} (hv : s'.get? id = some a) (hid : id = v.id)
    (heq : v.passwordHash = u.passwordHash)
    (hold : ends = false → ∀ k old, account = some k → s.get? k = some old →
      old.passwordHash = u.passwordHash → logoutMicros u < logoutMicros old) :
    logoutMicros u < logoutMicros v := by
  subst hid
  rcases ht.hash_cases hv with h | ⟨k, old, haccount, found, hkept, hlog⟩
  · exact absurd (heq ▸ h) hhash
  · rcases hlog with ⟨hends, hsame⟩ | ⟨t, hnew, hlog⟩
    · rw [logoutMicros.eq_def v, hsame]
      exact hold hends k old haccount found (hkept.symm.trans heq)
    · rw [logoutMicros.eq_def v, hlog]
      exact hlogout t hnew

/-- What is void stays so. -/
theorem void_step (later : ∀ id b, s.get? id = some b → b.passwordHash = u.passwordHash →
    logoutMicros u < logoutMicros b) : s'.Standing u none := by
  refine .void fun id a ha heq => ?_
  rcases ht.get?_cases ha with ⟨hid, rfl⟩ | ⟨-, -, hold⟩
  · exact later_of_answer ht hhash hlogout ha hid heq fun _ k old _ found => later k old found
  · exact later id a hold heq

/-- A success about the account itself makes it void or takes the bearer along. -/
theorem step_of_own {id : Uuid} {a : User} (haccount : account = some id)
    (found : s.get? id = some a) (hash : a.passwordHash = u.passwordHash)
    (logout : a.lastLogout = u.lastLogout)
    (sole : ∀ id' b, s.get? id' = some b → b.passwordHash = u.passwordHash → id' = id) :
    s'.Standing u (if ends then none else some v.id) := by
  subst haccount
  have hothers {j : Uuid} {w : User} (hold : s.get? j = some w) (hne : some id ≠ some j) :
      w.passwordHash ≠ u.passwordHash := fun heq => hne (congrArg some (sole j w hold heq).symm)
  cases ends with
  | true =>
    refine .void fun j w hw heq => ?_
    rcases ht.get?_cases hw with ⟨hid, rfl⟩ | ⟨-, hne, hold⟩
    · exact later_of_answer ht hhash hlogout hw hid heq nofun
    · exact absurd heq (hothers hold hne)
  | false =>
    obtain ⟨hv, hkept, hlogged⟩ := ht.kept_of_found found
    refine .good v.id v hv (hkept.trans hash) (hlogged.trans logout) fun j w hw heq => ?_
    rcases ht.get?_cases hw with ⟨rfl, -⟩ | ⟨-, hne, hold⟩
    · rfl
    · exact absurd heq (hothers hold hne)

omit hlogout in
/-- A success about another account changes nothing for this one. -/
theorem step_of_other {id : Uuid} {a : User} (haccount : account ≠ some id)
    (found : s.get? id = some a) (hash : a.passwordHash = u.passwordHash)
    (logout : a.lastLogout = u.lastLogout)
    (sole : ∀ id' b, s.get? id' = some b → b.passwordHash = u.passwordHash → id' = id) :
    s'.Standing u (some id) := by
  refine .good id a (ht.get?_of_other found haccount) hash logout fun j w hw heq => ?_
  rcases ht.get?_cases hw with ⟨rfl, rfl⟩ | ⟨-, -, hold⟩
  · rcases ht.hash_cases hw with h | ⟨k, old, hk, hold, hkept, -⟩
    · exact absurd (heq ▸ h) hhash
    · rw [hk, sole k old hold (hkept.symm.trans heq)] at haccount
      exact absurd rfl haccount
  · exact sole j w hold heq

/-- One success on, it is as the bearer says. -/
theorem step (h : s.Standing u b) : s'.Standing u (b.bind fun id =>
    if account = some id then if ends then none else some v.id else some id) := by
  cases h with
  | void later => exact void_step ht hhash hlogout later
  | good id a found hash logout sole =>
    rw [Option.bind_some]
    split
    · next haccount => exact step_of_own ht hhash hlogout haccount found hash logout sole
    · next haccount => exact step_of_other ht hhash haccount found hash logout sole

end Step

end MemoryStore.Standing

/-- Some errands on, it is as the bearer says whom the outcomes follow. -/
theorem Accounts.standing_after (accounts : Accounts) {u : User} (errands : List Errand) :
    ∀ {s : MemoryStore} {b : Bearer}, s.WellKept → s.Standing u b →
      u.passwordHash ∉ Outcome.newHashes (accounts.outcomes s errands) →
      (∀ t ∈ Outcome.newLogouts (accounts.outcomes s errands), logoutMicros u < t.micros) →
      (accounts.after s errands).Standing u
        ((accounts.outcomes s errands).foldl Bearer.record b) := by
  induction errands with
  | nil => exact fun _ h _ _ => h
  | cons errand rest ih =>
    intro s b hw h hhashes hlogouts
    rw [outcomes, Outcome.newHashes_cons, List.mem_append, not_or] at hhashes
    rw [outcomes, Outcome.newLogouts_cons] at hlogouts
    rw [after_cons, outcomes, List.foldl_cons]
    have hrest := fun t ht => hlogouts t (List.mem_append_right _ ht)
    have hnow := fun t ht => hlogouts t (List.mem_append_left _ ht)
    rcases accounts.perform_cases errand hw with ⟨e, heq⟩ | ⟨v, s', heq, hw', heffect⟩
    · rw [heq] at hhashes hrest ⊢
      show (accounts.after s rest).Standing u
        ((accounts.outcomes s rest).foldl Bearer.record (b.record ⟨errand.op, none⟩))
      rw [Bearer.record_none]
      exact ih hw h hhashes.2 hrest
    · rw [heq] at hhashes hrest hnow ⊢
      refine ih hw' (.step heffect.turnover ?_ ?_ h) hhashes.2 hrest
      · exact fun h => hhashes.1 (h ▸ List.mem_cons_self)
      · exact fun t ht => hnow t (ht ▸ List.mem_cons_self)

end AccountServer
