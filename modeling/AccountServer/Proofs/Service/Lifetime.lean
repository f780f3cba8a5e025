import AccountServer.Proofs.Service.Frame
import AccountServer.Proofs.Service.Turnover

/-!
# The life of an account

An account is a record that goes through the outcomes of a run: it moves to other identifiers, takes
other names, and each of its fields is what an operation which owns that field has made of it last.
`User.Becomes` says how, and `MemoryStore.Succession` that every record of a store goes that way or
is deleted, and that none comes from anywhere else than a registration.

* `Becomes.created`, `Becomes.field_cases`: the time of creation stays, and any other field stays
  unless an operation that owns it has succeeded on the account.
* `User.Valid`: what has been checked of every record at some time, and stays true.
* `accounts_live_on`: all of it for any run over a store of any kind that was empty once.
-/

namespace AccountServer

/-! ## Valid records -/

/-- The username and the email have the form that is asked for, and the hash comes from the
hasher. -/
structure User.Valid (hasher : PasswordHasher) (u : User) : Prop where
  named : u.username ≠ ""
  printable : ∀ c ∈ u.username.toList, Text.isControl c = false
  email : ∀ e, u.email = some e → Validation.email e = .ok ()
  hash : ∃ salt password, hasher.hash salt password = .ok u.passwordHash

namespace Validation

/-- A name is fit if there is one and it has no control characters. -/
theorem username_eq_ok_iff {text : String} :
    username text = .ok () ↔ text ≠ "" ∧ ∀ c ∈ text.toList, Text.isControl c = false := by
  unfold username
  by_cases hempty : text = ""
  · simp [hempty]
  · by_cases hcontrol : text.toList.any Text.isControl = true
    · have hsome : ¬ ∀ c ∈ text.toList, Text.isControl c = false := by simpa using hcontrol
      simp [hempty, hcontrol, hsome]
    · have hnone : ∀ c ∈ text.toList, Text.isControl c = false := by simpa using hcontrol
      simpa [hempty, hcontrol] using hnone

theorem email_of_optionalEmail {text : String} {email' : Option String}
    (h : optionalEmail text = .ok email') : ∀ e, email' = some e → email e = .ok () := by
  unfold optionalEmail at h
  split at h
  · cases h
    exact nofun
  · obtain ⟨⟨⟩, hok, heq⟩ := bind_eq_ok_iff.mp h
    rintro e rfl
    obtain rfl : text = e := Option.some.inj (Except.ok.inj heq)
    exact hok

end Validation

namespace Operation

variable {accounts : Accounts} {op : Operation}

/-- A record that was fit is fit after an operation has rewritten it. -/
theorem Rewrites.valid {u v : User} (h : op.Rewrites accounts u v) (hu : u.Valid accounts.hasher) :
    v.Valid accounts.hasher := by
  cases op with
  | login username password =>
    obtain ⟨-, now, rfl⟩ := h
    exact ⟨hu.named, hu.printable, hu.email, hu.hash⟩
  | logout id =>
    obtain ⟨now, rfl⟩ := h
    exact ⟨hu.named, hu.printable, hu.email, hu.hash⟩
  | updateUser currentId newId username email role =>
    obtain ⟨id, email', hname, hemail, -, rfl⟩ := h
    obtain ⟨named, printable⟩ := Validation.username_eq_ok_iff.mp hname
    exact ⟨named, printable, Validation.email_of_optionalEmail hemail, hu.hash⟩
  | updatePassword id password =>
    obtain ⟨-, salt, hash, heq, rfl⟩ := h
    exact ⟨hu.named, hu.printable, hu.email, salt, password, heq⟩
  | ensureAdmin username password =>
    obtain ⟨-, salt, hash, heq, rfl⟩ := h
    exact ⟨hu.named, hu.printable, hu.email, salt, password, heq⟩
  | createUser _ _ _ _ | deleteUser _ => exact h.elim

theorem Drafts.valid {username password email : String} {role : Role} {u : User}
    (h : Drafts accounts username password email role u) : u.Valid accounts.hasher := by
  obtain ⟨email', salt, hash, hname, -, hemail, heq, rfl⟩ := h
  obtain ⟨named, printable⟩ := Validation.username_eq_ok_iff.mp hname
  exact ⟨named, printable, Validation.email_of_optionalEmail hemail, salt, password, heq⟩

/-- A new record is fit. -/
theorem Registers.valid {u : User} (h : op.Registers accounts u) : u.Valid accounts.hasher := by
  cases op with
  | createUser username password email role => exact Drafts.valid h
  | ensureAdmin username password => exact Drafts.valid h
  | login _ _ | logout _ | updateUser _ _ _ _ _ | updatePassword _ _ | deleteUser _ => exact h.elim

/-- A success leaves all records valid. -/
theorem Effect.valid {s s' : MemoryStore} (hw : s.WellKept)
    (h : ∀ v ∈ s.users, v.Valid accounts.hasher) {u : User} (he : op.Effect accounts s u s') :
    ∀ v ∈ s'.users, v.Valid accounts.hasher := by
  have hold {k : Uuid} {base : MemoryStore} (hbase : base.WellKept) {v : User}
      (hv : v ∈ (base.erase k).users) : v ∈ base.users := by
    rw [hbase.users_erase] at hv
    exact List.mem_of_mem_filter hv
  intro v hv
  cases he with
  | rewrote l old w now _ _ found rewrites _ stored =>
    rcases List.mem_cons.mp hv with rfl | hv
    · have hvalid := rewrites.valid (h old (MemoryStore.mem_users_of_get? found))
      rw [stored]
      exact ⟨hvalid.named, hvalid.printable, hvalid.email, hvalid.hash⟩
    · exact h v (hold hw (hold (hw.erase old.id) hv))
  | registered w id now registers _ _ stored =>
    rcases List.mem_cons.mp hv with rfl | hv
    · have hvalid := registers.valid
      rw [stored]
      exact ⟨hvalid.named, hvalid.printable, hvalid.email, hvalid.hash⟩
    · exact h v (hold hw hv)
  | removed => exact h v (hold hw hv)

end Operation

/-! ## A record through outcomes -/

/-- The outcome is that of a success on the account of this record. -/
def Outcome.IsOn (o : Outcome) (u : User) : Prop :=
  ∃ v, o.answer? = some v ∧ o.op.account? v = some u.id

/-- The record `u` has become another one, as the outcomes tell. A success on its account has
answered what it was then, and nothing but the fields that the operation owns was changed. -/
inductive User.Becomes : User → List Outcome → User → Prop where
  | same (u : User) : Becomes u [] u
  | apart {u v : User} {news : List Outcome} (o : Outcome) (other : ¬ o.IsOn u)
      (rest : Becomes u news v) : Becomes u (o :: news) v
  | altered {u v : User} {news : List Outcome} (op : Operation) (w : User)
      (account : op.account? w = some u.id) (created : w.created = u.created)
      (same : ∀ f ∉ op.owned, f.Same w u) (rest : Becomes w news v) :
      Becomes u (⟨op, some w⟩ :: news) v

/-- A success on the account, with which an operation that owns the field has made it what it is in
`v`. -/
def User.Owes (u : User) (news : List Outcome) (f : Field) (v : User) : Prop :=
  ∃ before op w after x, news = before ++ ⟨op, some w⟩ :: after ∧ u.Becomes before x ∧
    op.account? w = some x.id ∧ f ∈ op.owned ∧ f.Same v w

namespace User.Becomes

variable {u v w : User} {news later : List Outcome}

theorem trans (h : u.Becomes news v) (h' : v.Becomes later w) : u.Becomes (news ++ later) w := by
  induction h with
  | same u => exact h'
  | apart o other _ ih => exact .apart o other (ih h')
  | altered op x account created same _ ih => exact .altered op x account created same (ih h')

/-- The time of creation stays, whatever becomes of the account. -/
theorem created (h : u.Becomes news v) : v.created = u.created := by
  induction h with
  | same u => rfl
  | apart _ _ _ ih => exact ih
  | altered _ _ _ hcreated _ _ ih => exact ih.trans hcreated

/-- A field stays, unless an operation that owns it has made it what it is. -/
theorem field_cases (h : u.Becomes news v) (f : Field) : f.Same v u ∨ u.Owes news f v := by
  induction h with
  | same u => exact Or.inl (by cases f <;> rfl)
  | apart o other _ ih =>
    rcases ih with hsame | ⟨before, op, w, after, x, rfl, hx, hrest⟩
    · exact Or.inl hsame
    · exact Or.inr ⟨o :: before, op, w, after, x, rfl, .apart o other hx, hrest⟩
  | @altered u v news op x account hcreated hsame _ ih =>
    rcases ih with hlast | ⟨before, op', w, after, y, rfl, hy, hrest⟩
    · by_cases hf : f ∈ op.owned
      · exact Or.inr ⟨[], op, x, news, u, rfl, .same u, account, hf, hlast⟩
      · exact Or.inl (hlast.trans (hsame f hf))
    · exact Or.inr ⟨⟨op, some x⟩ :: before, op', w, after, y, rfl,
        .altered op x account hcreated hsame hy, hrest⟩

end User.Becomes

/-! ## A store through outcomes -/

/-- The account of the record lives on, or it was deleted. -/
def User.GoesOn (u : User) (news : List Outcome) (s' : MemoryStore) : Prop :=
  (∃ v ∈ s'.users, u.Becomes news v) ∨
    ∃ before text v after, news = before ++ ⟨.deleteUser text, some v⟩ :: after ∧
      u.Becomes before v

/-- The account of the record was there before, or it was registered without a login or logout. -/
def User.ComesFrom (v : User) (news : List Outcome) (s : MemoryStore) : Prop :=
  (∃ u ∈ s.users, u.Becomes news v) ∨
    ∃ before op u after, news = before ++ ⟨op, some u⟩ :: after ∧ op.draws = true ∧
      u.lastLogin = none ∧ u.lastLogout = none ∧ u.Becomes after v

/-- The records of `s'` are what has become of those of `s`. -/
structure MemoryStore.Succession (s : MemoryStore) (news : List Outcome) (s' : MemoryStore) :
    Prop where
  onward : ∀ u ∈ s.users, u.GoesOn news s'
  origin : ∀ v ∈ s'.users, v.ComesFrom news s

namespace MemoryStore.Succession

variable {s s' s'' : MemoryStore} {news later : List Outcome}

theorem refl (s : MemoryStore) : s.Succession [] s where
  onward u hu := Or.inl ⟨u, hu, .same u⟩
  origin v hv := Or.inl ⟨v, hv, .same v⟩

theorem trans (h : s.Succession news s') (h' : s'.Succession later s'') :
    s.Succession (news ++ later) s'' where
  onward u hu := by
    rcases h.onward u hu with ⟨v, hv, hnews⟩ | ⟨before, text, v, after, rfl, hbefore⟩
    · rcases h'.onward v hv with ⟨w, hw, hlater⟩ | ⟨before, text, w, after, rfl, hbefore⟩
      · exact Or.inl ⟨w, hw, hnews.trans hlater⟩
      · exact Or.inr ⟨news ++ before, text, w, after, by simp, hnews.trans hbefore⟩
    · exact Or.inr ⟨before, text, v, after ++ later, by simp, hbefore⟩
  origin w hw := by
    rcases h'.origin w hw with ⟨v, hv, hlater⟩ | ⟨before, op, u, after, rfl, hdraws, hin, hout, hu⟩
    · rcases h.origin v hv with ⟨u, hu, hnews⟩ | ⟨before, op, u, after, rfl, hdraws, hin, hout, hu⟩
      · exact Or.inl ⟨u, hu, hnews.trans hlater⟩
      · exact Or.inr ⟨before, op, u, after ++ later, by simp, hdraws, hin, hout, hu.trans hlater⟩
    · exact Or.inr ⟨news ++ before, op, u, after, by simp, hdraws, hin, hout, hu⟩

theorem failed (s : MemoryStore) (op : Operation) : s.Succession [⟨op, none⟩] s := by
  have hapart (u : User) : u.Becomes [⟨op, none⟩] u :=
    .apart _ (fun ⟨_, hnone, _⟩ => by cases hnone) (.same u)
  exact ⟨fun u hu => Or.inl ⟨u, hu, hapart u⟩, fun v hv => Or.inl ⟨v, hv, hapart v⟩⟩

end MemoryStore.Succession

/-! ## One operation -/

namespace Operation

variable {accounts : Accounts} {op : Operation} {s s' : MemoryStore} {u : User}

/-- A success has changed the record of the account that it was about, registered a user, or deleted
one. -/
theorem Frame.cases (h : op.Frame s u s') :
    (∃ old, op.account? u = some old.id ∧ s.Alters old u op.owned s') ∨
      (op.account? u = some u.id ∧ op.draws = true ∧ s.Gains u s') ∨
      ∃ text, op = .deleteUser text ∧ s.Loses u s' := by
  -- Only an update of the user moves the record.
  have hstays {old : User} (halters : s.Alters old u op.owned s') (hid : Field.id ∉ op.owned) :
      some u.id = some old.id := congrArg some (halters.same .id hid)
  cases op with
  | login _ _ | logout _ | updatePassword _ _ =>
    obtain ⟨old, -, halters⟩ := h
    exact Or.inl ⟨old, hstays halters (by simp [owned]), halters⟩
  | updateUser currentId newId username email role =>
    obtain ⟨old, ⟨l, hl, hfinds⟩, halters⟩ := h
    obtain ⟨current, hparse, rfl⟩ := Option.map_eq_some_iff.mp hl
    obtain rfl : old.id = current := hfinds
    exact Or.inl ⟨old, hparse, halters⟩
  | ensureAdmin username password =>
    rcases h with ⟨old, -, halters⟩ | ⟨-, hgains⟩
    · exact Or.inl ⟨old, hstays halters (by simp [owned]), halters⟩
    · exact Or.inr (Or.inl ⟨rfl, rfl, hgains⟩)
  | createUser username password email role =>
    obtain ⟨-, hgains⟩ := h
    exact Or.inr (Or.inl ⟨rfl, rfl, hgains⟩)
  | deleteUser text =>
    obtain ⟨-, hloses⟩ := h
    exact Or.inr (Or.inr ⟨text, rfl, hloses⟩)

end Operation

namespace MemoryStore

variable {s s' : MemoryStore} {u : User} {op : Operation}

/-- If an answer is about one account and all other records stay, only that account has to be
looked at. -/
theorem succession_of_answer (hw : s.WellKept) (hw' : s'.WellKept) {id : Uuid}
    (account : op.account? u = some id)
    (moved : u.id ≠ id → s.get? u.id = none ∧ s'.get? id = none)
    (others : ∀ k, k ≠ id → k ≠ u.id → s'.get? k = s.get? k)
    (onward : ∀ x, s.get? id = some x → x.GoesOn [⟨op, some u⟩] s')
    (origin : ∀ y, s'.get? u.id = some y → y.ComesFrom [⟨op, some u⟩] s) :
    s.Succession [⟨op, some u⟩] s' := by
  have happart {x : User} (hne : x.id ≠ id) : x.Becomes [⟨op, some u⟩] x := by
    refine .apart _ ?_ (.same x)
    rintro ⟨v, hv, hon⟩
    obtain rfl : u = v := Option.some.inj hv
    exact hne (Option.some.inj (hon.symm.trans account))
  refine ⟨fun x hx => ?_, fun y hy => ?_⟩
  · have hget : s.get? x.id = some x := get?_of_mem hw hx
    by_cases hid : x.id = id
    · exact onward x (hid ▸ hget)
    · have hnew : x.id ≠ u.id := by
        intro heq
        rw [heq, (moved fun hstays => hid (heq.trans hstays)).1] at hget
        cases hget
      rw [← others x.id hid hnew] at hget
      exact Or.inl ⟨x, mem_users_of_get? hget, happart hid⟩
  · have hget : s'.get? y.id = some y := get?_of_mem hw' hy
    by_cases hnew : y.id = u.id
    · exact origin y (hnew ▸ hget)
    · have hid : y.id ≠ id := by
        intro heq
        rw [heq, (moved fun hstays => hnew (heq.trans hstays.symm)).2] at hget
        cases hget
      rw [others y.id hid hnew] at hget
      exact Or.inl ⟨y, mem_users_of_get? hget, happart hid⟩

theorem Alters.succession (hw : s.WellKept) (hw' : s'.WellKept) {old : User}
    (h : s.Alters old u op.owned s') (account : op.account? u = some old.id) :
    s.Succession [⟨op, some u⟩] s' := by
  have hbecomes : old.Becomes [⟨op, some u⟩] u := .altered op u account h.created h.same (.same u)
  refine succession_of_answer hw hw' account h.moved h.others (fun x hx => ?_) fun y hy => ?_
  · obtain rfl : x = old := Option.some.inj (hx.symm.trans h.found)
    exact Or.inl ⟨u, mem_users_of_get? h.stored, hbecomes⟩
  · obtain rfl : y = u := Option.some.inj (hy.symm.trans h.stored)
    exact Or.inl ⟨old, mem_users_of_get? h.found, hbecomes⟩

theorem Gains.succession (hw : s.WellKept) (hw' : s'.WellKept) (h : s.Gains u s')
    (account : op.account? u = some u.id) (draws : op.draws = true) :
    s.Succession [⟨op, some u⟩] s' := by
  refine succession_of_answer hw hw' account (fun hne => absurd rfl hne)
    (fun k hk _ => h.others k hk) (fun x hx => ?_) fun y hy => ?_
  · rw [h.free] at hx
    cases hx
  · obtain rfl : y = u := Option.some.inj (hy.symm.trans h.stored)
    exact Or.inr ⟨[], op, y, [], rfl, draws, h.lastLogin, h.lastLogout, .same y⟩

theorem Loses.succession (hw : s.WellKept) (hw' : s'.WellKept) (h : s.Loses u s') (text : String) :
    s.Succession [⟨.deleteUser text, some u⟩] s' := by
  refine succession_of_answer hw hw' rfl (fun hne => absurd rfl hne) (fun k hk _ => h.others k hk)
    (fun x hx => ?_) fun y hy => ?_
  · obtain rfl : x = u := Option.some.inj (hx.symm.trans h.found)
    exact Or.inr ⟨[], text, x, [], rfl, .same x⟩
  · rw [h.gone] at hy
    cases hy

end MemoryStore

theorem Operation.Frame.succession {op : Operation} {s s' : MemoryStore} {u : User}
    (hw : s.WellKept) (hw' : s'.WellKept) (h : op.Frame s u s') :
    s.Succession [⟨op, some u⟩] s' := by
  rcases h.cases with ⟨old, account, halters⟩ | ⟨account, draws, hgains⟩ | ⟨text, rfl, hloses⟩
  · exact halters.succession hw hw' account
  · exact hgains.succession hw hw' account draws
  · exact hloses.succession hw hw' text

/-! ## Runs -/

/-- What a client may ask of the service at one time. -/
inductive Visit where
  | act (errand : Errand)
  | consult (consultation : Consultation) (around : Nat → Surroundings)

namespace Visit

/-- The errand, if something is to be done. -/
def errand? : Visit → Option Errand
  | .act errand => some errand
  | .consult .. => none

/-- The store after the visit. -/
def after (accounts : Accounts) (b : Backend) : Visit → Backend
  | .act errand => (accounts.perform errand b).2
  | .consult c around => (c.plan.run around b).2

end Visit

/-- The store after some visits. -/
def Accounts.visited (accounts : Accounts) (b : Backend) (visits : List Visit) : Backend :=
  visits.foldl (Visit.after accounts) b

/-- What was to be done on the visits. -/
def errandsOf (visits : List Visit) : List Errand := visits.filterMap Visit.errand?

theorem Accounts.visited_eq (accounts : Accounts) (visits : List Visit) : ∀ b : Backend,
    accounts.visited b visits = accounts.after b (errandsOf visits) := by
  induction visits with
  | nil => exact fun _ => rfl
  | cons visit rest ih =>
    intro b
    cases visit with
    | act errand => exact ih _
    | consult c around =>
      have hquiet : (c.plan.run around b).2 = b := c.run_plan around b
      show accounts.visited (c.plan.run around b).2 rest = accounts.after b (errandsOf rest)
      rw [hquiet]
      exact ih b

/-- Whatever is done over a store of any kind, its records are what has become of those before, and
valid if those were. -/
theorem Backend.Holds.exists_succession {b : Backend} {s : MemoryStore} (hb : b.Holds s)
    (accounts : Accounts) {errands : List Errand} (hclock : b.KeepsAll errands) :
    ∃ s', (accounts.after b errands).Holds s' ∧
      (∀ time, (accounts.after b errands).Keeps time ↔ b.Keeps time) ∧
      s.Succession (accounts.outcomes b errands) s' ∧
      ((∀ u ∈ s.users, u.Valid accounts.hasher) → ∀ u ∈ s'.users, u.Valid accounts.hasher) := by
  obtain ⟨s', hs', hkeeps, hsucc, hvalid⟩ := @Accounts.books_kept_over accounts (List Outcome)
    (fun before o => before ++ [o])
    (fun s' news => s.Succession news s' ∧
      ((∀ u ∈ s.users, u.Valid accounts.hasher) → ∀ u ∈ s'.users, u.Valid accounts.hasher))
    (fun s' news op ⟨hsucc, hvalid⟩ => ⟨hsucc.trans (.failed s' op), hvalid⟩)
    (fun s' news op u s'' hw hw' ⟨hsucc, hvalid⟩ heffect =>
      ⟨hsucc.trans (heffect.frame.succession hw hw'), fun h => heffect.valid hw (hvalid h)⟩)
    errands b s [] hb ⟨.refl s, id⟩ hclock
  -- The books are the outcomes themselves.
  have hnews : (accounts.outcomes b errands).foldl (fun before o => before ++ [o]) [] =
      accounts.outcomes b errands := by
    simp [← List.flatMap_def]
  exact ⟨s', hs', hkeeps, hnews ▸ hsucc, hvalid⟩

/-! ## Hashes -/

/-- What the server keeps in place of a password begins with the algorithm that has made it. -/
theorem PasswordHasher.isPrefix_of_argon2 {w : WorkFactor} {salt : List UInt8}
    {password stored : String} (h : (PasswordHasher.argon2 w).hash salt password = .ok stored) :
    "$argon2id$v=19$".toList <+: stored.toList := by
  obtain rfl : String.ofList (w.phc salt password).chars = stored := Except.ok.inj h
  have hversion : Nat.toDigits 10 19 = ['1', '9'] := by decide
  simp [Phc.chars, WorkFactor.phc, hversion]

/-! ## All accounts -/

/-- Only a login sets the time of the last login. -/
theorem Operation.owner_of_lastLogin {op : Operation} :
    Field.lastLogin ∈ op.owned ↔ ∃ username password, op = .login username password := by
  cases op <;> simp [owned]

/-- Only a logout sets the time of the last logout. -/
theorem Operation.owner_of_lastLogout {op : Operation} :
    Field.lastLogout ∈ op.owned ↔ ∃ id, op = .logout id := by
  cases op <;> simp [owned]

/-- **Accounts live on.** Over a store of any kind that was empty once, whatever is asked of the
service:

* every record is valid and has a hash, and no two share a username or an identifier;
* between any two times every account lives on unless it was deleted, and comes from the one before
  or from a registration;
* wherever an account goes, its time of creation stays, and any other field is what it was or what a
  success of an operation that owns it has made of it since. The time of the last login is owned by
  logins alone, and that of the last logout by logouts. -/
theorem accounts_live_on (accounts : Accounts) {b : Backend} (hempty : b.Holds .empty)
    {before between : List Visit} (hclock : b.KeepsAll (errandsOf (before ++ between))) :
    let news := accounts.outcomes (accounts.visited b before) (errandsOf between)
    ∃ s s', (accounts.visited b before).Holds s ∧
      (accounts.visited b (before ++ between)).Holds s' ∧
      (∀ u ∈ s'.users, u.Valid accounts.hasher ∧ u.passwordHash ≠ "" ∧
        ∀ w, accounts.hasher = .argon2 w → "$argon2id$v=19$".toList <+: u.passwordHash.toList) ∧
      (s'.users.map User.username).Nodup ∧ (s'.users.map User.id).Nodup ∧
      s.Succession news s' ∧
      (∀ u v, u.Becomes news v →
        v.created = u.created ∧ ∀ f : Field, f.Same v u ∨ u.Owes news f v) ∧
      ∀ op : Operation,
        (.lastLogin ∈ op.owned ↔ ∃ username password, op = .login username password) ∧
        (.lastLogout ∈ op.owned ↔ ∃ id, op = .logout id) := by
  intro news
  have hsplit : errandsOf (before ++ between) = errandsOf before ++ errandsOf between :=
    List.filterMap_append
  rw [hsplit] at hclock
  obtain ⟨s, hs, hkeeps, -, hvalid⟩ := hempty.exists_succession accounts
    fun errand h => hclock errand (List.mem_append_left _ h)
  have hbetween : (accounts.after b (errandsOf before)).KeepsAll (errandsOf between) :=
    fun errand h n => (hkeeps _).mpr (hclock errand (List.mem_append_right _ h) n)
  obtain ⟨s', hs', -, hsucc, hvalid'⟩ := hs.exists_succession accounts hbetween
  have hall := hvalid' (hvalid (by simp [MemoryStore.empty, MemoryStore.users]))
  rw [← accounts.visited_eq] at hs hsucc
  rw [← accounts.after_append, ← hsplit, ← accounts.visited_eq] at hs'
  refine ⟨s, s', hs, hs', fun u hu => ⟨hall u hu, hs'.wellKept.hashed u hu, ?_⟩,
    hs'.wellKept.usernames, hs'.wellKept.ids, hsucc, fun u v h => ⟨h.created, h.field_cases⟩,
    fun op => ⟨Operation.owner_of_lastLogin, Operation.owner_of_lastLogout⟩⟩
  intro w hw
  obtain ⟨salt, password, hhash⟩ := (hall u hu).hash
  rw [hw] at hhash
  exact PasswordHasher.isPrefix_of_argon2 hhash

/-- Alice is given another identifier, another name and an email, and then logs in. -/
theorem accounts_live_on_after_move :
    let around (id : Nat) : Nat → Surroundings := fun _ =>
      ⟨⟨5, 0, by decide⟩, fun _ => ⟨BitVec.ofNat 128 id⟩, [], 0⟩
    let accounts : Accounts := ⟨.marking⟩
    let b : Backend := .table .empty
    let before : List Visit := [.act ⟨.createUser "alice" "one" "" .normal, around 1⟩]
    let between : List Visit :=
      [.act ⟨.updateUser "00000000-0000-0000-0000-000000000001"
          "00000000-0000-0000-0000-000000000003" "carol" "carol@example.org" .admin, around 0⟩,
        .consult .getAllUsers (around 0), .act ⟨.login "carol" "one", around 0⟩]
    let news := accounts.outcomes (accounts.visited b before) (errandsOf between)
    b.Holds .empty ∧ b.KeepsAll (errandsOf (before ++ between)) ∧
      (∃ s s', (accounts.visited b before).Holds s ∧
        (accounts.visited b (before ++ between)).Holds s' ∧
        (∀ u ∈ s'.users, u.Valid accounts.hasher) ∧ s.Succession news s') ∧
      news.map (fun o => o.answer?.map User.id) = [some ⟨3⟩, some ⟨3⟩] := by
  intro around accounts b before between news
  have hnow : Instant.Storable ⟨5, 0, by decide⟩ := by decide
  have hempty : b.Holds .empty := .table .empty
  have hclock : b.KeepsAll (errandsOf (before ++ between)) := by
    intro errand herrand n
    simp only [before, between, errandsOf, Visit.errand?, List.cons_append, List.nil_append,
      List.filterMap_cons, List.filterMap_nil, List.mem_cons, List.not_mem_nil, or_false] at herrand
    rcases herrand with rfl | rfl | rfl <;> exact .table _ hnow
  obtain ⟨s, s', hs, hs', hvalid, -, -, hsucc, -⟩ := accounts_live_on accounts hempty hclock
  refine ⟨hempty, hclock, ⟨s, s', hs, hs', fun u hu => (hvalid u hu).1, hsucc⟩, ?_⟩
  decide +kernel

end AccountServer
