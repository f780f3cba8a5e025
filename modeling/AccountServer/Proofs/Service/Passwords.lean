import Mathlib.Logic.Function.Basic
import AccountServer.Proofs.Service.EitherStore
import AccountServer.Proofs.Service.Races

/-!
# Passwords

Who may log in is decided by the password that was set last. A `PasswordTable` keeps the passwords
of all accounts from the outcomes of errands alone; the store keeps their hashes. `Follows` is the
simulation between the two, and `login_follows_password_table` what it says about logging in.
-/

namespace AccountServer

/-- A kept hash is good for the password that it was made of, and for no other. -/
def PasswordHasher.Sound (hasher : PasswordHasher) : Prop :=
  ∀ salt password stored, hasher.hash salt password = .ok stored → ∀ attempt,
    hasher.verify attempt stored = if attempt = password then .ok () else .error .mismatch

/-! ## The table of passwords -/

/-- The passwords of the accounts that there are. -/
abbrev PasswordTable := Uuid → Option String

namespace PasswordTable

def empty : PasswordTable := fun _ => none

/-- Takes in what came of an errand. Only a success changes the table. -/
def record (t : PasswordTable) (o : Outcome) : PasswordTable :=
  match o.answer? with
  | none => t
  | some u =>
    match o.op with
    | .createUser _ password _ _ | .updatePassword _ password | .ensureAdmin _ password =>
      Function.update t u.id (some password)
    | .updateUser currentId .. =>
      match Uuid.parse? currentId with
      | some current => Function.update (Function.update t current none) u.id (t current)
      | none => t
    | .deleteUser _ => Function.update t u.id none
    | .login .. | .logout _ => t

/-- The table after some outcomes. -/
def ofOutcomes (outcomes : List Outcome) : PasswordTable := outcomes.foldl record empty

end PasswordTable

/-! ## The store follows the table -/

/-- A record is there exactly if there is a password, and its hash was made of that password. -/
inductive PasswordHasher.Keeps (hasher : PasswordHasher) : Option User → Option String → Prop where
  | nobody : Keeps hasher none none
  | somebody (u : User) (salt : List UInt8) (password : String)
      (hash : hasher.hash salt password = .ok u.passwordHash) :
      Keeps hasher (some u) (some password)

/-- The store holds the hashes of the passwords in the table. -/
def MemoryStore.Follows (hasher : PasswordHasher) (s : MemoryStore) (t : PasswordTable) : Prop :=
  ∀ id, hasher.Keeps (s.get? id) (t id)

namespace MemoryStore.Follows

variable {hasher : PasswordHasher} {s : MemoryStore} {t : PasswordTable}

theorem empty : MemoryStore.empty.Follows hasher .empty := fun _ => .nobody

theorem erase (h : s.Follows hasher t) (id : Uuid) :
    (s.erase id).Follows hasher (Function.update t id none) := by
  intro other
  rw [get?_erase, Function.update_apply]
  split
  · exact .nobody
  · exact h other

theorem insert (h : s.Follows hasher t) {u : User} {password : String} {salt : List UInt8}
    (hash : hasher.hash salt password = .ok u.passwordHash) :
    (s.insert u).Follows hasher (Function.update t u.id (some password)) := by
  intro other
  rw [get?_insert, Function.update_apply]
  split
  · exact .somebody u salt password hash
  · exact h other

theorem exists_password (h : s.Follows hasher t) {id : Uuid} {u : User} (hu : s.get? id = some u) :
    ∃ salt password, t id = some password ∧ hasher.hash salt password = .ok u.passwordHash := by
  have hkeeps := h id
  rw [hu] at hkeeps
  generalize t id = password at hkeeps
  cases hkeeps with
  | somebody _ salt password hash => exact ⟨salt, password, rfl, hash⟩

theorem isSome (h : s.Follows hasher t) (id : Uuid) : (t id).isSome = s.contains id := by
  have hkeeps := h id
  unfold contains
  generalize s.get? id = record, t id = password at hkeeps
  cases hkeeps with
  | nobody => rfl
  | somebody => rfl

/-- A record that moves takes its password along. -/
theorem move (h : s.Follows hasher t) {old u : User} (found : s.get? old.id = some old)
    (hash : u.passwordHash = old.passwordHash) :
    ((s.erase old.id).insert u).Follows hasher
      (Function.update (Function.update t old.id none) u.id (t old.id)) := by
  obtain ⟨salt, password, ht, hpassword⟩ := h.exists_password found
  rw [ht]
  exact (h.erase old.id).insert (hash ▸ hpassword)

theorem stay (h : s.Follows hasher t) {old u : User} (found : s.get? old.id = some old)
    (hid : u.id = old.id) (hash : u.passwordHash = old.passwordHash) :
    ((s.erase old.id).insert u).Follows hasher t := by
  have hmove := h.move found hash
  rwa [hid, Function.update_idem, Function.update_eq_self] at hmove

theorem renew (h : s.Follows hasher t) {old u : User} {password : String} {salt : List UInt8}
    (hid : u.id = old.id) (hash : hasher.hash salt password = .ok u.passwordHash) :
    ((s.erase old.id).insert u).Follows hasher (Function.update t u.id (some password)) := by
  have heq : Function.update (Function.update t old.id none) u.id (some password) =
      Function.update t u.id (some password) := by
    rw [hid, Function.update_idem]
  exact heq ▸ (h.erase old.id).insert hash

/-- A success takes store and table on together. -/
theorem effect {accounts : Accounts} {op : Operation} {u : User} {s' : MemoryStore}
    (h : s.Follows accounts.hasher t) (he : op.Effect accounts s u s') :
    s'.Follows accounts.hasher (t.record ⟨op, some u⟩) := by
  cases he with
  | rewrote l old v now hl finds found rewrites vacant stored =>
    subst stored
    cases op with
    | login username password =>
      obtain ⟨-, now', rfl⟩ := rewrites
      exact h.stay found rfl rfl
    | logout id =>
      obtain ⟨now', rfl⟩ := rewrites
      exact h.stay found rfl rfl
    | updateUser currentId newId username email role =>
      obtain ⟨id, email', -, -, -, rfl⟩ := rewrites
      obtain ⟨current, hparse, rfl⟩ := Option.map_eq_some_iff.mp hl
      obtain rfl : old.id = current := finds
      simp only [PasswordTable.record, hparse]
      exact h.move found rfl
    | updatePassword id password =>
      obtain ⟨-, salt, hash, heq, rfl⟩ := rewrites
      exact h.renew rfl heq
    | ensureAdmin username password =>
      obtain ⟨-, salt, hash, heq, rfl⟩ := rewrites
      exact h.renew rfl heq
    | createUser _ _ _ _ | deleteUser _ => exact rewrites.elim
  | registered v id now registers name free stored =>
    subst stored
    cases op with
    | createUser username password email role =>
      obtain ⟨email', salt, hash, -, -, -, heq, rfl⟩ := registers
      exact h.insert heq
    | ensureAdmin username password =>
      obtain ⟨email', salt, hash, -, -, -, heq, rfl⟩ := registers
      exact h.insert heq
    | login _ _ | logout _ | updateUser _ _ _ _ _ | updatePassword _ _ | deleteUser _ =>
      exact registers.elim
  | removed text hop hid found =>
    subst hop
    exact h.erase u.id

end MemoryStore.Follows

/-- After any errands the store follows the table of their outcomes. -/
theorem Accounts.follows_after (accounts : Accounts) (errands : List Errand) :
    (accounts.after MemoryStore.empty errands).Follows accounts.hasher
      (.ofOutcomes (accounts.outcomes MemoryStore.empty errands)) := by
  have hstart : MemoryStore.empty.Follows accounts.hasher .empty := .empty
  refine accounts.books_kept (I := fun s t => s.Follows accounts.hasher t) ?_ ?_ errands .empty
    hstart
  · exact fun _ _ _ h => h
  · exact fun _ _ _ _ _ _ h heffect => h.effect heffect

/-! ## Logging in -/

namespace Accounts

variable {accounts : Accounts} {s : MemoryStore}

theorem login_eq (accounts : Accounts) (username password : String) :
    accounts.login username password =
      (Lookup.byName username).plan fun
        | .ok user => accounts.verifyPassword password user.passwordHash >>= fun _ =>
            Plan.clock >>= fun now =>
              demand (.update user.id { user with lastLogin := some now })
        | .error .notFound => .done (.error .badCredentials)
        | .error e => .done (.error (.store (.store e))) :=
  congrArg (Plan.ask _) (funext fun answer => by
    cases answer with
    | ok user => rfl
    | error e => cases e <;> rfl)

/-- Nobody has the name, so the login fails. -/
theorem login_of_missing (hw : s.WellKept) {username : String}
    (h : ∀ u ∈ s.users, u.username ≠ username) (password : String)
    (around : Nat → Surroundings) :
    (accounts.login username password).run around s = (.error .badCredentials, s) := by
  have hanswer : (Lookup.byName username).answer s = .error .notFound := by
    rcases (Lookup.byName username).answer_eq hw with ⟨u, hu, hname, -⟩ | ⟨-, heq⟩
    · exact absurd hname (h u hu)
    · exact heq
  rw [login_eq, Lookup.run_plan, hanswer]
  rfl

/-- A password that is not the one of the account does not get anybody in. -/
theorem login_of_mismatch (hw : s.WellKept) {u : User} (hu : u ∈ s.users) {password : String}
    (h : accounts.hasher.verify password u.passwordHash = .error .mismatch)
    (around : Nat → Surroundings) :
    (accounts.login u.username password).run around s = (.error .badCredentials, s) := by
  have hanswer := Lookup.answer_of_finds (l := .byName u.username) hw hu rfl
  rw [login_eq, Lookup.run_plan, hanswer]
  simp only [verifyPassword, h]
  rfl

/-- A login with the right password is recorded. -/
theorem login_of_match (hw : s.WellKept) {u : User} (hu : u ∈ s.users) {password : String}
    (h : accounts.hasher.verify password u.passwordHash = .ok ()) (around : Nat → Surroundings) :
    let v : User := { u with lastLogin := some (around 1).now, modified := (around 2).now }
    (accounts.login u.username password).run around s = (.ok v, (s.erase u.id).insert v) := by
  intro v
  have hanswer := Lookup.answer_of_finds (l := .byName u.username) hw hu rfl
  rw [login_eq, Lookup.run_plan, hanswer]
  have hwrite := Write.perform_update_of_same (v := { u with lastLogin := some (around 1).now }) hw
    hu rfl rfl (hw.hashed u hu) (around 2)
  simp only [verifyPassword, h, Operation.demand_eq]
  show ((Write.update u.id { u with lastLogin := some (around 1).now }).plan _).run
    (fun n => around (n + 2)) s = _
  rw [Write.run_plan, hwrite]
  rfl

end Accounts

namespace MemoryStore.Follows

variable {accounts : Accounts} {s : MemoryStore} {t : PasswordTable}

/-- The password in the table gets its owner in. -/
theorem login_of_password (hs : accounts.hasher.Sound) (hw : s.WellKept)
    (h : s.Follows accounts.hasher t) {u : User} (hu : u ∈ s.users) {password : String}
    (ht : t u.id = some password) (around : Nat → Surroundings) :
    let v : User := { u with lastLogin := some (around 1).now, modified := (around 2).now }
    (accounts.login u.username password).run around s = (.ok v, (s.erase u.id).insert v) := by
  obtain ⟨salt, kept, hkept, hash⟩ := h.exists_password (get?_of_mem hw hu)
  have hverify : accounts.hasher.verify password u.passwordHash = .ok () := by
    rw [hs salt kept _ hash, if_pos (Option.some.inj (ht.symm.trans hkept))]
  exact Accounts.login_of_match hw hu hverify around

/-- Without the password in the table nobody gets in. -/
theorem login_of_no_password (hs : accounts.hasher.Sound) (hw : s.WellKept)
    (h : s.Follows accounts.hasher t) {username password : String}
    (hno : ∀ u ∈ s.users, u.username = username → t u.id ≠ some password)
    (around : Nat → Surroundings) :
    (accounts.login username password).run around s = (.error .badCredentials, s) := by
  by_cases hsome : ∃ u ∈ s.users, u.username = username
  · obtain ⟨u, hu, rfl⟩ := hsome
    obtain ⟨salt, kept, hkept, hash⟩ := h.exists_password (get?_of_mem hw hu)
    have hne : password ≠ kept := fun heq => hno u hu rfl (heq ▸ hkept)
    have hverify : accounts.hasher.verify password u.passwordHash = .error .mismatch := by
      rw [hs salt kept _ hash, if_neg hne]
    exact Accounts.login_of_mismatch hw hu hverify around
  · exact Accounts.login_of_missing hw (fun u hu hname => hsome ⟨u, hu, hname⟩) password around

theorem login_cases (hs : accounts.hasher.Sound) (hw : s.WellKept)
    (h : s.Follows accounts.hasher t) (username password : String) (around : Nat → Surroundings) :
    (∃ v, ((accounts.login username password).run around s).1 = .ok v) ∨
      ((accounts.login username password).run around s).1 = .error .badCredentials := by
  by_cases hsome : ∃ u ∈ s.users, u.username = username ∧ t u.id = some password
  · obtain ⟨u, hu, rfl, ht⟩ := hsome
    exact Or.inl ⟨_, congrArg Prod.fst (h.login_of_password hs hw hu ht around)⟩
  · have hno : ∀ u ∈ s.users, u.username = username → t u.id ≠ some password :=
      fun u hu hname ht => hsome ⟨u, hu, hname, ht⟩
    exact Or.inr (congrArg Prod.fst (h.login_of_no_password hs hw hno around))

end MemoryStore.Follows

/-- Where a login in memory comes to no other failure than bad credentials, a login over a table
that mirrors the records has the same result. -/
theorem Mirrors.login {accounts : Accounts} {d : TableStore} {s : MemoryStore} (h : Mirrors d s)
    {username password : String} {around : Nat → Surroundings}
    (htimes : ∀ n, (around n).now.Storable)
    (hcases : (∃ v, ((accounts.login username password).run around s).1 = .ok v) ∨
      ((accounts.login username password).run around s).1 = .error .badCredentials) :
    ((accounts.login username password).run around d).1 =
        ((accounts.login username password).run around s).1 ∧
      Mirrors ((accounts.login username password).run around d).2
        ((accounts.login username password).run around s).2 := by
  have hportable := Operation.portable accounts (.login username password)
  obtain ⟨hsame, hmirrors⟩ := hportable.run h ⟨htimes, nofun⟩
  refine ⟨?_, hmirrors⟩
  change SameResult ((accounts.login username password).run around s).1
    ((accounts.login username password).run around d).1 at hsame
  rcases hcases with ⟨v, heq⟩ | heq
  · rw [heq] at hsame ⊢
    exact hsame.eq_of_ok
  · rw [heq] at hsame ⊢
    exact hsame.eq_of_badCredentials

/-- **Who may log in.** After any errands, failed ones among them, there is a password for every
account and for nobody else. Whoever gives the username of an account and its password is logged in:
he gets the record with the time, and nothing else changes. Anybody else is told that the
credentials are bad, and nothing changes at all. Over a table it is the same: its rows are those of
the records, and a login has the same result and leaves rows that are again those of the records. -/
theorem login_follows_password_table {accounts : Accounts} (hs : accounts.hasher.Sound)
    (errands : List Errand) :
    let s := accounts.after MemoryStore.empty errands
    let t := PasswordTable.ofOutcomes (accounts.outcomes MemoryStore.empty errands)
    (∀ id, (t id).isSome = s.contains id) ∧
    (∀ (username password : String) (around : Nat → Surroundings),
      (∀ u ∈ s.users, u.username = username → t u.id = some password →
        let v : User := { u with lastLogin := some (around 1).now, modified := (around 2).now }
        (accounts.login username password).run around s = (.ok v, (s.erase u.id).insert v)) ∧
      ((∀ u ∈ s.users, u.username = username → t u.id ≠ some password) →
        (accounts.login username password).run around s = (.error .badCredentials, s))) ∧
    (accounts.Suited .empty errands →
      let d := accounts.after TableStore.empty errands
      PasswordTable.ofOutcomes (accounts.outcomes TableStore.empty errands) = t ∧ Mirrors d s ∧
      ∀ (username password : String) (around : Nat → Surroundings),
        (∀ n, (around n).now.Storable) →
        ((accounts.login username password).run around d).1 =
          ((accounts.login username password).run around s).1 ∧
        Mirrors ((accounts.login username password).run around d).2
          ((accounts.login username password).run around s).2) := by
  intro s t
  have hw : s.WellKept := accounts.wellKept_after errands .empty
  have hfollows : s.Follows accounts.hasher t := accounts.follows_after errands
  refine ⟨hfollows.isSome, fun username password around => ⟨?_, ?_⟩, fun hsuited => ?_⟩
  · rintro u hu rfl ht
    exact hfollows.login_of_password hs hw hu ht around
  · exact fun hno => hfollows.login_of_no_password hs hw hno around
  · obtain ⟨hmirrors, houtcomes⟩ := Mirrors.empty.after accounts errands hsuited
    refine ⟨congrArg PasswordTable.ofOutcomes houtcomes, hmirrors, ?_⟩
    exact fun username password around htimes =>
      hmirrors.login htimes (hfollows.login_cases hs hw username password around)

theorem PasswordHasher.marking_sound : PasswordHasher.marking.Sound := by
  intro salt password stored h attempt
  rw [← Except.ok.inj h]
  show (if "$" ++ password = "$" ++ attempt then _ else _) = _
  simp [eq_comm]

/-- A user is created and renamed, the name is taken by another user, and the first one gets another
password. Both log in with what is theirs now, and not with what was theirs before, be it over a
table or in memory. -/
theorem login_follows_password_table_after_rename :
    let around (id : Nat) : Nat → Surroundings := fun _ =>
      ⟨⟨5, 0, by decide⟩, fun _ => ⟨BitVec.ofNat 128 id⟩, [], 0⟩
    let first := "00000000-0000-0000-0000-000000000001"
    let accounts : Accounts := ⟨.marking⟩
    let errands : List Errand :=
      [⟨.createUser "alice" "one" "" .normal, around 1⟩,
        ⟨.updateUser first first "alicia" "" .normal, around 0⟩,
        ⟨.createUser "alice" "two" "" .normal, around 2⟩,
        ⟨.updatePassword first "three", around 0⟩, ⟨.updatePassword first "", around 0⟩]
    let s := accounts.after MemoryStore.empty errands
    let d := accounts.after TableStore.empty errands
    accounts.hasher.Sound ∧ accounts.Suited .empty errands ∧
      (∃ u s', (accounts.login "alicia" "three").run (around 0) s = (.ok u, s')) ∧
      (∃ u s', (accounts.login "alice" "two").run (around 0) s = (.ok u, s')) ∧
      (accounts.login "alice" "one").run (around 0) s = (.error .badCredentials, s) ∧
      ((accounts.login "alice" "one").run (around 0) d).1 = .error .badCredentials := by
  intro around first accounts errands s d
  have hsound : accounts.hasher.Sound := PasswordHasher.marking_sound
  have hnow : Instant.Storable ⟨5, 0, by decide⟩ := by decide
  have htimes : ∀ id n, (around id n).now.Storable := fun _ _ => hnow
  have hfree : (accounts.after MemoryStore.empty (errands.take 2)).get? ⟨2⟩ = none := by
    decide +kernel
  have hsuited : accounts.Suited .empty errands :=
    ⟨⟨htimes 1, fun _ _ => rfl⟩, ⟨htimes 0, nofun⟩, ⟨htimes 2, fun _ _ => hfree⟩,
      ⟨htimes 0, nofun⟩, ⟨htimes 0, nofun⟩, trivial⟩
  obtain ⟨-, hlogin, htable⟩ := login_follows_password_table hsound errands
  obtain ⟨-, -, hover⟩ := htable hsuited
  let t := PasswordTable.ofOutcomes (accounts.outcomes MemoryStore.empty errands)
  have hpasswords : t ⟨1⟩ = some "three" ∧ t ⟨2⟩ = some "two" := by decide +kernel
  have husers : s.users.map (fun u => (u.username, u.id)) = [("alicia", ⟨1⟩), ("alice", ⟨2⟩)] := by
    decide +kernel
  have hknown {username : String} {id : Uuid}
      (h : (username, id) ∈ [("alicia", (⟨1⟩ : Uuid)), ("alice", ⟨2⟩)]) :
      ∃ u ∈ s.users, u.username = username ∧ u.id = id := by
    obtain ⟨u, hu, heq⟩ := List.mem_map.mp (husers ▸ h)
    exact ⟨u, hu, congrArg Prod.fst heq, congrArg Prod.snd heq⟩
  have hrefused :
      (accounts.login "alice" "one").run (around 0) s = (.error .badCredentials, s) := by
    refine (hlogin _ _ _).2 fun u hu hname ht => ?_
    have hmem : (u.username, u.id) ∈ [("alicia", (⟨1⟩ : Uuid)), ("alice", ⟨2⟩)] :=
      husers ▸ List.mem_map_of_mem hu
    simp only [List.mem_cons, Prod.mk.injEq, List.not_mem_nil, or_false, hname] at hmem
    rcases hmem with ⟨hother, -⟩ | ⟨-, hid⟩
    · exact absurd hother (by decide)
    · rw [hid] at ht
      exact absurd (ht.symm.trans hpasswords.2) (by decide)
  refine ⟨hsound, hsuited, ?_, ?_, hrefused, ?_⟩
  · obtain ⟨u, hu, hname, hid⟩ := hknown List.mem_cons_self
    exact ⟨_, _, (hlogin _ _ _).1 u hu hname (hid ▸ hpasswords.1)⟩
  · obtain ⟨u, hu, hname, hid⟩ := hknown (List.mem_cons_of_mem _ List.mem_cons_self)
    exact ⟨_, _, (hlogin _ _ _).1 u hu hname (hid ▸ hpasswords.2)⟩
  · rw [(hover "alice" "one" (around 0) (htimes 0)).1]
    exact congrArg Prod.fst hrefused

end AccountServer
