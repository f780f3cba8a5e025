import AccountServer.Proofs.Service.Foreseen
import AccountServer.Proofs.Service.Frame
import AccountServer.Proofs.Service.Passwords
import AccountServer.Proofs.Text.Split
import AccountServer.Server.Startup

/-!
# What a start does to the accounts

A start reads the settings of accounts, opens the store, checks the settings and sets the admin up,
in this order, and only the last step changes a record. It fails with the first thing that goes
wrong (`Startup.Fails`).

* A configuration that has passed its own check names databases that are declared and fit to be
  opened, so that only a connector can fail (`openStore_eq_error_iff`).
* `run_services` says what a start does once the store is open, and `build_over` what that comes to
  on the records in it.
* `MemoryStore.Grants` says what the store is like when the admin has been set up, and
  `after_grants` who is let in then.
* `MemoryStore.SameBut` is what any number of further starts leaves of the records.
-/

namespace AccountServer

/-! ## Checked configurations -/

namespace Config

theorem validate_eq_ok {config : Config} (h : config.validate = .ok ()) :
    (∀ name database, (name, database) ∈ config.databases → database.validate = .ok ()) ∧
      ∀ name api, (name, api) ∈ config.apis → api.enabled = true →
        ∀ used ∈ api.uses, (config.databases.lookup used).isSome = true := by
  unfold validate at h
  split at h
  · cases h
  · obtain ⟨⟨⟩, hdatabases, hapis⟩ := bind_eq_ok_iff.mp h
    rw [forM_eq_ok_iff] at hdatabases hapis
    refine ⟨fun name database hmem => ?_, fun name api hmem henabled used hused => ?_⟩
    · have hvalid := hdatabases _ hmem
      cases hdatabase : database.validate with
      | ok => rfl
      | error e =>
        rw [validateDatabase, hdatabase] at hvalid
        cases hvalid
    · -- Only what is enabled is looked at.
      have hvalid := hapis _ hmem
      rw [validateApi, if_pos henabled, forM_eq_ok_iff] at hvalid
      have hdeclared := hvalid used hused
      split at hdeclared
      · next hsome => exact hsome
      · cases hdeclared

end Config

/-! ## Opening the store -/

/-- There is no connector for the database, or it has failed. -/
def Registry.Refuses {T : Type} (registry : Registry T) (database : DatabaseConfig)
    (e : StoreError) : Prop :=
  match registry.connectors.lookup database.kind with
  | some connector => connector database = .error e
  | none => e = .configuration (.noConnector database.kind.name)

theorem Registry.connect_eq_error_iff {T : Type} (registry : Registry T)
    {database : DatabaseConfig} (h : database.validate = .ok ()) {e : StoreError} :
    registry.connect database = .error e ↔ registry.Refuses database e := by
  -- Once the check is passed, the connector is all that matters.
  have hconnect : registry.connect database =
      match registry.connectors.lookup database.kind with
      | some connector => connector database
      | none => .error (.configuration (.noConnector database.kind.name)) := by
    rw [connect, h]
    rfl
  rw [hconnect, Refuses]
  cases registry.connectors.lookup database.kind with
  | none => exact ⟨fun he => (Except.error.inj he).symm, fun he => congrArg Except.error he.symm⟩
  | some connector => exact Iff.rfl

namespace DatabaseConfig

theorem maxConnections_ne_zero {database : DatabaseConfig} (h : database.validate = .ok ()) :
    database.maxConnections ≠ 0 := by
  intro hzero
  rw [validate, if_pos hzero] at h
  cases h

theorem exists_sqlitePath {database : DatabaseConfig} (h : database.validate = .ok ())
    (hkind : database.kind = .sqlite) : ∃ text, database.sqlitePath = .ok text := by
  rw [validate, if_neg (maxConnections_ne_zero h), if_pos hkind] at h
  obtain ⟨text, htext, -⟩ := bind_eq_ok_iff.mp h
  exact ⟨text, htext⟩

end DatabaseConfig

/-- What a disk can have against a checked database is a folder that cannot be made or a file that
cannot be opened. -/
theorem Disk.registry_refuses {d : Disk} {database : DatabaseConfig} {e : StoreError}
    (hvalid : database.validate = .ok ()) (h : d.registry.Refuses database e) :
    (∃ folder, e = .configuration (.directory folder)) ∨ e = .connection .unreadable := by
  cases hkind : database.kind with
  | inMemory =>
    rw [Registry.Refuses, hkind] at h
    cases h
  | sqlite =>
    obtain ⟨text, htext⟩ := DatabaseConfig.exists_sqlitePath hvalid hkind
    rw [Registry.Refuses, hkind] at h
    change (d.openFile database).1.map _ = .error e at h
    rw [openFile, htext] at h
    simp only [if_neg (DatabaseConfig.maxConnections_ne_zero hvalid)] at h
    split at h
    · split at h
      · cases h
      · exact Or.inr (Except.error.inj h).symm
    · exact Or.inl ⟨_, (Except.error.inj h).symm⟩

namespace Startup

variable {config : Config} {σ : Type}

theorem uses_declared (hvalid : config.validate = .ok ()) {name : String}
    (h : (accountsApi? config).bind (·.uses.head?) = some name) :
    ∃ database, config.databases.lookup name = some database ∧ database.validate = .ok () := by
  obtain ⟨hdatabases, hapis⟩ := Config.validate_eq_ok hvalid
  obtain ⟨api, hapi, hhead⟩ := Option.bind_eq_some_iff.mp h
  obtain ⟨hlookup, henabled⟩ := Option.filter_eq_some_iff.mp hapi
  have hdeclared := hapis _ api (mem_of_lookup hlookup) henabled name
    (List.mem_of_mem_head? hhead)
  obtain ⟨database, hdatabase⟩ := Option.isSome_iff_exists.mp hdeclared
  exact ⟨database, hdatabase, hdatabases name database (mem_of_lookup hdatabase)⟩

/-- The store of a checked configuration is not opened exactly if a connector fails on a database
that is declared and fit to be opened. -/
theorem openStore_eq_error_iff (hvalid : config.validate = .ok ()) (registry : Registry σ)
    (fallback : σ) {fault : StartFault} :
    openStore config registry fallback = .error fault ↔ ∃ name database e, fault = .store name e ∧
      (accountsApi? config).bind (·.uses.head?) = some name ∧
      config.databases.lookup name = some database ∧ database.validate = .ok () ∧
      registry.Refuses database e := by
  unfold openStore
  cases hname : (accountsApi? config).bind (·.uses.head?) with
  | none =>
    constructor
    · exact nofun
    · rintro ⟨_, _, _, -, hsome, -⟩
      cases hsome
  | some name =>
    obtain ⟨database, hdatabase, hok⟩ := uses_declared hvalid hname
    simp only [hdatabase]
    constructor
    · intro h
      cases hconnect : registry.connect database with
      | ok store =>
        rw [hconnect] at h
        cases h
      | error e =>
        rw [hconnect] at h
        obtain rfl : .store name e = fault := Except.error.inj h
        exact ⟨name, database, e, rfl, rfl, hdatabase, hok,
          (registry.connect_eq_error_iff hok).mp hconnect⟩
    · rintro ⟨name', database', e, rfl, hsame, hdatabase', -, hrefuses⟩
      obtain rfl : name = name' := Option.some.inj hsame
      obtain rfl : database = database' := Option.some.inj (hdatabase.symm.trans hdatabase')
      rw [(registry.connect_eq_error_iff hok).mpr hrefuses]
      rfl

end Startup

/-! ## What the settings ask for -/

namespace AuthSettings

/-- The settings of the tokens, and the admin to be set up, if nothing is wrong with either. -/
def wants (settings : AuthSettings) (secret : List UInt8) :
    Except AccountError (TokenSettings × Option (String × String)) := do
  let tokens ← settings.tokenSettings
    ((settings.secret.map fun text => text.toUTF8.toList).getD secret)
  let credentials ← settings.adminCredentials
  return (tokens, credentials)

theorem adminCredentials_of_wants {settings : AuthSettings} {secret : List UInt8}
    {tokens : TokenSettings} {credentials : Option (String × String)}
    (h : settings.wants secret = .ok (tokens, credentials)) :
    settings.adminCredentials = .ok credentials := by
  obtain ⟨_, -, h⟩ := bind_eq_ok_iff.mp h
  obtain ⟨_, hcredentials, heq⟩ := bind_eq_ok_iff.mp h
  cases heq
  exact hcredentials

theorem adminCredentials_of_none {settings : AuthSettings} (h : settings.admin = none) :
    settings.adminCredentials = .ok none := by
  rw [adminCredentials, h]

/-- The credentials are the text up to the first colon and the text after it. -/
theorem adminCredentials_of_some {settings : AuthSettings} {text : String}
    (h : settings.admin = some text) {credentials : Option (String × String)}
    (hok : settings.adminCredentials = .ok credentials) :
    ∃ username password, credentials = some (username, password) ∧
      text = username ++ ":" ++ password ∧ ':' ∉ username.toList := by
  rw [adminCredentials, h] at hok
  dsimp only at hok
  split at hok
  · next c username d password hsplit =>
    obtain ⟨hcolon, heq⟩ := Text.splitFirst_eq_some_iff.mp hsplit
    refine ⟨_, _, (Except.ok.inj hok).symm, String.toList_injective ?_, by simpa using hcolon⟩
    simp [heq]
  · cases hok

end AuthSettings

/-! ## How a start goes -/

namespace Startup

/-- The services of a start with these settings. -/
def started (hasher : PasswordHasher) (tokens : TokenSettings) : Services :=
  ⟨⟨hasher⟩, { settings := tokens }⟩

/-- The last step answers as the operation does, in other words. -/
theorem run_ensureAdmin {σ : Type} [AccountStore σ] (hasher : PasswordHasher)
    (username password : String) (ready : Services) (around : Nat → Surroundings) (b : σ) :
    let admin := (Accounts.mk hasher).perform ⟨.ensureAdmin username password, around⟩ b
    (((Accounts.mk hasher).ensureAdmin username password).mapError StartFault.admin >>=
      fun _ => pure ready).run around b =
        ((admin.1.mapError StartFault.admin).map fun _ => ready, admin.2) := by
  intro admin
  have hset : (((Accounts.mk hasher).ensureAdmin username password).mapError
      StartFault.admin).run around b = (admin.1.mapError .admin, admin.2) :=
    Plan.run_mapResult _ _ around b
  cases hresult : admin.1 with
  | error e =>
    rw [hresult] at hset
    exact Plan.run_bind_error _ hset
  | ok u =>
    rw [hresult] at hset
    obtain ⟨_, hrun⟩ := Plan.run_bind_ok (fun _ => pure ready) hset
    exact hrun

/-- Nothing is asked of the store but to set the admin up, and that comes last. -/
theorem run_services {σ : Type} [AccountStore σ] (hasher : PasswordHasher)
    (settings : AuthSettings) (secret : List UInt8) (around : Nat → Surroundings) (b : σ) :
    (services hasher settings secret).run around b =
      match settings.wants secret with
      | .error e => (.error (.settings e), b)
      | .ok (tokens, none) => (.ok (started hasher tokens), b)
      | .ok (tokens, some (username, password)) =>
        let admin := (Accounts.mk hasher).perform ⟨.ensureAdmin username password, around⟩ b
        ((admin.1.mapError StartFault.admin).map fun _ => started hasher tokens, admin.2) := by
  unfold services AuthSettings.wants
  dsimp only
  generalize (settings.secret.map fun text => text.toUTF8.toList).getD secret = key
  cases settings.tokenSettings key with
  | error e => rfl
  | ok tokens =>
    cases settings.adminCredentials with
    | error e => rfl
    | ok credentials =>
      cases credentials with
      | none => rfl
      | some credentials =>
        obtain ⟨username, password⟩ := credentials
        exact run_ensureAdmin hasher username password (started hasher tokens) around b

/-- Why a start fails, which is the first of these things that goes wrong. -/
inductive Fails {σ : Type} [AccountStore σ] (config : Config) (registry : Registry σ)
    (fallback : σ) (hasher : PasswordHasher) (secret : List UInt8)
    (around : Nat → Surroundings) : StartFault → Prop where
  /-- The section on accounts is not as it should be. -/
  | unread {e : ConfigError} (reads : authSettings config = .error (.config e)) :
      Fails config registry fallback hasher secret around (.config e)
  /-- The database is fit to be opened, and its connector has failed. -/
  | unopened {settings : AuthSettings} {name : String} {database : DatabaseConfig} {e : StoreError}
      (reads : authSettings config = .ok settings)
      (uses : (accountsApi? config).bind (·.uses.head?) = some name)
      (declared : config.databases.lookup name = some database)
      (valid : database.validate = .ok ()) (refuses : registry.Refuses database e) :
      Fails config registry fallback hasher secret around (.store name e)
  /-- Secret, lifetime or credentials are not as they should be. -/
  | unsettled {settings : AuthSettings} {b : σ} {e : AccountError}
      (reads : authSettings config = .ok settings)
      (opens : openStore config registry fallback = .ok b)
      (wants : settings.wants secret = .error e) :
      Fails config registry fallback hasher secret around (.settings e)
  /-- The admin cannot be set up. -/
  | refused {settings : AuthSettings} {b : σ} {tokens : TokenSettings} {username password : String}
      {e : AccountError} (reads : authSettings config = .ok settings)
      (opens : openStore config registry fallback = .ok b)
      (wants : settings.wants secret = .ok (tokens, some (username, password)))
      (fails : ((Accounts.mk hasher).perform ⟨.ensureAdmin username password, around⟩ b).1 =
        .error e) :
      Fails config registry fallback hasher secret around (.admin e)

theorem authSettings_eq_error {config : Config} {fault : StartFault}
    (h : authSettings config = .error fault) : ∃ e, fault = .config e := by
  unfold authSettings at h
  split at h
  · next api _ =>
    cases hread : api.readSection Component.auth.name AuthSettings.decode with
    | ok settings =>
      rw [hread] at h
      cases h
    | error e =>
      rw [hread] at h
      exact ⟨e, (Except.error.inj h).symm⟩
  · cases h

section Building

variable {config : Config} {σ : Type} [AccountStore σ] {registry : Registry σ} {fallback : σ}
  {hasher : PasswordHasher} {secret : List UInt8} {around : Nat → Surroundings}

theorem build_of_open {settings : AuthSettings} {b : σ}
    (hreads : authSettings config = .ok settings)
    (hopens : openStore config registry fallback = .ok b) :
    let run := (services hasher settings secret).run around b
    build config registry fallback hasher secret around = (run.1, some run.2) := by
  rw [build, hreads, hopens]

theorem Fails.of_run {settings : AuthSettings} {b : σ} {fault : StartFault}
    (hreads : authSettings config = .ok settings)
    (hopens : openStore config registry fallback = .ok b)
    (h : ((services hasher settings secret).run around b).1 = .error fault) :
    Fails config registry fallback hasher secret around fault := by
  rw [run_services] at h
  cases hwants : settings.wants secret with
  | error e =>
    rw [hwants] at h
    obtain rfl : .settings e = fault := Except.error.inj h
    exact .unsettled hreads hopens hwants
  | ok wanted =>
    obtain ⟨tokens, _ | ⟨username, password⟩⟩ := wanted
    · rw [hwants] at h
      cases h
    · rw [hwants] at h
      dsimp only at h
      cases hadmin : ((Accounts.mk hasher).perform
          ⟨.ensureAdmin username password, around⟩ b).1 with
      | ok u =>
        rw [hadmin] at h
        cases h
      | error e =>
        rw [hadmin] at h
        obtain rfl : .admin e = fault := Except.error.inj h
        exact .refused hreads hopens hwants hadmin

/-- A start of a checked configuration fails for these reasons and no others. -/
theorem build_eq_error_iff (hvalid : config.validate = .ok ()) {fault : StartFault} :
    (build config registry fallback hasher secret around).1 = .error fault ↔
      Fails config registry fallback hasher secret around fault := by
  constructor
  · intro h
    cases hreads : authSettings config with
    | error e =>
      rw [build, hreads] at h
      obtain rfl : e = fault := Except.error.inj h
      obtain ⟨e, rfl⟩ := authSettings_eq_error hreads
      exact .unread hreads
    | ok settings =>
      cases hopens : openStore config registry fallback with
      | error e =>
        rw [build, hreads, hopens] at h
        obtain rfl : e = fault := Except.error.inj h
        obtain ⟨name, database, e, rfl, huses, hdeclared, hok, hrefuses⟩ :=
          (openStore_eq_error_iff hvalid registry fallback).mp hopens
        exact .unopened hreads huses hdeclared hok hrefuses
      | ok b =>
        rw [build_of_open hreads hopens] at h
        exact .of_run hreads hopens h
  · intro h
    cases h with
    | unread hreads => rw [build, hreads]
    | unopened hreads huses hdeclared hok hrefuses =>
      have hcloses := (openStore_eq_error_iff hvalid registry fallback).mpr
        ⟨_, _, _, rfl, huses, hdeclared, hok, hrefuses⟩
      rw [build, hreads, hcloses]
    | unsettled hreads hopens hwants => rw [build_of_open hreads hopens, run_services, hwants]
    | refused hreads hopens hwants hfails =>
      rw [build_of_open hreads hopens, run_services, hwants]
      dsimp only
      rw [hfails]
      rfl

end Building

end Startup

/-! ## The admin -/

/-- Somebody has the name. -/
def MemoryStore.HasName (s : MemoryStore) (username : String) : Prop :=
  ∃ id u, s.get? id = some u ∧ u.username = username

/-- The admin has been set up: name and role are right, the hash was made of the password, and all
other records are as before. Whoever had the admin's identifier had the name already and keeps
everything but role and password; the identifier is a new one only where nobody had the name. -/
structure MemoryStore.Grants (s : MemoryStore) (hasher : PasswordHasher)
    (username password : String) (admin : User) (s' : MemoryStore) : Prop where
  stored : s'.get? admin.id = some admin
  name : admin.username = username
  role : admin.role = .admin
  hash : ∃ salt, hasher.hash salt password = .ok admin.passwordHash
  before : ∀ old, s.get? admin.id = some old → old.username = username ∧
    admin.created = old.created ∧ ∀ f ∉ [Field.role, .passwordHash], f.Same admin old
  joined : s.get? admin.id = none → ¬ s.HasName username
  others : ∀ id, id ≠ admin.id → s'.get? id = s.get? id

namespace Operation

variable {accounts : Accounts} {s s' : MemoryStore} {username password : String} {u : User}

/-- An admin that was there already had the name and keeps the identifier. -/
theorem Frame.cases_of_ensureAdmin (h : (ensureAdmin username password).Frame s u s') :
    (∃ old, old.id = u.id ∧ old.username = username ∧
      s.Alters old u [.role, .passwordHash] s') ∨ u.username = username ∧ s.Gains u s' := by
  rcases h with ⟨old, ⟨l, hl, hfinds⟩, halters⟩ | hnew
  · obtain rfl : Lookup.byName username = l := Option.some.inj hl
    have hid : u.id = old.id := halters.same .id (by simp [owned])
    exact Or.inl ⟨old, hid.symm, hfinds, halters⟩
  · exact Or.inr hnew

theorem Frame.others_of_ensureAdmin (h : (ensureAdmin username password).Frame s u s') (id : Uuid)
    (hne : id ≠ u.id) : s'.get? id = s.get? id := by
  rcases h.cases_of_ensureAdmin with ⟨old, hid, -, halters⟩ | ⟨-, hgains⟩
  · exact halters.others id (hid ▸ hne) hne
  · exact hgains.others id hne

theorem Frame.stored_of_ensureAdmin (h : (ensureAdmin username password).Frame s u s') :
    s'.get? u.id = some u := by
  rcases h.cases_of_ensureAdmin with ⟨old, -, -, halters⟩ | ⟨-, hgains⟩
  · exact halters.stored
  · exact hgains.stored

/-- A record that was there under the admin's identifier had the name. -/
theorem Frame.before_of_ensureAdmin (h : (ensureAdmin username password).Frame s u s') (old : User)
    (hold : s.get? u.id = some old) : old.username = username ∧ u.created = old.created ∧
      ∀ f ∉ [Field.role, .passwordHash], f.Same u old := by
  rcases h.cases_of_ensureAdmin with ⟨found, hid, hname, halters⟩ | ⟨-, hgains⟩
  · obtain rfl : found = old := Option.some.inj (halters.found.symm.trans (hid ▸ hold))
    exact ⟨hname, halters.created, halters.same⟩
  · cases hgains.free.symm.trans hold

/-- The admin gets an identifier that was free only where nobody had the name. -/
theorem Frame.joined_of_ensureAdmin (h : (ensureAdmin username password).Frame s u s')
    (hfree : s.get? u.id = none) : ¬ s.HasName username := by
  rcases h.cases_of_ensureAdmin with ⟨found, hid, -, halters⟩ | ⟨hu, hgains⟩
  · cases hfree.symm.trans (hid ▸ halters.found)
  · rintro ⟨id, v, hv, hname⟩
    exact hgains.name v (MemoryStore.mem_users_of_get? hv) (hname.trans hu.symm)

theorem Effect.grants (h : (ensureAdmin username password).Effect accounts s u s') :
    s.Grants accounts.hasher username password u s' := by
  have hframe := h.frame
  obtain ⟨hname, hrole, hhash⟩ : u.username = username ∧ u.role = .admin ∧
      ∃ salt, accounts.hasher.hash salt password = .ok u.passwordHash := by
    cases h with
    | rewrote l old v now hl finds _ rewrites _ stored =>
      subst stored
      obtain ⟨-, salt, hash, hhash, rfl⟩ := rewrites
      obtain rfl : Lookup.byName username = l := Option.some.inj hl
      exact ⟨finds, rfl, salt, hhash⟩
    | registered v id now registers _ _ stored =>
      subst stored
      obtain ⟨email', salt, hash, -, -, -, hhash, rfl⟩ := registers
      exact ⟨rfl, rfl, salt, hhash⟩
    | removed text hop => cases hop
  exact
    { stored := hframe.stored_of_ensureAdmin
      name := hname
      role := hrole
      hash := hhash
      before := hframe.before_of_ensureAdmin
      joined := hframe.joined_of_ensureAdmin
      others := hframe.others_of_ensureAdmin }

end Operation

/-- With a sound hasher a user gets in with the password that the hash was made of, and with no
other. -/
theorem Backend.Holds.login_of_hash {b : Backend} {s : MemoryStore} (hb : b.Holds s)
    {accounts : Accounts} (hsound : accounts.hasher.Sound) {u : User} (hu : s.get? u.id = some u)
    {salt : List UInt8} {password : String}
    (hash : accounts.hasher.hash salt password = .ok u.passwordHash) (attempt : String)
    {around : Nat → Surroundings} (hclock : ∀ n, b.Keeps (around n).now) :
    let login := accounts.perform ⟨.login u.username attempt, around⟩ b
    if attempt = password then ∃ v b', login = (.ok v, b') ∧ v.id = u.id
    else login = (.error .badCredentials, b) := by
  intro login
  have hmem : u ∈ s.users := MemoryStore.mem_users_of_get? hu
  have hverify := hsound salt password _ hash attempt
  obtain ⟨around', -, hsame, -, hstays, -⟩ :=
    hb.exists_perform accounts (.login u.username attempt) hclock
  change SameResult _ login.1 at hsame
  change _ → login.2 = b at hstays
  by_cases heq : attempt = password
  · rw [if_pos heq] at hverify ⊢
    have hlogin := Accounts.login_of_match hb.wellKept hmem hverify around'
    change accounts.perform ⟨.login u.username attempt, around'⟩ s = _ at hlogin
    rw [hlogin] at hsame
    exact ⟨_, login.2, congrArg (·, login.2) hsame.eq_of_ok, rfl⟩
  · rw [if_neg heq] at hverify ⊢
    have hlogin := Accounts.login_of_mismatch hb.wellKept hmem hverify around'
    change accounts.perform ⟨.login u.username attempt, around'⟩ s = _ at hlogin
    rw [hlogin] at hsame hstays
    exact congr_arg₂ Prod.mk hsame.eq_of_badCredentials (hstays rfl)

/-! ## Starting again -/

/-- The record is the same, or it is the admin's, of which role and password may have been set. -/
def User.Reset (username : String) (u v : User) : Prop :=
  v = u ∨ u.username = username ∧ v.created = u.created ∧
    ∀ f ∉ [Field.role, .passwordHash], f.Same v u

theorem User.Reset.trans {username : String} {u v w : User} (h : u.Reset username v)
    (h' : v.Reset username w) : u.Reset username w := by
  rcases h' with rfl | ⟨hname', hcreated', hsame'⟩
  · exact h
  · rcases h with rfl | ⟨hname, hcreated, hsame⟩
    · exact Or.inr ⟨hname', hcreated', hsame'⟩
    · exact Or.inr ⟨hname, hcreated'.trans hcreated, fun f hf => (hsame' f hf).trans (hsame f hf)⟩

theorem User.Reset.username_eq {username : String} {u v : User} (h : u.Reset username v) :
    v.username = u.username := by
  rcases h with rfl | ⟨-, -, hsame⟩
  · rfl
  · exact hsame .username (by simp)

namespace MemoryStore

variable {s s' s'' : MemoryStore} {username : String}

/-- There are the same accounts, and all records but the admin's are as they were. -/
def SameBut (username : String) (s s' : MemoryStore) : Prop :=
  ∀ id, Option.Rel (User.Reset username) (s.get? id) (s'.get? id)

namespace SameBut

theorem refl (username : String) (s : MemoryStore) : SameBut username s s := by
  intro id
  cases s.get? id with
  | none => exact .none
  | some u => exact .some (Or.inl rfl)

theorem trans (h : SameBut username s s') (h' : SameBut username s' s'') :
    SameBut username s s'' := by
  intro id
  have hfirst := h id
  have hsecond := h' id
  generalize s.get? id = before at *
  generalize s'.get? id = between at *
  generalize s''.get? id = after at *
  cases hfirst with
  | none => exact hsecond
  | some hreset =>
    cases hsecond with
    | some hreset' => exact .some (hreset.trans hreset')

theorem hasName (h : SameBut username s s') (hname : s.HasName username) :
    s'.HasName username := by
  obtain ⟨id, u, hu, hname⟩ := hname
  have hrel := h id
  rw [hu] at hrel
  generalize hafter : s'.get? id = after at hrel
  cases hrel with
  | @some _ v hreset => exact ⟨id, v, hafter, hreset.username_eq.trans hname⟩

end SameBut

/-- Where somebody has the name already, nobody comes in. -/
theorem sameBut_of_frame {password : String} {u : User}
    (h : (Operation.ensureAdmin username password).Frame s u s') (hname : s.HasName username) :
    SameBut username s s' := by
  intro id
  by_cases hid : id = u.id
  · subst hid
    cases hold : s.get? u.id with
    | none => exact absurd hname (h.joined_of_ensureAdmin hold)
    | some old =>
      rw [h.stored_of_ensureAdmin]
      exact .some (Or.inr (h.before_of_ensureAdmin old hold))
  · rw [h.others_of_ensureAdmin id hid]
    exact SameBut.refl username s id

end MemoryStore

namespace Startup

/-- With the store open, a start fails and leaves the store as it was, or it has no admin to set up
and does so too, or it has set one up. -/
theorem services_over {b : Backend} {s : MemoryStore} (hb : b.Holds s) (hasher : PasswordHasher)
    (settings : AuthSettings) (secret : List UInt8) {around : Nat → Surroundings}
    (hclock : ∀ n, b.Keeps (around n).now) :
    let run := (services hasher settings secret).run around b
    (∃ e, run = (.error e, b)) ∨ ∃ started, run.1 = .ok started ∧
      ((settings.adminCredentials = .ok none ∧ run.2 = b) ∨
        ∃ username password admin s', settings.adminCredentials = .ok (some (username, password)) ∧
          started.accounts = ⟨hasher⟩ ∧ run.2.Holds s' ∧
          (Operation.ensureAdmin username password).Effect ⟨hasher⟩ s admin s') := by
  intro run
  have hrun : run = _ := run_services hasher settings secret around b
  cases hwants : settings.wants secret with
  | error e =>
    rw [hwants] at hrun
    exact Or.inl ⟨.settings e, hrun⟩
  | ok wanted =>
    obtain ⟨tokens, credentials⟩ := wanted
    have hcredentials := AuthSettings.adminCredentials_of_wants hwants
    rw [hwants] at hrun
    cases credentials with
    | none =>
      exact Or.inr ⟨started hasher tokens, congrArg Prod.fst hrun,
        Or.inl ⟨hcredentials, congrArg Prod.snd hrun⟩⟩
    | some credentials =>
      obtain ⟨username, password⟩ := credentials
      dsimp only at hrun
      rcases hb.perform_cases ⟨hasher⟩ (.ensureAdmin username password) hclock with
        ⟨e, hperform⟩ | ⟨admin, b', s', hperform, hb', -, heffect⟩
      · rw [hperform] at hrun
        exact Or.inl ⟨.admin e, hrun⟩
      · rw [hperform] at hrun
        obtain rfl : run.2 = b' := congrArg Prod.snd hrun
        exact Or.inr ⟨started hasher tokens, congrArg Prod.fst hrun, Or.inr ⟨username, password,
          admin, s', hcredentials, rfl, hb', heffect⟩⟩

/-- The same of the whole start. -/
theorem build_over {config : Config} {registry : Registry Backend} {fallback b : Backend}
    (hopen : openStore config registry fallback = .ok b) {s : MemoryStore} (hb : b.Holds s)
    (hasher : PasswordHasher) (secret : List UInt8) {around : Nat → Surroundings}
    (hclock : ∀ n, b.Keeps (around n).now) :
    let built := build config registry fallback hasher secret around
    (∃ e, built.1 = .error e ∧ ∀ b', built.2 = some b' → b' = b) ∨
      ∃ settings started, authSettings config = .ok settings ∧ built.1 = .ok started ∧
        ((settings.adminCredentials = .ok none ∧ built.2 = some b) ∨
          ∃ username password admin b' s',
            settings.adminCredentials = .ok (some (username, password)) ∧
            started.accounts = ⟨hasher⟩ ∧ built.2 = some b' ∧ b'.Holds s' ∧
            (Operation.ensureAdmin username password).Effect ⟨hasher⟩ s admin s') := by
  intro built
  cases hsettings : authSettings config with
  | error e =>
    have hbuilt : built = (.error e, none) := by
      change build config registry fallback hasher secret around = _
      rw [build, hsettings]
    refine Or.inl ⟨e, congrArg Prod.fst hbuilt, fun b' hb' => ?_⟩
    cases (congrArg Prod.snd hbuilt).symm.trans hb'
  | ok settings =>
    have hbuilt : built = _ := build_of_open hsettings hopen
    have hresult := congrArg Prod.fst hbuilt
    have hleft := congrArg Prod.snd hbuilt
    rcases services_over hb hasher settings secret hclock with
      ⟨e, hrun⟩ | ⟨started, hstarted, ⟨hnone, hstays⟩ | ⟨username, password, admin, s', hset⟩⟩
    · refine Or.inl ⟨e, hresult.trans (congrArg Prod.fst hrun), fun b' hb' => ?_⟩
      have hb'' := Option.some.inj (hb'.symm.trans hleft)
      exact hb''.trans (congrArg Prod.snd hrun)
    · exact Or.inr ⟨settings, started, rfl, hresult.trans hstarted,
        Or.inl ⟨hnone, hleft.trans (congrArg some hstays)⟩⟩
    · obtain ⟨hsome, haccounts, hb', heffect⟩ := hset
      exact Or.inr ⟨settings, started, rfl, hresult.trans hstarted,
        Or.inr ⟨username, password, admin, _, s', hsome, haccounts, hleft, hb', heffect⟩⟩

/-- The store after starts with one configuration, each of which opens what the one before has
left. -/
inductive Restarts (config : Config) (hasher : PasswordHasher) : Backend → Backend → Prop where
  | done (b : Backend) : Restarts config hasher b b
  | again {b b' b'' : Backend} (registry : Registry Backend) (fallback : Backend)
      (secret : List UInt8) (around : Nat → Surroundings)
      (opens : openStore config registry fallback = .ok b) (clock : ∀ n, b.Keeps (around n).now)
      (left : (build config registry fallback hasher secret around).2 = some b')
      (rest : Restarts config hasher b' b'') : Restarts config hasher b b''

/-- Once somebody has the name of the admin, no start makes another user. -/
theorem Restarts.sameBut {config : Config} {hasher : PasswordHasher} {username password : String}
    (hadmin : ∀ settings, authSettings config = .ok settings →
      settings.adminCredentials = .ok (some (username, password)))
    {b b' : Backend} (h : Restarts config hasher b b') : ∀ {s : MemoryStore}, b.Holds s →
      s.HasName username → ∃ s', b'.Holds s' ∧ MemoryStore.SameBut username s s' := by
  induction h with
  | done b => exact fun {s} hb _ => ⟨s, hb, .refl username s⟩
  | again registry fallback secret around opens clock left _ ih =>
    intro s hb hname
    rcases build_over opens hb hasher secret clock with
      ⟨e, -, hstays⟩ | ⟨settings, started, hsettings, -, ⟨hnone, -⟩ |
        ⟨username', password', admin, b₁, s₁, hsome, -, hleft, hb₁, heffect⟩⟩
    · -- A start that has failed may be repeated too.
      obtain rfl := hstays _ left
      exact ih hb hname
    · cases (hadmin settings hsettings).symm.trans hnone
    · obtain ⟨rfl, rfl⟩ : username = username' ∧ password = password' := by
        simpa using (hadmin settings hsettings).symm.trans hsome
      obtain rfl := Option.some.inj (left.symm.trans hleft)
      have hfirst := MemoryStore.sameBut_of_frame heffect.frame hname
      obtain ⟨s', hb', hrest⟩ := ih hb₁ (hfirst.hasName hname)
      exact ⟨s', hb', hfirst.trans hrest⟩

/-- Who is let in once the admin has been set up, and what further starts leave. -/
theorem after_grants {config : Config} {settings : AuthSettings} {hasher : PasswordHasher}
    {username password : String} {admin : User} {s s' : MemoryStore} {b' : Backend}
    (hsettings : authSettings config = .ok settings)
    (hsome : settings.adminCredentials = .ok (some (username, password)))
    (hsound : hasher.Sound) (hb' : b'.Holds s')
    (h : s.Grants hasher username password admin s') :
    (∀ attempt around, (∀ n, b'.Keeps (around n).now) →
      let login := (Accounts.mk hasher).perform ⟨.login username attempt, around⟩ b'
      if attempt = password then ∃ v b'', login = (.ok v, b'') ∧ v.id = admin.id
      else login = (.error .badCredentials, b')) ∧
    ∀ b'', Restarts config hasher b' b'' →
      ∃ s'', b''.Holds s'' ∧ MemoryStore.SameBut username s' s'' := by
  constructor
  · intro attempt around hclock
    obtain ⟨salt, hhash⟩ := h.hash
    rw [← h.name]
    exact hb'.login_of_hash hsound h.stored hhash attempt hclock
  · intro b'' hagain
    have hadmin (settings' : AuthSettings) (hread : authSettings config = .ok settings') :
        settings'.adminCredentials = .ok (some (username, password)) := by
      obtain rfl : settings = settings' := Except.ok.inj (hsettings.symm.trans hread)
      exact hsome
    exact hagain.sameBut hadmin hb' ⟨admin.id, admin, h.stored, h.name⟩

/-- **A start is safe on records that are there already.** Take a configuration that has passed its
own check.

* The start fails exactly for the reasons of `Fails`. It does not fail for want of a declaration: if
  the store is not opened, the database is declared and fit to be opened and its connector has
  failed; on a disk that is for a folder that cannot be made or a file that cannot be opened.
* A start that fails leaves the store as it was, and so does one that has no admin to set up.
* A start that succeeds with an admin to set up, written `username:password` with no colon in the
  username, leaves a store in which this user is an admin and gets in with the password and with no
  other, and in which all other records are as they were. If the user was there before, it is the
  same record but for role and password, and no record of another user was overwritten. However
  often the start is repeated, there are the same accounts. -/
theorem build_safe {config : Config} (hvalid : config.validate = .ok ()) {hasher : PasswordHasher}
    (hsound : hasher.Sound) (registry : Registry Backend) (fallback : Backend)
    (secret : List UInt8) (around : Nat → Surroundings) :
    let built := build config registry fallback hasher secret around
    (∀ fault, built.1 = .error fault ↔
      Fails config registry fallback hasher secret around fault) ∧
    (∀ name, built.1 ≠ .error (.undeclared name)) ∧
    (∀ name e, built.1 = .error (.store name e) → ∃ database,
      config.databases.lookup name = some database ∧ database.validate = .ok () ∧
      registry.Refuses database e ∧ ∀ d : Disk, registry = d.registry →
        (∃ folder, e = .configuration (.directory folder)) ∨ e = .connection .unreadable) ∧
    ∀ b s, openStore config registry fallback = .ok b → b.Holds s →
      (∀ n, b.Keeps (around n).now) →
      (∀ e, built.1 = .error e → ∀ b', built.2 = some b' → b' = b) ∧
      ∀ started, built.1 = .ok started → ∃ settings, authSettings config = .ok settings ∧
        (settings.admin = none → built.2 = some b) ∧
        ∀ text, settings.admin = some text → ∃ username password admin b' s',
          text = username ++ ":" ++ password ∧ ':' ∉ username.toList ∧ built.2 = some b' ∧
          b'.Holds s' ∧ s.Grants hasher username password admin s' ∧
          (∀ attempt around', (∀ n, b'.Keeps (around' n).now) →
            let login := started.accounts.perform ⟨.login username attempt, around'⟩ b'
            if attempt = password then ∃ v b'', login = (.ok v, b'') ∧ v.id = admin.id
            else login = (.error .badCredentials, b')) ∧
          ∀ b'', Restarts config hasher b' b'' →
            ∃ s'', b''.Holds s'' ∧ MemoryStore.SameBut username s' s'' := by
  intro built
  refine ⟨fun _ => build_eq_error_iff hvalid, fun name h => ?_, fun name e h => ?_,
    fun b s hopen hb hclock => ⟨fun e h => ?_, ?_⟩⟩
  · cases (build_eq_error_iff hvalid).mp h
  · cases (build_eq_error_iff hvalid).mp h with
    -- A failure with a name of a database can only be that of its connector.
    | @unopened settings _ database _ _ _ hdeclared hok hrefuses =>
      refine ⟨database, hdeclared, hok, hrefuses, ?_⟩
      rintro d rfl
      exact Disk.registry_refuses hok hrefuses
  · rcases build_over hopen hb hasher secret hclock with ⟨_, -, hstays⟩ | ⟨_, started, -, hok, -⟩
    · exact hstays
    · cases h.symm.trans hok
  · intro started h
    rcases build_over hopen hb hasher secret hclock with
      ⟨e, herror, -⟩ | ⟨settings, started', hsettings, hok, hadmin⟩
    · cases h.symm.trans herror
    · obtain rfl : started = started' := Except.ok.inj (h.symm.trans hok)
      refine ⟨settings, hsettings, fun hnone => ?_, fun text htext => ?_⟩
      · rcases hadmin with ⟨-, hstays⟩ | ⟨_, _, _, _, _, hsome, -⟩
        · exact hstays
        · cases (AuthSettings.adminCredentials_of_none hnone).symm.trans hsome
      · rcases hadmin with ⟨hnone, -⟩ |
          ⟨username, password, admin, b', s', hsome, haccounts, hleft, hb', heffect⟩
        · obtain ⟨_, _, hsome, -⟩ := AuthSettings.adminCredentials_of_some htext hnone
          cases hsome
        · obtain ⟨_, _, hcredentials, hwritten, hcolon⟩ :=
            AuthSettings.adminCredentials_of_some htext hsome
          cases hcredentials
          have hgrants : s.Grants hasher username password admin s' := heffect.grants
          obtain ⟨hlogin, hagain⟩ := after_grants hsettings hsome hsound hb' hgrants
          rw [haccounts]
          exact ⟨username, password, admin, b', s', hwritten, hcolon, hleft, hb', hgrants, hlogin,
            hagain⟩

/-- A start over a table of two users makes one of them an admin. -/
theorem build_safe_on_table :
    let around (id : Nat) : Nat → Surroundings := fun _ =>
      ⟨⟨5, 0, by decide⟩, fun _ => ⟨BitVec.ofNat 128 id⟩, [], 0⟩
    let errands : List Errand :=
      [⟨.createUser "root" "one" "" .normal, around 1⟩,
        ⟨.createUser "alice" "two" "" .normal, around 2⟩]
    let b := (Accounts.mk .marking).after (Backend.table .empty) errands
    let registry : Registry Backend := Registry.empty.register .sqlite fun _ => .ok b
    let config : Config :=
      { databases := [("users", .sqlite "/data")]
        apis := [("auth", { uses := ["users"], extra :=
          [("secret", .string "0123456789abcdef0123456789abcdef"),
            ("set_admin", .string "root:to:or")] })] }
    let built := build config registry (.memory .empty) .marking [] (around 0)
    config.validate = .ok () ∧ PasswordHasher.marking.Sound ∧
      ∃ s started admin b' s', b.Holds s ∧ built = (.ok started, some b') ∧ b'.Holds s' ∧
        s.Grants .marking "root" "to:or" admin s' := by
  intro around errands b registry config built
  have hvalid : config.validate = .ok () := by rfl
  have hsound : PasswordHasher.marking.Sound := PasswordHasher.marking_sound
  have hnow : Instant.Storable ⟨5, 0, by decide⟩ := by decide
  have hclock : (Backend.table .empty).KeepsAll errands := by
    intro errand herrand n
    rcases List.mem_pair.mp herrand with rfl | rfl
    · exact .table _ hnow
    · exact .table _ hnow
  have hempty : (Backend.table .empty).Holds .empty := .table .empty
  obtain ⟨s, hs, hkeeps⟩ := hempty.exists_after ⟨.marking⟩ hclock
  have hopen : openStore config registry (.memory .empty) = .ok b := by rfl
  have hstarts : built.1.toOption.isSome = true := by decide +kernel
  have hadmin : ∃ settings, authSettings config = .ok settings ∧
      settings.admin = some "root:to:or" := ⟨_, rfl, rfl⟩
  obtain ⟨-, -, -, hover⟩ := build_safe hvalid hsound registry (.memory .empty) [] (around 0)
  obtain ⟨-, hstarted⟩ := hover b s hopen hs fun _ => (hkeeps _).mpr (.table _ hnow)
  cases hresult : built.1 with
  | error e =>
    rw [hresult] at hstarts
    cases hstarts
  | ok started =>
    obtain ⟨settings, hsettings, -, hset⟩ := hstarted started hresult
    obtain ⟨settings', hsettings', htext⟩ := hadmin
    obtain rfl : settings = settings' := Except.ok.inj (hsettings.symm.trans hsettings')
    obtain ⟨username, password, admin, b', s', hwritten, hcolon, hleft, hb', hgrants, -⟩ :=
      hset _ htext
    -- Only the first colon divides the text.
    have hsplit := Text.splitFirst_append hcolon password.toList
    have hlist : username.toList ++ ':' :: password.toList = "root:to:or".toList := by
      rw [hwritten]
      simp
    have hread : Text.splitFirst ':' "root:to:or".toList =
        some ("root".toList, "to:or".toList) := by
      decide
    rw [hlist, hread] at hsplit
    obtain ⟨husername, hpassword⟩ := Prod.mk.inj (Option.some.inj hsplit)
    obtain rfl : "root" = username := String.toList_injective husername
    obtain rfl : "to:or" = password := String.toList_injective hpassword
    exact ⟨hvalid, hsound, s, started, admin, b', s', hs, Prod.ext hresult hleft, hb', hgrants⟩

end Startup

end AccountServer
