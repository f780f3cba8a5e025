import AccountServer.Proofs.Server.Answers
import AccountServer.Proofs.Server.Requests
import AccountServer.Proofs.Service.Acceptance
import AccountServer.Proofs.Service.Races

/-!
# Nobody gets further than his rights

What a single request to the account service can do to a store, whatever the request is. A caller
who is no admin can change his own record at most, and neither its identifier nor his role; a
request without a good token changes nothing; and a login changes nothing but the time of the login
in the one record whose password was given.
-/

namespace AccountServer

open RecordStore
open Plan (Answers)

/-- The request presents a token that is taken for this user. -/
def Services.Presents {σ : Type} [AccountStore σ] (services : Services) (r : Request)
    (around : Nat → Surroundings) (d : σ) (me : User) : Prop :=
  ∃ token, r.bearer? = some token ∧ services.tokens.Accepts token around d me

variable {σ : Type} [AccountStore σ] [RecordStore σ] {d : σ} {s : MemoryStore}
  {around : Nat → Surroundings}

/-! ## What is known of a store -/

theorem RecordStore.answers_knows (hd : Holds d s) : Answers s.Knows d := by
  rintro l _ rfl around
  exact RecordStore.lookup hd l around

theorem KeepsAs.self (σ : Type) [AccountStore σ] [RecordStore σ] :
    KeepsAs σ (Keeps σ) (kept σ) :=
  fun _ ht => ⟨ht, rfl⟩

theorem RecordStore.timesAll_keeps (hd : Holds d s) {u : User} (hu : u ∈ s.users) :
    u.TimesAll (Keeps σ) :=
  (RecordStore.times hd u hu).mono fun _ ht => ht.1

/-! ## Logins -/

theorem MemoryStore.of_byUsername {username : String} {u : User}
    (h : s.byUsername username = .ok u) : u ∈ s.users ∧ u.username = username := by
  unfold byUsername at h
  split at h
  · next v hv =>
    cases h
    exact ⟨List.mem_of_find?_eq_some hv, by simpa using List.find?_some hv⟩
  · cases h

/-- The credentials are those of this user. -/
structure Accounts.Admits (accounts : Accounts) (s : MemoryStore) (c : LoginCredentials)
    (u : User) : Prop where
  mem : u ∈ s.users
  username : u.username = c.username
  password : accounts.hasher.verify c.password u.passwordHash = .ok ()

/-- Setting the time of the last login changes this and the time of change. -/
theorem Accounts.Admits.perform_login {accounts : Accounts} {c : LoginCredentials} {u : User}
    (h : accounts.Admits s c u) (hd : Holds d s) {now : Instant} (hnow : Keeps σ now)
    {around : Surroundings} (hclock : Keeps σ around.now) :
    let v := { u with lastLogin := some (kept σ now), modified := kept σ around.now }
    ((Write.update u.id { u with lastLogin := some now }).perform around d).1 = .ok v ∧
      Holds ((Write.update u.id { u with lastLogin := some now }).perform around d).2
        ((s.erase u.id).insert v) := by
  let v : User := { u with lastLogin := some now }
  have htimes := RecordStore.times hd u h.mem
  have hstored : v.storedFor u (kept σ) around.now =
      { u with lastLogin := some (kept σ now), modified := kept σ around.now } := by
    rw [User.storedFor, map_eq_self fun t ht => (htimes.lastLogout t ht).2]
    rfl
  have hkeeps := RecordStore.timesAll_keeps hd h.mem
  have hwrite : (Write.update u.id v).TimesAll (Keeps σ) :=
    ⟨fun t ht => Option.some.inj ht ▸ hnow, hkeeps.lastLogout⟩
  have hid : v.id = u.id := rfl
  have hname : v.username = u.username := rfl
  have hperform := Write.perform_change hid hname hwrite (.self σ) hd
    (MemoryStore.get?_of_mem (wellKept hd) h.mem) hclock ((wellKept hd).hashed u h.mem)
  rw [hstored] at hperform
  exact hperform

/-! ## Callers -/

/-- A token is taken for the record under its subject, or it is turned down. -/
theorem Tokens.authenticate_cases (t : Tokens) (token : String) (around : Nat → Surroundings)
    (hd : Holds d s) :
    (∃ me claims, (t.authenticate token).run around d = (.ok me, d) ∧
      Token.unverified token = .ok claims ∧ claims.subject = me.id ∧ s.get? me.id = some me) ∨
    ∃ e, (t.authenticate token).run around d = (.error e, d) := by
  cases hclaims : Token.unverified token with
  | error fault => exact Or.inr ⟨_, run_authenticate_of_error hclaims around d⟩
  | ok claims =>
    have hget : AccountStore.perform (.get claims.subject) (around 0) d =
        (s.get claims.subject, d) :=
      RecordStore.lookup hd (.byId claims.subject) (around 0)
    have hrun := run_authenticate (t := t) hclaims around hget
    rcases t.judge_cases token (around 1).now.seconds (s.get claims.subject) with
      ⟨me, _, hanswer, hjudge, -⟩ | ⟨fault, hfault⟩
    · have hme : s.get? claims.subject = some me := MemoryStore.get_eq_ok_iff.mp hanswer
      have hid : claims.subject = me.id := (wellKept hd).keyed _ (MemoryStore.mem_of_get? hme)
      exact Or.inl ⟨me, claims, by rw [hrun, hjudge], rfl, hid, hid ▸ hme⟩
    · exact Or.inr ⟨_, by rw [hrun, hfault]⟩

/-- Whoever presents a good token has a record, and the token names him. -/
theorem Services.Presents.get?_and_names {services : Services} {r : Request} {me : User}
    (h : services.Presents r around d me) (hd : Holds d s) :
    s.get? me.id = some me ∧ r.Names me := by
  obtain ⟨token, hbearer, haccepts⟩ := h
  rcases services.tokens.authenticate_cases token around hd with
    ⟨me', claims, hrun, hclaims, hsubject, hget⟩ | ⟨e, hrun⟩
  · cases haccepts.symm.trans hrun
    exact ⟨hget, token, claims, hbearer, hclaims, hsubject⟩
  · cases haccepts.symm.trans hrun

/-- If nobody presents himself, then the caller is not known or the request is refused. -/
theorem Services.caller_of_nobody {services : Services} {r : Request} (hd : Holds d s)
    (hnobody : ∀ me, ¬ services.Presents r around d me) (guard : Guard) :
    (services.caller guard r).run around d = (.ok none, d) ∨
      ∃ response, (services.caller guard r).run around d = (.error response, d) := by
  have herror (token : String) (hbearer : r.bearer? = some token) :
      ∃ e, (services.tokens.authenticate token).run around d = (.error e, d) := by
    rcases services.tokens.authenticate_cases token around hd with ⟨me, -, haccepts, -⟩ | herror
    · exact absurd ⟨token, hbearer, haccepts⟩ (hnobody me)
    · exact herror
  unfold Services.caller
  cases hbearer : r.bearer? with
  | none =>
    cases guard with
    | none | optional => exact Or.inl rfl
    | required => exact Or.inr ⟨_, rfl⟩
  | some token =>
    obtain ⟨e, he⟩ := herror token hbearer
    cases guard with
    | none => exact Or.inl rfl
    -- Where a token is optional a bad one counts for none.
    | optional =>
      have hattempt :
          ((services.tokens.authenticate token).mapResult .ok : Handling _).run around d =
            (.ok (.error e), d) := by
        rw [Plan.run_mapResult, he]
      obtain ⟨m, hm⟩ := Plan.run_bind_ok (fun result =>
        (pure result.toOption : Handling (Option User))) hattempt
      exact Or.inl hm
    | required =>
      have haccount : (Handling.account (services.tokens.authenticate token)).run around d =
          (.error e.response, d) := by
        rw [Handling.account, Plan.mapError, Plan.run_mapResult, he]
        rfl
      exact Or.inr ⟨_, Plan.run_bind_error (fun u => pure (some u)) haccount⟩

namespace Site

variable {site : Site} {r : Request} {resource : Resource Endpoint} {parameters : List (List Char)}

/-! ## Requests to a resource -/

/-- If nobody presents himself, then nothing changes. -/
theorem handle_of_nobody (hd : Holds d s) (hlogin : resource.handler? r.method ≠ some .login)
    (hnobody : ∀ me, ¬ site.services.Presents r around d me) :
    ((site.handle r resource parameters).run around d).2 = d := by
  have hstays {f : Option User → Handling Response} (guard : Guard) (hf : (f none).Outside) :
      ((site.services.caller guard r >>= f).run around d).2 = d := by
    rcases Services.caller_of_nobody hd hnobody guard with hnone | ⟨response, hresponse⟩
    · obtain ⟨m, hm⟩ := Plan.run_bind_ok f hnone
      obtain ⟨result, hresult⟩ := hf.run fun n => around (n + m)
      rw [hm, hresult]
    · rw [Plan.run_bind_error f hresponse]
  unfold handle
  cases hendpoint : resource.handler? r.method with
  | none => exact hstays _ (.done _)
  | some endpoint =>
    refine hstays _ (Services.answer_outside ?_ rfl)
    rintro rfl
    exact hlogin hendpoint

/-- A user who is no admin changes nothing but his own record. -/
theorem handle_confined (hd : Holds d s) (hclock : ∀ n, Keeps σ (around n).now)
    (hlogin : resource.handler? r.method ≠ some .login) {me : User}
    (hpresents : site.services.Presents r around d me) (hme : me.role ≠ .admin) :
    s.get? me.id = some me ∧
      ∃ s', Holds ((site.handle r resource parameters).run around d).2 s' ∧ s.Confined me s' := by
  obtain ⟨hget, hnamed⟩ := hpresents.get?_and_names hd
  refine ⟨hget, ?_⟩
  have hknown : s.Knows (.byId me.id) (.ok me) := (MemoryStore.get_eq_ok_iff.mpr hget).symm
  have hforeseen : (site.handle r resource parameters).Foreseen s.Knows (Keeps σ)
      (Write.Concerns me (Keeps σ) True) :=
    handle_foreseen hlogin hnamed hme hknown
      (RecordStore.timesAll_keeps hd (MemoryStore.mem_users_of_get? hget))
      fun _ _ _ _ _ _ => ⟨trivial, fun username => ⟨_, rfl⟩⟩
  rcases hforeseen.run hclock with ⟨result, hresult⟩ | ⟨w, n, k, hw, hk⟩
  · rw [hresult (RecordStore.answers_knows hd)]
    exact ⟨s, hd, .refl hget⟩
  · rw [hk (RecordStore.answers_knows hd)]
    exact hw.confined (.self σ) hd hget (hclock n)

/-- A login changes nothing, or it sets the time of the login in the record whose password was
given. -/
theorem handle_login (hd : Holds d s) (hclock : ∀ n, Keeps σ (around n).now)
    (hlogin : resource.handler? r.method = some .login) :
    ((site.handle r resource parameters).run around d).2 = d ∨
      ∃ c u login modified, r.json LoginCredentials.decode = .ok c ∧
        site.services.accounts.Admits s c u ∧
        Holds ((site.handle r resource parameters).run around d).2
          ((s.erase u.id).insert { u with lastLogin := some login, modified }) := by
  cases hbody : r.json LoginCredentials.decode with
  | error rejection =>
    left
    unfold handle
    rw [hlogin]
    show ((Handling.part (r.json LoginCredentials.decode) >>= _ :
      Handling Response).run around d).2 = d
    rw [hbody]
    rfl
  | ok c =>
    have hforeseen : (site.handle r resource parameters).Foreseen s.Knows (Keeps σ) fun w =>
        ∃ u now, site.services.accounts.Admits s c u ∧ Keeps σ now ∧
          w = .update u.id { u with lastLogin := some now } := by
      have hknown : s.Knows (.byName c.username) (s.byUsername c.username) := rfl
      refine login_foreseen hlogin hbody hknown fun u now hu hverify hnow => ?_
      obtain ⟨hmem, hname⟩ := MemoryStore.of_byUsername hu
      exact ⟨u, now, ⟨hmem, hname, hverify⟩, hnow, rfl⟩
    rcases hforeseen.run hclock with ⟨result, hresult⟩ | ⟨w, n, k, ⟨u, now, hu, hnow, rfl⟩, hk⟩
    · exact Or.inl (by rw [hresult (RecordStore.answers_knows hd)])
    · right
      rw [hk (RecordStore.answers_knows hd)]
      exact ⟨c, u, _, _, rfl, hu, (hu.perform_login hd hnow (hclock n)).2⟩

/-! ## Requests to the account service -/

/-- Whatever a single request to the account service is, it gets nobody further than his rights.

If it is no login and comes from a user who is no admin, then at most his own record changes, which
goes or keeps identifier, role and time of creation. If it is no login and comes from nobody, then
nothing changes. A login changes nothing, or it sets the times of login and change in the record of
the name that was given, with the right password. -/
theorem no_privilege_escalation {services : Services} {site : Site}
    (hsite : Site.ofAccounts services = .ok site) (hd : Holds d s)
    (hclock : ∀ n, Keeps σ (around n).now) (r : Request) :
    let d' := (site.serve r around d).2
    (¬ r.IsLogin →
      (∀ me, services.Presents r around d me → me.role ≠ .admin →
        s.get? me.id = some me ∧ ∃ s', Holds d' s' ∧ s.Confined me s') ∧
      ((∀ me, ¬ services.Presents r around d me) → d' = d)) ∧
    (r.IsLogin → d' = d ∨ ∃ c u login modified, r.json LoginCredentials.decode = .ok c ∧
      services.accounts.Admits s c u ∧
      Holds d' ((s.erase u.id).insert { u with lastLogin := some login, modified })) := by
  obtain ⟨rfl, hrouter⟩ := of_ofAccounts hsite
  intro d'
  cases hfind : site.router.find? r.path with
  | none =>
    -- A path that is not known changes nothing for anybody.
    have hsame : d' = d := congrArg Prod.snd (serve_of_not_find hfind around d)
    rw [hsame]
    refine ⟨fun _ => ⟨fun me hpresents _ => ?_, fun _ => rfl⟩, fun _ => Or.inl rfl⟩
    obtain ⟨hme, -⟩ := hpresents.get?_and_names hd
    exact ⟨hme, s, hd, .refl hme⟩
  | some found =>
    obtain ⟨resource, parameters⟩ := found
    have hstate : d' = ((site.handle r resource parameters).run around d).2 :=
      congrArg Prod.snd (serve_of_find hfind around d)
    rw [hrouter] at hfind
    refine ⟨fun hlogin => ?_, fun hlogin => ?_⟩
    · -- Only a request for a login finds the handler for it, whatever its path looks like.
      have hhandler : resource.handler? r.method ≠ some .login := fun h =>
        hlogin (isLogin_of_handler? hfind h)
      rw [hstate]
      exact ⟨fun me => handle_confined hd hclock hhandler, handle_of_nobody hd hhandler⟩
    · obtain ⟨_, hfound, hhandler⟩ := exists_handler_of_isLogin hlogin
      cases hfind.symm.trans hfound
      rw [hstate]
      exact handle_login hd hclock hhandler

/-- A user makes himself an admin under another name, with his identifier in capitals and braces;
somebody without a token removes the admin; and a login comes without a body. -/
theorem no_privilege_escalation_by_rename :
    let services : Services := ⟨⟨.marking⟩, { settings := ⟨List.replicate 32 7, 3600⟩ }⟩
    let around (id : Nat) : Nat → Surroundings := fun _ =>
      ⟨⟨5, 0, by decide⟩, fun _ => ⟨BitVec.ofNat 128 id⟩, [], 0⟩
    let s := AccountStore.run MemoryStore.empty
      [⟨.create (.draft "alice" "$one" .normal), around 10 0⟩,
        ⟨.create (.draft "root" "$two" .admin), around 1 0⟩]
    let alice : User := { User.draft "alice" "$one" .normal none ⟨5, 0, by decide⟩ with id := ⟨10⟩ }
    let site : Site := { services, router := accountRouter }
    let rename : Request :=
      { method := "PUT"
        target := "/users/%7B0000000000000000000000000000000A%7D"
        authorization := some ("Bearer " ++ services.tokens.tokenAt alice 0)
        contentType := some "application/json"
        body := "\x7b\"username\":\"root2\",\"role\":\"Admin\"\x7d" }
    let removal : Request :=
      { method := "DELETE", target := "/users/00000000-0000-0000-0000-000000000001" }
    let login : Request := { method := "POST", target := "/login" }
    (∃ s', Holds (site.serve rename (around 0) s).2 s' ∧ s.Confined alice s') ∧
      (site.serve removal (around 0) s).2 = s ∧ (site.serve login (around 0) s).2 = s := by
  intro services around s alice site rename removal login
  have hsite : ofAccounts services = .ok site := ofAccounts_eq services
  have hd : Holds s s := MemoryStore.holds_run _
  have hclock : ∀ n, Keeps MemoryStore (around 0 n).now := fun _ => trivial
  have hget : s.get? alice.id = some alice := by decide +kernel
  have hpresents : services.Presents rename (around 0) s alice := by
    have hanswer : AccountStore.perform (.get alice.id) (around 0 0) s = (.ok alice, s) :=
      congrArg (·, s) (MemoryStore.get_eq_ok_iff.mpr hget)
    have haccepts : services.tokens.Accepts (services.tokens.tokenAt alice 0) (around 0) s alice :=
      Tokens.run_authenticate_tokenAt (by decide) rfl rfl hanswer (by decide) (by decide)
    exact ⟨_, Request.bearer?_of_sign rfl, haccepts⟩
  obtain ⟨hprivileges, -⟩ := no_privilege_escalation hsite hd hclock rename
  obtain ⟨hother, -⟩ := no_privilege_escalation hsite hd hclock removal
  obtain ⟨-, hlogin⟩ := no_privilege_escalation hsite hd hclock login
  obtain ⟨hown, -⟩ := hprivileges (by decide)
  obtain ⟨-, hnobody⟩ := hother (by decide)
  refine ⟨(hown alice hpresents (by decide)).2, hnobody ?_, ?_⟩
  · rintro me ⟨token, hbearer, -⟩
    cases hbearer
  · rcases hlogin (by decide) with hsame | ⟨c, u, _, _, hbody, -⟩
    · exact hsame
    · cases hbody

end Site

end AccountServer
