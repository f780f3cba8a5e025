import AccountServer.Proofs.Service.Clients

/-!
# Races

What an operation has found out may be outdated when it comes to its write. Nothing is locked in
between: the store checks again, and its answer decides. `races_resolved_by_store` says what comes
of this for any number of clients and any interleaving of their questions.

* `Resolved`: what comes of one write, and what its client is told. That a record without a hash
  is never handed to the store (`Writes.hashed`) leaves clashes and vanished records as the only
  reasons for a refusal.
* `Race`: how a race for one name stands. It is won with the first record of that name, and from
  then on every other registration can only find the name taken.
-/

namespace AccountServer

/-! ## Hashing -/

/-- Every password can be hashed, and no hash is empty. -/
structure PasswordHasher.Works (hasher : PasswordHasher) : Prop where
  hashes : ∀ salt password, ∃ stored, hasher.hash salt password = .ok stored
  nonempty : ∀ salt password stored, hasher.hash salt password = .ok stored → stored ≠ ""

theorem PasswordHasher.argon2_works (w : WorkFactor) : (PasswordHasher.argon2 w).Works where
  hashes salt password := ⟨_, rfl⟩
  nonempty salt password stored h := by
    rw [← Except.ok.inj h]
    intro hempty
    have hlist : (w.phc salt password).chars = [] := by simpa using congrArg String.toList hempty
    simp [Phc.chars] at hlist

/-- A hasher that keeps passwords behind a mark, for examples. -/
def PasswordHasher.marking : PasswordHasher where
  hash _ password := .ok ("$" ++ password)
  verify password stored := if stored = "$" ++ password then .ok () else .error .mismatch

theorem PasswordHasher.marking_works : PasswordHasher.marking.Works where
  hashes salt password := ⟨_, rfl⟩
  nonempty salt password stored h := by
    rw [← Except.ok.inj h]
    intro hempty
    simpa using congrArg String.toList hempty

/-- An operation never hands over a record without a password hash. -/
theorem Operation.Writes.hashed {accounts : Accounts} (hh : accounts.hasher.Works)
    {op : Operation} {s : MemoryStore} (hw : s.WellKept) {w : Write}
    (h : op.Writes accounts s w) : w.Hashed := by
  cases h with
  | update l u v hl hu finds rewrites =>
    rcases rewrites.passwordHash with heq | ⟨salt, password, heq⟩
    · show v.passwordHash ≠ ""
      rw [heq]
      exact hw.hashed u hu
    · exact hh.nonempty salt password _ heq
  | create l u hl missing registers =>
    obtain ⟨salt, password, heq⟩ := registers.passwordHash
    exact hh.nonempty salt password _ heq
  | delete text id hop hid => exact trivial

/-! ## Refused writes -/

/-- The operations that tell their caller why the store refused their write. The others only report
that the store has failed. -/
def Operation.TellsRefusal : Operation → Prop
  | .login .. | .logout _ => False
  | _ => True

theorem Operation.sort_of_tellsRefusal {op : Operation} (h : op.TellsRefusal) :
    op.sort = .ofStore := by
  cases op with
  | login _ _ | logout _ => exact h.elim
  | createUser | updateUser | updatePassword | deleteUser | ensureAdmin => rfl

/-- What a caller is told when the store refuses a write: the record is not there any more, or the
name or the identifier is taken. -/
def Write.Told (w : Write) (s : MemoryStore) (around : Surroundings) (e : AccountError) : Prop :=
  (e = .notFound ∧ w.Vanished s) ∨
    ∃ clash, e = .alreadyExists clash ∧ ¬ w.Vanished s ∧ w.Taken s around

theorem MemoryStore.Refuses.told {s : MemoryStore} {around : Surroundings} {w : Write}
    {e : StoreError} (h : s.Refuses around w e) (hash : w.Hashed) :
    w.Told s around (.ofStore e) := by
  cases h with
  | noHash hno => exact absurd hash hno
  | vanished hv => exact Or.inl ⟨rfl, hv⟩
  | taken clash present ht => exact Or.inr ⟨clash, rfl, present, ht⟩

/-! ## Registrations of one name -/

/-- Nobody has the name. -/
def MemoryStore.Free (s : MemoryStore) (username : String) : Prop :=
  ∀ v ∈ s.users, v.username ≠ username

instance (s : MemoryStore) (username : String) : Decidable (s.Free username) :=
  inferInstanceAs (Decidable (∀ v ∈ s.users, v.username ≠ username))

/-- What is left of a registration that can only fail because somebody has the name. -/
inductive Registering (username : String) : Action User → Prop where
  | asks (next : Except StoreError User → Action User)
      (free : Registering username (next (.error .notFound)))
      (taken : ∀ u, ∃ clash, next (.ok u) = .done (.error (.alreadyExists clash))) :
      Registering username (Lookup.plan next (.byName username))
  | salts (next : List UInt8 → Action User) (rest : ∀ salt, Registering username (next salt)) :
      Registering username (.ask .salt next)
  | writes (u : User) (name : u.username = username) (hash : u.passwordHash ≠ "") :
      Registering username ((Write.create u).plan .ofStore)

theorem Registering.result?_eq_none {username : String} {p : Action User}
    (h : Registering username p) : p.result? = none := by
  cases h <;> rfl

/-- A password that has to be hashed on the way stops no registration. -/
theorem Registering.hashPassword {accounts : Accounts} (hh : accounts.hasher.Works)
    {username password : String} {f : String → Action User}
    (h : ∀ stored, stored ≠ "" → Registering username (f stored)) :
    Registering username (accounts.hashPassword password >>= f) := by
  refine .salts _ fun salt => ?_
  obtain ⟨stored, hstored⟩ := hh.hashes salt password
  show Registering username
    (Plan.ofExcept ((accounts.hasher.hash salt password).mapError fun e => .store (.password e)) >>=
      f)
  rw [hstored]
  exact h stored (hh.nonempty salt password stored hstored)

/-- The operation registers somebody under a name, with arguments that pass all checks. -/
def Operation.ValidRegistration (username : String) (op : Operation) : Prop :=
  ∃ password email email' role,
    op = .createUser username password email role ∧ Validation.username username = .ok () ∧
      Validation.password password = .ok () ∧ Validation.optionalEmail email = .ok email'

theorem Operation.ValidRegistration.registering {accounts : Accounts}
    (hh : accounts.hasher.Works) {username : String} {op : Operation}
    (h : op.ValidRegistration username) : Registering username (op.plan accounts) := by
  obtain ⟨password, email, email', role, rfl, hname, hpassword, hemail⟩ := h
  simp only [Operation.plan, Accounts.createUser, hname, hpassword, hemail]
  refine .asks _ ?_ fun u => ⟨_, rfl⟩
  refine Registering.hashPassword (f := fun stored =>
    Accounts.ask (.create (.draft username stored role email'))) hh fun stored hstored => ?_
  rw [Operation.ask_eq]
  exact .writes _ rfl hstored

/-! ## A race for one name -/

namespace Moment

variable {ι : Type} [DecidableEq ι] {m : Moment ι} {t : Turn ι} {username : String}

/-- A turn of a registration takes the name, or it changes nothing. Then the registration goes on,
or it has found the name taken. -/
theorem turn_registering (h : Registering username (m.plans t.client)) (hw : m.store.WellKept)
    (hdraw : m.store.freeDraw? t.around.draws ≠ none) :
    (m.store.Free username ∧ ¬ (m.turn t).store.Free username ∧
      ∃ u, (m.turn t).plans t.client = .done (.ok u)) ∨
    ((m.turn t).store = m.store ∧ (Registering username ((m.turn t).plans t.client) ∨
      ¬ m.store.Free username ∧
        ∃ clash, (m.turn t).plans t.client = .done (.error (.alreadyExists clash)))) := by
  generalize hp : m.plans t.client = p at h
  cases h with
  | asks next free taken =>
    obtain ⟨hplan, hstore⟩ := turn_eq (m := m) (t := t)
      (p := next ((Lookup.byName username).answer m.store)) (s := m.store) (by rw [hp]; rfl)
    refine Or.inr ⟨hstore, ?_⟩
    rw [hplan]
    rcases (Lookup.byName username).answer_eq hw with ⟨u, hu, hname, heq⟩ | ⟨-, heq⟩
    · rw [heq]
      exact Or.inr ⟨fun hfree => hfree u hu hname, taken u⟩
    · rw [heq]
      exact Or.inl free
  | salts next rest =>
    obtain ⟨hplan, hstore⟩ := turn_eq (m := m) (t := t) (p := next t.around.salt) (s := m.store)
      (by rw [hp]; rfl)
    exact Or.inr ⟨hstore, Or.inl (hplan ▸ rest _)⟩
  | writes u name hash =>
    -- The write decides: it takes the name, or it fails because somebody has it.
    rcases turn_write hp with ⟨v, hok, htook⟩ | ⟨e, herror, hstore, hrefuses⟩
    · refine Or.inl ?_
      generalize (m.turn t).store = s' at htook
      cases htook with
      | added _ id _ hfree _ =>
        subst name
        exact ⟨hfree, fun h => h _ List.mem_cons_self rfl, _, hok⟩
    · refine Or.inr ⟨hstore, Or.inr ?_⟩
      cases hrefuses with
      | noHash hno => exact absurd hash hno
      | vanished hv => exact hv.elim
      | taken clash present ht =>
        obtain ⟨v, hv, heq⟩ := ht.resolve_right hdraw
        exact ⟨fun hfree => hfree v hv (heq.trans name), clash, herror⟩

/-- How a race for a name stands: nobody has it yet, or one contender has won and all others can
only lose. -/
inductive Race (contends : ι → Prop) (username : String) (m : Moment ι) : Prop where
  | running (free : m.store.Free username)
      (all : ∀ i, contends i → Registering username (m.plans i))
  | won (winner : ι) (u : User) (contended : contends winner)
      (ok : m.plans winner = .done (.ok u)) (taken : ¬ m.store.Free username)
      (others : ∀ i, contends i → i ≠ winner → Registering username (m.plans i) ∨
        ∃ clash, m.plans i = .done (.error (.alreadyExists clash)))

/-- A turn that leaves the race to the contenders: some identifier that is drawn is free, and a
client outside the race neither takes the name nor gives it back. -/
structure Fair (contends : ι → Prop) (username : String) (m : Moment ι) (t : Turn ι) : Prop where
  draw : m.store.freeDraw? t.around.draws ≠ none
  outside : ¬ contends t.client → (m.store.Free username ↔ (m.turn t).store.Free username)

/-- Every one of the turns is fair when it comes. -/
def AllFair (contends : ι → Prop) (username : String) : Moment ι → List (Turn ι) → Prop
  | _, [] => True
  | m, t :: rest => m.Fair contends username t ∧ (m.turn t).AllFair contends username rest

instance (contends : ι → Prop) [DecidablePred contends] (username : String) (m : Moment ι)
    (t : Turn ι) : Decidable (m.Fair contends username t) :=
  decidable_of_iff
    (m.store.freeDraw? t.around.draws ≠ none ∧
      (¬ contends t.client → (m.store.Free username ↔ (m.turn t).store.Free username)))
    ⟨fun h => ⟨h.1, h.2⟩, fun h => ⟨h.draw, h.outside⟩⟩

instance AllFair.decidable (contends : ι → Prop) [DecidablePred contends] (username : String) :
    (m : Moment ι) → (turns : List (Turn ι)) → Decidable (m.AllFair contends username turns)
  | _, [] => .isTrue trivial
  | m, t :: rest =>
    have := AllFair.decidable contends username (m.turn t) rest
    inferInstanceAs (Decidable (m.Fair contends username t ∧ _))

/-- After a fair turn the race is still open, or somebody has won it for good. -/
theorem Race.turn {contends : ι → Prop} (h : m.Race contends username) (hw : m.store.WellKept)
    (hfair : m.Fair contends username t) : (m.turn t).Race contends username := by
  have kept {i : ι} (hi : i ≠ t.client) := m.turn_plans_of_ne hi
  cases h with
  | running free all =>
    by_cases hc : contends t.client
    · rcases turn_registering (all _ hc) hw hfair.draw with ⟨-, htaken, u, hok⟩ | ⟨hstore, hrest⟩
      · refine .won t.client u hc hok htaken fun i hi hne => Or.inl ?_
        rw [kept hne]
        exact all i hi
      · refine .running (hstore ▸ free) fun i hi => ?_
        by_cases hne : i = t.client
        · subst hne
          exact hrest.resolve_right fun hlost => hlost.1 free
        · rw [kept hne]
          exact all i hi
    · refine .running ((hfair.outside hc).mp free) fun i hi => ?_
      rw [kept fun heq => hc (heq ▸ hi)]
      exact all i hi
  | won winner u contended ok taken others =>
    -- Whoever is not the client of the turn stands as before; only that client needs a look.
    have hothers (hclient : contends t.client → t.client ≠ winner →
          Registering username ((m.turn t).plans t.client) ∨
            ∃ clash, (m.turn t).plans t.client = .done (.error (.alreadyExists clash)))
        (i : ι) (hi : contends i) (hne : i ≠ winner) :
        Registering username ((m.turn t).plans i) ∨
          ∃ clash, (m.turn t).plans i = .done (.error (.alreadyExists clash)) := by
      by_cases heq : i = t.client
      · subst heq
        exact hclient hi hne
      · rw [kept heq]
        exact others i hi hne
    have hok := plans_turn_of_done ok t
    by_cases hc : contends t.client
    · by_cases hself : t.client = winner
      · have hstore := (turn_done (t := t) (hself ▸ ok)).2
        exact .won winner u contended hok (hstore ▸ taken)
          (hothers fun _ hne => absurd hself hne)
      · rcases others t.client hc hself with hreg | ⟨clash, hlost⟩
        · rcases turn_registering hreg hw hfair.draw with ⟨hfree, -⟩ | ⟨hstore, hrest⟩
          · exact absurd hfree taken
          · exact .won winner u contended hok (hstore ▸ taken)
              (hothers fun _ _ => hrest.imp_right And.right)
        · obtain ⟨hplan, hstore⟩ := turn_done hlost
          exact .won winner u contended hok (hstore ▸ taken) (hothers fun _ _ => Or.inr ⟨_, hplan⟩)
    · exact .won winner u contended hok (fun hfree => taken ((hfair.outside hc).mpr hfree))
        (hothers fun h => absurd h hc)

theorem Race.after {contends : ι → Prop} {accounts : Accounts} {ops : ι → Operation}
    (turns : List (Turn ι)) : ∀ {m : Moment ι}, m.Orderly accounts ops → m.Race contends username →
    m.AllFair contends username turns → (m.after turns).Race contends username := by
  induction turns with
  | nil => exact fun _ h _ => h
  | cons t rest ih => exact fun ho h hfair => ih (ho.turn t) (h.turn ho.wellKept hfair.1) hfair.2

omit [DecidableEq ι] in
/-- Once all contenders have come to their end, one of them has won and all others were told that
the name is taken. -/
theorem Race.exists_winner {contends : ι → Prop} (h : m.Race contends username)
    (hsome : ∃ i, contends i) (hdone : ∀ i, contends i → m.result? i ≠ none) :
    ∃ winner, contends winner ∧ (∃ u, m.result? winner = some (.ok u)) ∧
      ∀ i, contends i → i ≠ winner →
        ∃ clash, m.result? i = some (.error (.alreadyExists clash)) := by
  have hnot (i : ι) (hi : contends i) : ¬ Registering username (m.plans i) := fun hreg =>
    hdone i hi hreg.result?_eq_none
  cases h with
  | running free all =>
    obtain ⟨i, hi⟩ := hsome
    exact absurd (all i hi) (hnot i hi)
  | won winner u contended ok taken others =>
    refine ⟨winner, contended, ⟨u, result?_eq_some_iff.mpr ok⟩, fun i hi hne => ?_⟩
    obtain ⟨clash, hlost⟩ := (others i hi hne).resolve_left (hnot i hi)
    exact ⟨clash, result?_eq_some_iff.mpr hlost⟩

/-! ## What comes of a race -/

/-- What comes of the write of a client: it takes effect and is reported, or it is refused and
changes nothing. -/
inductive Resolved (op : Operation) (m : Moment ι) (t : Turn ι) (w : Write) : Prop where
  | took (u : User) (result : (m.turn t).result? t.client = some (.ok u))
      (took : m.store.Took t.around.now w u (m.turn t).store)
  | refused (e : AccountError) (result : (m.turn t).result? t.client = some (.error e))
      (kept : (m.turn t).store = m.store) (told : op.TellsRefusal → w.Told m.store t.around e)

theorem Orderly.resolved {accounts : Accounts} {ops : ι → Operation} (h : m.Orderly accounts ops)
    (hh : accounts.hasher.Works) {q : Question} {next : q.Answer → Action User}
    (hplan : m.plans t.client = .ask q next) (hq : q.isQuiet = false) :
    ∃ w, q = .store w.call ∧ m.Resolved (ops t.client) t w := by
  have hunder := h.underway t.client
  rw [hplan] at hunder
  obtain ⟨s, w, hs, hwrites, heq⟩ := hunder.write_of_ask hq
  obtain ⟨next', hcall⟩ := w.exists_plan_eq (ops t.client).sort
  refine ⟨w, by injection heq.trans hcall, ?_⟩
  rcases turn_write (hplan.trans heq) with ⟨u, hok, htook⟩ | ⟨e, herror, hstore, hrefuses⟩
  · exact .took u (result?_eq_some_iff.mpr hok) htook
  · refine .refused _ (result?_eq_some_iff.mpr herror) hstore fun htells => ?_
    rw [Operation.sort_of_tellsRefusal htells]
    exact hrefuses.told (hwrites.hashed hh hs)

/-- **Races are resolved by the store.** Any number of clients carry out operations over one store,
their questions interleaved in any way.

* The store is well kept at every moment.
* A write takes effect and is reported with success, or it changes nothing; and where operations
  tell why their write was refused, that is because the record is not there any more, or because
  the name or the identifier is taken.
* Success is reported only for a write that took effect.
* Of several valid registrations of a free name that have all come to an end, exactly one has
  succeeded, provided that no other client has taken the name or given it back. -/
theorem races_resolved_by_store {accounts : Accounts} (hh : accounts.hasher.Works)
    (ops : ι → Operation) {s : MemoryStore} (hw : s.WellKept) (turns : List (Turn ι)) :
    let before (turns : List (Turn ι)) := (start accounts ops s).after turns
    let m := before turns
    m.store.WellKept ∧
    (∀ (t : Turn ι) (q : Question) (next : q.Answer → Action User),
      m.plans t.client = .ask q next → q.isQuiet = false →
      ∃ w, q = .store w.call ∧ m.Resolved (ops t.client) t w) ∧
    (∀ i u, m.result? i = some (.ok u) → ∃ first around rest w next,
      turns = first ++ ⟨i, around⟩ :: rest ∧ (before first).plans i = .ask (.store w.call) next ∧
      (before first).store.Took around.now w u (before (first ++ [⟨i, around⟩])).store) ∧
    ∀ (contends : ι → Prop) (username : String), (∃ i, contends i) →
      (∀ i, contends i → (ops i).ValidRegistration username) → s.Free username →
      (start accounts ops s).AllFair contends username turns →
      (∀ i, contends i → m.result? i ≠ none) →
      ∃ winner, contends winner ∧ (∃ u, m.result? winner = some (.ok u)) ∧
        ∀ i, contends i → i ≠ winner →
          ∃ clash, m.result? i = some (.error (.alreadyExists clash)) := by
  intro before m
  have hstart : (start accounts ops s).Orderly accounts ops := .start hw
  have hm : m.Orderly accounts ops := hstart.after turns
  refine ⟨hm.wellKept, fun t q next hplan hq => hm.resolved hh hplan hq, fun i u hu => ?_, ?_⟩
  · obtain ⟨first, around, rest, w, heq, hplan, htook⟩ :=
      exists_write_of_result turns hstart (((ops i).goes accounts).ne_ok u)
        (result?_eq_some_iff.mp hu)
    obtain ⟨next, hnext⟩ := w.exists_plan_eq (ops i).sort
    refine ⟨first, around, rest, w, next, heq, hplan.trans hnext, ?_⟩
    rw [show before (first ++ [⟨i, around⟩]) = (before first).turn ⟨i, around⟩ from
      after_append _ _ _]
    exact htook
  · intro contends username hsome hvalid hfree hfair hdone
    have hrace : (start accounts ops s).Race contends username :=
      .running hfree fun i hi => (hvalid i hi).registering hh
    exact (Race.after turns hstart hrace hfair).exists_winner hsome hdone

/-- Two clients register the same name while a third one registers another: both find the name
free, and the one that writes later is told that it is taken. -/
theorem races_resolved_by_store_for_one_name :
    let accounts : Accounts := ⟨.marking⟩
    let ops : Fin 3 → Operation
      | 0 => .createUser "alice" "first password" "" .normal
      | 1 => .createUser "alice" "second password" "" .admin
      | 2 => .createUser "bob" "third password" "" .normal
    let around (id : Nat) : Surroundings :=
      ⟨⟨10, 0, by decide⟩, fun n => ⟨BitVec.ofNat 128 (id + n)⟩, [], 0⟩
    let turns : List (Turn (Fin 3)) :=
      [⟨0, around 1⟩, ⟨1, around 1⟩, ⟨2, around 1⟩, ⟨0, around 1⟩, ⟨1, around 1⟩, ⟨2, around 1⟩,
        ⟨1, around 1⟩, ⟨2, around 1⟩, ⟨0, around 1⟩]
    let m := (start accounts ops .empty).after turns
    m.store.WellKept ∧ ∃ winner, (winner = 0 ∨ winner = 1) ∧
      (∃ u, m.result? winner = some (.ok u)) ∧ ∀ i, i = 0 ∨ i = 1 → i ≠ winner →
        ∃ clash, m.result? i = some (.error (.alreadyExists clash)) := by
  intro accounts ops around turns m
  have hworks : accounts.hasher.Works := PasswordHasher.marking_works
  obtain ⟨hkept, -, -, hrace⟩ := races_resolved_by_store hworks ops .empty turns
  have hvalid : ∀ i, i = 0 ∨ i = 1 → (ops i).ValidRegistration "alice" := by
    rintro i (rfl | rfl)
    · exact ⟨_, _, _, _, rfl, rfl, rfl, rfl⟩
    · exact ⟨_, _, _, _, rfl, rfl, rfl, rfl⟩
  have hfair : (start accounts ops .empty).AllFair (fun i => i = 0 ∨ i = 1) "alice" turns := by
    decide +kernel
  have hdone : (m.result? 0).isSome ∧ (m.result? 1).isSome := by
    decide +kernel
  refine ⟨hkept, hrace (fun i => i = 0 ∨ i = 1) "alice" ⟨0, Or.inl rfl⟩ hvalid
    (fun v hv => absurd hv List.not_mem_nil) hfair ?_⟩
  rintro i (rfl | rfl)
  · exact Option.isSome_iff_ne_none.mp hdone.1
  · exact Option.isSome_iff_ne_none.mp hdone.2

end Moment

end AccountServer
