import AccountServer.Proofs.Service.Foreseen
import AccountServer.Proofs.Service.Lifetime
import AccountServer.Proofs.Service.Races

/-!
# Who gets in, and who is turned away

When a registration and a change of identity succeed, and what they fail with otherwise. Both check
their arguments, then look for clashes among the records, and only then write. In between nothing
happens here, and so the write, which checks all of it once more, never refuses.

* A store that answers lookups as a table of records does leads a plan the same way whatever kind it
  is of (`run_look_knows`). So the plans are followed up to their write once for all.
* The write is then done over each kind of store (`Backend.Holds.perform_of_ok`).
* `Verdict` sorts the answers, and `createVerdict` and `updateVerdict` say which one is due.
-/

namespace AccountServer

open Plan (Answers)

/-! ## Arguments -/

namespace Validation

/-- The username is empty or has a control character. -/
def BadUsername (text : String) : Prop := text = "" ∨ ∃ c ∈ text.toList, Text.isControl c = true

/-- There is an email, and it is too long or has not the form of one. -/
def BadEmail (text : String) : Prop :=
  text ≠ "" ∧ (254 < text.utf8ByteSize ∨ isEmail text.toList = false)

instance (text : String) : Decidable (BadUsername text) :=
  decidable_of_iff (text = "" ∨ text.toList.any Text.isControl = true) <| by
    rw [BadUsername, List.any_eq_true]

instance (text : String) : Decidable (BadEmail text) :=
  inferInstanceAs (Decidable (_ ∧ (_ ∨ _)))

/-- The email that a text stands for: the empty text stands for none. -/
def emailOf (text : String) : Option String := if text = "" then none else some text

theorem username_of_not_bad {text : String} (h : ¬ BadUsername text) : username text = .ok () := by
  simp only [BadUsername, not_or, not_exists, not_and, Bool.not_eq_true] at h
  exact username_eq_ok_iff.mpr h

theorem exists_username_error {text : String} (h : BadUsername text) :
    ∃ fault, username text = .error fault := by
  cases hname : username text with
  | error fault => exact ⟨fault, rfl⟩
  | ok _ =>
    obtain ⟨hne, hprintable⟩ := username_eq_ok_iff.mp hname
    rcases h with hempty | ⟨c, hc, hcontrol⟩
    · exact absurd hempty hne
    · rw [hprintable c hc] at hcontrol
      cases hcontrol

theorem optionalEmail_of_not_bad {text : String} (h : ¬ BadEmail text) :
    optionalEmail text = .ok (emailOf text) := by
  by_cases hempty : text = ""
  · simp [optionalEmail, emailOf, hempty]
  · simp only [BadEmail, not_and, not_or, Bool.not_eq_false] at h
    obtain ⟨hsize, hform⟩ := h hempty
    simp [optionalEmail, email, emailOf, hempty, hsize, hform]

theorem exists_optionalEmail_error {text : String} (h : BadEmail text) :
    ∃ fault, optionalEmail text = .error fault := by
  obtain ⟨hne, hbad⟩ := h
  by_cases hsize : 254 < text.utf8ByteSize
  · exact ⟨.emailTooLong, by simp [optionalEmail, email, hne, hsize]⟩
  · have hform : isEmail text.toList = false := hbad.resolve_left hsize
    exact ⟨.emailForm, by simp [optionalEmail, email, hne, hsize, hform]⟩

theorem userId_of_parse? {text : String} {id : Uuid} (h : Uuid.parse? text = some id) :
    userId text = .ok id := by
  rw [userId, h]

theorem userId_of_parse?_none {text : String} (h : Uuid.parse? text = none) :
    userId text = .error (.userId text) := by
  rw [userId, h]

end Validation

/-! ## Calls to a store of any kind -/

namespace Backend

/-- The surroundings supply a new identifier. A table takes the first one that is drawn. -/
inductive Supplies : Backend → Surroundings → Prop where
  | memory {m : MemoryStore} {around : Surroundings} (free : m.freeDraw? around.draws ≠ none) :
      Supplies (.memory m) around
  | table {t : TableStore} {around : Surroundings} (free : t.row? (around.draws 0) = none) :
      Supplies (.table t) around

/-- A store in memory needs a free draw among those that it looks at. -/
theorem supplies_memory_iff {m : MemoryStore} {around : Surroundings} :
    (Backend.memory m).Supplies around ↔ m.freeDraw? around.draws ≠ none :=
  ⟨fun (.memory h) => h, .memory⟩

/-- A table needs the first draw to be free. -/
theorem supplies_table_iff {t : TableStore} {around : Surroundings} :
    (Backend.table t).Supplies around ↔ t.row? (around.draws 0) = none :=
  ⟨fun (.table h) => h, .table⟩

instance : (b : Backend) → (around : Surroundings) → Decidable (b.Supplies around)
  | .memory _, _ => decidable_of_iff _ supplies_memory_iff.symm
  | .table _, _ => decidable_of_iff _ supplies_table_iff.symm

theorem lookup_memory (l : Lookup) (around : Surroundings) (m : MemoryStore) :
    l.perform around (Backend.memory m) = (l.answer m, .memory m) := by
  cases l <;> rfl

theorem lookup_table (l : Lookup) (around : Surroundings) (t : TableStore) :
    l.perform around (Backend.table t) = (l.answerFrom t, .table t) := by
  cases l <;> rfl

namespace Holds

variable {b : Backend} {s : MemoryStore}

/-- A backend answers lookups by the records that it stands for. -/
theorem answers_knows (h : b.Holds s) : Answers s.Knows b := by
  rintro l _ rfl around
  cases h with
  | memory _ => exact lookup_memory l around _
  | table hmirrors => rw [lookup_table, hmirrors.answerFrom_eq]

theorem timesAll (h : b.Holds s) {u : User} (hu : u ∈ s.users) : u.TimesAll b.Keeps := by
  cases h with
  | memory _ => exact ⟨.memory _ _, .memory _ _, fun _ _ => .memory _ _, fun _ _ => .memory _ _⟩
  | table hmirrors => exact (hmirrors.storable u hu).mono fun _ ht => .table _ ht

/-- A write that succeeds on the records succeeds. -/
theorem perform_of_ok (h : b.Holds s) {w : Write} {around : Surroundings}
    (htimes : w.TimesAll b.Keeps) (hnow : b.Keeps around.now)
    (hdraws : w.draws = true → b.Supplies around) {u : User} {s' : MemoryStore}
    (hok : w.perform around s = (.ok u, s')) :
    ∃ b', w.perform around b = (.ok u, b') ∧ b'.Holds s' ∧
      ∀ time, b'.Keeps time ↔ b.Keeps time := by
  cases h with
  | memory hw =>
    rw [write_memory, hok]
    rcases w.perform_cases around s with ⟨u', s'', heq, htook⟩ | ⟨e, heq, -⟩
    · cases hok.symm.trans heq
      exact ⟨_, rfl, .memory (htook.wellKept hw),
        fun time => ⟨fun _ => .memory _ _, fun _ => .memory _ _⟩⟩
    · cases hok.symm.trans heq
  | @table t _ hmirrors =>
    have hstorable : w.Storable := by
      cases w with
      | create u | update id u =>
        exact ⟨fun t ht => keeps_table_iff.mp (htimes.1 t ht),
          fun t ht => keeps_table_iff.mp (htimes.2 t ht)⟩
      | delete id => exact trivial
    have hfresh : w.draws = true → s.get? (around.draws 0) = none := by
      intro hd
      have hrow := supplies_table_iff.mp (hdraws hd)
      rw [hmirrors.row?] at hrow
      exact Option.map_eq_none_iff.mp hrow
    obtain ⟨hagree, hafter⟩ := hmirrors.write hstorable (keeps_table_iff.mp hnow) hfresh
    rw [hok] at hagree hafter
    refine ⟨_, ?_, .table hafter, fun time => ?_⟩
    · rw [write_table, hagree.eq_ok]
    · rw [keeps_table_iff, keeps_table_iff]

end Holds

end Backend

/-! ## Plans up to their write -/

section Pieces

variable {σ : Type} [AccountStore σ] {d : σ} {s : MemoryStore} {α : Type}

theorem Plan.run_look_knows {ε : Type} (hd : Answers s.Knows d) (l : Lookup)
    (next : Except StoreError User → Plan ε α) (around : Nat → Surroundings) :
    (look l next).run around d = (next (l.answer s)).run (fun n => around (n + 1)) d := by
  rw [run_look, hd l _ rfl]

namespace Accounts

variable {around : Nat → Surroundings}

theorem run_ask_get (hd : Answers s.Knows d) {u : User} (found : s.get? u.id = some u)
    (f : User → Action α) :
    (ask (.get u.id) >>= f).run around d = (f u).run (fun n => around (n + 1)) d := by
  rw [Operation.ask_eq]
  show (Plan.look (.byId u.id) _).run around d = _
  rw [Plan.run_look_knows hd, Lookup.answer, MemoryStore.get_eq_ok_iff.mpr found]
  rfl

/-- Who is not there ends the plan. -/
theorem run_ask_get_of_missing (hd : Answers s.Knows d) {id : Uuid} (missing : s.get? id = none)
    (f : User → Action α) : (ask (.get id) >>= f).run around d = (.error .notFound, d) := by
  rw [Operation.ask_eq]
  show (Plan.look (.byId id) _).run around d = _
  rw [Plan.run_look_knows hd, Lookup.answer, MemoryStore.get, missing]
  rfl

theorem run_lookUp_get (hd : Answers s.Knows d) (id : Uuid) (f : Option User → Action α) :
    (lookUp (.get id) >>= f).run around d = (f (s.get? id)).run (fun n => around (n + 1)) d := by
  show (Plan.look (.byId id) _).run around d = _
  rw [Plan.run_look_knows hd, Lookup.answer, MemoryStore.get]
  cases s.get? id <;> rfl

theorem run_ensureUsernameFree (hd : Answers s.Knows d) (hw : s.WellKept) {username : String}
    (free : ∀ v ∈ s.users, v.username ≠ username) (f : Unit → Action α) :
    (ensureUsernameFree username >>= f).run around d =
      (f ()).run (fun n => around (n + 1)) d := by
  show (Plan.look (.byName username) _).run around d = _
  rw [Plan.run_look_knows hd]
  rcases (Lookup.byName username).answer_eq hw with ⟨v, hv, hname, -⟩ | ⟨-, heq⟩
  · exact absurd hname (free v hv)
  · rw [heq]
    rfl

/-- A name that is taken ends the plan with that failure. -/
theorem run_ensureUsernameFree_of_taken (hd : Answers s.Knows d) (hw : s.WellKept)
    {username : String} (taken : ∃ v ∈ s.users, v.username = username) (f : Unit → Action α) :
    (ensureUsernameFree username >>= f).run around d =
      (.error (.alreadyExists (.usernameTaken username)), d) := by
  obtain ⟨v, hv, hname⟩ := taken
  show (Plan.look (.byName username) _).run around d = _
  rw [Plan.run_look_knows hd, Lookup.answer_of_finds (l := .byName username) hw hv hname]
  rfl

end Accounts

end Pieces

/-! ## Changes of identity -/

/-- Somebody has the identifier or the username that the user is to take. -/
def MemoryStore.Clashes (s : MemoryStore) (old : User) (id : Uuid) (username : String) : Prop :=
  (id ≠ old.id ∧ ∃ v ∈ s.users, v.id = id) ∨
    (username ≠ old.username ∧ ∃ v ∈ s.users, v.username = username)

instance (s : MemoryStore) (old : User) (id : Uuid) (username : String) :
    Decidable (s.Clashes old id username) :=
  inferInstanceAs (Decidable ((_ ∧ ∃ v ∈ s.users, _) ∨ (_ ∧ ∃ v ∈ s.users, _)))

/-- What a change of identity makes of a record. -/
def User.identified (old : User) (id : Uuid) (username : String) (email : Option String)
    (role : Role) : User :=
  { old with id := id, username := username, email := email, role := role }

section Changes

variable {σ : Type} [AccountStore σ] {d : σ} {s : MemoryStore} {old : User} {id : Uuid}
  {username : String}

/-- A check that is made only if there is something new. -/
theorem Plan.run_check_if {ε α : Type} {check p : Plan ε α} {new taken : Prop} [Decidable new]
    [Decidable taken] {e : ε} {around : Nat → Surroundings}
    (fails : taken → check.run around d = (.error e, d))
    (passes : ¬ taken → check.run around d = p.run (fun k => around (k + 1)) d) :
    if new ∧ taken then (if new then check else p).run around d = (.error e, d)
    else ∃ n, (if new then check else p).run around d = p.run (fun k => around (k + n)) d := by
  by_cases hnew : new
  · simp only [hnew, true_and, if_true]
    split
    · next h => exact fails h
    · next h => exact ⟨1, passes h⟩
  · simp only [hnew, false_and, if_false]
    exact ⟨0, rfl⟩

theorem Accounts.run_check_username (hd : Answers s.Knows d) (hw : s.WellKept) (old : User)
    (username : String) (p : Action User) (around : Nat → Surroundings) :
    let check : Action User :=
      if username ≠ old.username then ensureUsernameFree username >>= fun _ => p else p
    if username ≠ old.username ∧ ∃ v ∈ s.users, v.username = username then
      check.run around d = (.error (.alreadyExists (.usernameTaken username)), d)
    else ∃ n, check.run around d = p.run (fun k => around (k + n)) d :=
  Plan.run_check_if (fun taken => run_ensureUsernameFree_of_taken hd hw taken _)
    fun free => run_ensureUsernameFree hd hw (fun v hv heq => free ⟨v, hv, heq⟩) _

theorem Accounts.run_check_id (hd : Answers s.Knows d) (hw : s.WellKept) (old : User) (id : Uuid)
    (p : Action User) (around : Nat → Surroundings) :
    let check : Action User :=
      if id ≠ old.id then
        lookUp (.get id) >>= fun found =>
          if found.isSome then throw (.alreadyExists (.idInUse id)) else p
      else p
    if id ≠ old.id ∧ ∃ v ∈ s.users, v.id = id then
      check.run around d = (.error (.alreadyExists (.idInUse id)), d)
    else ∃ n, check.run around d = p.run (fun k => around (k + n)) d := by
  refine Plan.run_check_if (fun taken => ?_) fun free => ?_
  · obtain ⟨v, hv, rfl⟩ := taken
    rw [run_lookUp_get hd, MemoryStore.get?_of_mem hw hv]
    rfl
  · have hmissing : s.get? id = none :=
      hw.get?_eq_none_iff.mpr fun v hv heq => free ⟨v, hv, heq⟩
    rw [run_lookUp_get hd, hmissing]
    rfl

theorem Accounts.run_updateUser_of_missing (hd : Answers s.Knows d) {current : Uuid}
    {currentId newId email : String} {email' : Option String} (role : Role)
    (hname : Validation.username username = .ok ())
    (hemail : Validation.optionalEmail email = .ok email')
    (hcurrent : Validation.userId currentId = .ok current) (hnew : Validation.userId newId = .ok id)
    (missing : s.get? current = none) (around : Nat → Surroundings) :
    (updateUser currentId newId username email role).run around d = (.error .notFound, d) := by
  unfold updateUser
  rw [hname, hemail, hcurrent, hnew]
  exact run_ask_get_of_missing hd missing _

/-- A change of identity with good arguments comes to a clash or to its write. -/
theorem Accounts.run_updateUser (hd : Answers s.Knows d) (hw : s.WellKept)
    {currentId newId email : String} {email' : Option String} (role : Role)
    (hname : Validation.username username = .ok ())
    (hemail : Validation.optionalEmail email = .ok email')
    (hcurrent : Validation.userId currentId = .ok old.id) (hnew : Validation.userId newId = .ok id)
    (found : s.get? old.id = some old) (around : Nat → Surroundings) :
    if s.Clashes old id username then
      ∃ clash, (updateUser currentId newId username email role).run around d =
        (.error (.alreadyExists clash), d)
    else
      ∃ n, (updateUser currentId newId username email role).run around d =
        ((Write.update old.id (old.identified id username email' role)).plan .ofStore).run
          (fun k => around (k + n)) d := by
  let write := ask (.update old.id (old.identified id username email' role))
  let named : Action User :=
    if username ≠ old.username then ensureUsernameFree username >>= fun _ => write else write
  have hrun : (updateUser currentId newId username email role).run around d =
      (if id ≠ old.id then
        lookUp (.get id) >>= fun found =>
          if found.isSome then throw (.alreadyExists (.idInUse id)) else named
      else named : Action User).run (fun n => around (n + 1)) d := by
    unfold updateUser
    rw [hname, hemail, hcurrent, hnew]
    exact run_ask_get hd found _
  rw [hrun]
  have hid := run_check_id hd hw old id named fun n => around (n + 1)
  have hname := fun m => run_check_username hd hw old username write fun k => around (k + m + 1)
  have hwrite : write =
      (Write.update old.id (old.identified id username email' role)).plan .ofStore :=
    Operation.ask_eq _
  -- The identifier is checked before the name.
  by_cases htaken : id ≠ old.id ∧ ∃ v ∈ s.users, v.id = id
  · have hclash : s.Clashes old id username := Or.inl htaken
    rw [if_pos hclash]
    exact ⟨_, (if_pos htaken).mp hid⟩
  · obtain ⟨m, hm⟩ := (if_neg htaken).mp hid
    rw [hm]
    by_cases hused : username ≠ old.username ∧ ∃ v ∈ s.users, v.username = username
    · have hclash : s.Clashes old id username := Or.inr hused
      rw [if_pos hclash]
      exact ⟨_, (if_pos hused).mp (hname m)⟩
    · have hfree : ¬ s.Clashes old id username := fun h => h.elim htaken hused
      obtain ⟨n, hn⟩ := (if_neg hused).mp (hname m)
      rw [if_neg hfree]
      refine ⟨n + m + 1, hn.trans ?_⟩
      rw [hwrite]
      simp only [Nat.add_assoc]

/-- What passes the checks is written over a store of any kind. -/
theorem Backend.Holds.updateUser_of_free {b : Backend} (hb : b.Holds s)
    {currentId newId email : String} {email' : Option String} (role : Role)
    (hname : Validation.username username = .ok ())
    (hemail : Validation.optionalEmail email = .ok email')
    (hcurrent : Validation.userId currentId = .ok old.id) (hnew : Validation.userId newId = .ok id)
    (found : s.get? old.id = some old) (free : ¬ s.Clashes old id username)
    {around : Nat → Surroundings} (hclock : ∀ n, b.Keeps (around n).now) :
    ∃ n b', let stored : User :=
        { old.identified id username email' role with modified := (around n).now }
      (Accounts.updateUser currentId newId username email role).run around b = (.ok stored, b') ∧
        b'.Holds ((s.erase old.id).insert stored) ∧ ∀ time, b'.Keeps time ↔ b.Keeps time := by
  have hrun := Accounts.run_updateUser hb.answers_knows hb.wellKept role hname hemail hcurrent hnew
    found around
  rw [if_neg free] at hrun
  obtain ⟨n, hn⟩ := hrun
  simp only [MemoryStore.Clashes, not_or, not_and, not_exists] at free
  have hmem : old ∈ s.users := MemoryStore.mem_users_of_get? found
  have hok := Write.perform_update_of_free hb.wellKept
    (v := old.identified id username email' role) found
    (fun hne => hb.wellKept.get?_eq_none_iff.mpr (free.1 hne)) free.2
    (hb.wellKept.hashed old hmem) (around n)
  have htimes := hb.timesAll hmem
  obtain ⟨b', hperform, hb', hkeeps⟩ := hb.perform_of_ok
    (w := .update old.id (old.identified id username email' role))
    ⟨htimes.lastLogin, htimes.lastLogout⟩ (hclock n) nofun hok
  refine ⟨n, b', ?_, hb', hkeeps⟩
  rw [hn, Write.run_plan, Nat.zero_add, hperform]
  rfl

end Changes

/-! ## Registrations -/

theorem Backend.Supplies.freeDraw? {b : Backend} {s : MemoryStore} {around : Surroundings}
    (h : b.Supplies around) (hb : b.Holds s) : s.freeDraw? around.draws ≠ none := by
  cases hb with
  | memory _ =>
    cases h with
    | memory free => exact free
  | table hmirrors =>
    have hrow := supplies_table_iff.mp h
    rw [hmirrors.row?, Option.map_eq_none_iff] at hrow
    rw [MemoryStore.freeDraw?_of_free hrow]
    exact Option.some_ne_none _

/-- A registration with good arguments comes to its write if the name is free. -/
theorem Accounts.run_createUser {σ : Type} [AccountStore σ] {d : σ} {s : MemoryStore}
    (hd : Answers s.Knows d) (hw : s.WellKept) {accounts : Accounts} (hh : accounts.hasher.Works)
    {username password email : String} {email' : Option String} (role : Role)
    (hname : Validation.username username = .ok ())
    (hpassword : Validation.password password = .ok ())
    (hemail : Validation.optionalEmail email = .ok email') (around : Nat → Surroundings) :
    let r := (accounts.createUser username password email role).run around d
    if ∃ v ∈ s.users, v.username = username then
      r = (.error (.alreadyExists (.usernameTaken username)), d)
    else
      ∃ hash, hash ≠ "" ∧ r = ((Write.create (.draft username hash role email')).plan .ofStore).run
        (fun k => around (k + 2)) d := by
  intro r
  obtain ⟨hash, hhash⟩ := hh.hashes (around 1).salt password
  have hr : r = (ensureUsernameFree username >>= fun _ => accounts.hashPassword password >>=
      fun hash => ask (.create (.draft username hash role email'))).run around d := by
    show (accounts.createUser username password email role).run around d = _
    unfold createUser
    rw [hname, hpassword, hemail]
    rfl
  rw [hr]
  split
  · next taken => exact run_ensureUsernameFree_of_taken hd hw taken _
  · next free =>
    refine ⟨hash, hh.nonempty _ _ _ hhash, ?_⟩
    rw [run_ensureUsernameFree hd hw fun v hv heq => free ⟨v, hv, heq⟩]
    show (Plan.ofExcept ((accounts.hasher.hash (around 1).salt password).mapError _) >>= _ :
      Action User).run (fun k => around (k + 2)) d = _
    rw [hhash]
    refine congrArg (fun p : Action User => p.run (fun k => around (k + 2)) d) ?_
    exact Operation.ask_eq _

theorem MemoryStore.exists_perform_create {s : MemoryStore} {u : User} {around : Surroundings}
    (hash : u.passwordHash ≠ "") (name : ∀ v ∈ s.users, v.username ≠ u.username)
    (draw : s.freeDraw? around.draws ≠ none) :
    ∃ v s', (Write.create u).perform around s = (.ok v, s') := by
  rcases (Write.create u).perform_cases around s with ⟨v, s', heq, -⟩ | ⟨e, -, hrefuses⟩
  · exact ⟨v, s', heq⟩
  · cases hrefuses with
    | noHash hno => exact absurd hash hno
    | vanished hv => exact hv.elim
    | taken clash _ ht =>
      rcases ht with ⟨v, hv, heq⟩ | hnone
      · exact absurd heq (name v hv)
      · exact absurd hnone draw

/-! ## Verdicts -/

/-- What came of a registration or of a change of identity. -/
inductive Verdict where
  | ok
  | badArgument
  | notFound
  | alreadyExists
  /-- Any other failure, such as one of the store. -/
  | other
  deriving DecidableEq

/-- The verdict that an answer gives. -/
def Verdict.of : Except AccountError User → Verdict
  | .ok _ => .ok
  | .error (.badArgument _) => .badArgument
  | .error .notFound => .notFound
  | .error (.alreadyExists _) => .alreadyExists
  | .error _ => .other

namespace MemoryStore

/-- The verdict that is due to a registration. -/
def createVerdict (s : MemoryStore) (username password email : String) : Verdict :=
  if Validation.BadUsername username ∨ password = "" ∨ Validation.BadEmail email then .badArgument
  else if ∃ v ∈ s.users, v.username = username then .alreadyExists
  else .ok

/-- The verdict that is due to a change of identity. -/
def updateVerdict (s : MemoryStore) (currentId newId username email : String) : Verdict :=
  match Uuid.parse? currentId, Uuid.parse? newId with
  | some current, some id =>
    if Validation.BadUsername username ∨ Validation.BadEmail email then .badArgument
    else match s.get? current with
      | none => .notFound
      | some old => if s.Clashes old id username then .alreadyExists else .ok
  | _, _ => .badArgument

variable {s : MemoryStore} {currentId newId username email : String}

theorem updateVerdict_of_bad
    (bad : Validation.BadUsername username ∨ Validation.BadEmail email ∨
      Uuid.parse? currentId = none ∨ Uuid.parse? newId = none) :
    s.updateVerdict currentId newId username email = .badArgument := by
  unfold updateVerdict
  split
  · next hcurrent hnew =>
    have hargument : Validation.BadUsername username ∨ Validation.BadEmail email := by
      simpa [hcurrent, hnew] using bad
    exact if_pos hargument
  · rfl

theorem updateVerdict_of_good {current id : Uuid} (hname : ¬ Validation.BadUsername username)
    (hemail : ¬ Validation.BadEmail email) (hcurrent : Uuid.parse? currentId = some current)
    (hnew : Uuid.parse? newId = some id) :
    s.updateVerdict currentId newId username email =
      match s.get? current with
      | none => .notFound
      | some old => if s.Clashes old id username then .alreadyExists else .ok := by
  unfold updateVerdict
  rw [hcurrent, hnew]
  exact if_neg fun h => h.elim hname hemail

end MemoryStore

namespace Accounts

variable {σ : Type} [AccountStore σ]

/-- A registration with a bad argument fails at once. -/
theorem createUser_of_bad (accounts : Accounts) {username password email : String} (role : Role)
    (bad : Validation.BadUsername username ∨ password = "" ∨ Validation.BadEmail email) :
    ∃ fault, accounts.createUser username password email role =
      .done (.error (.badArgument fault)) := by
  unfold createUser
  by_cases hname : Validation.BadUsername username
  · obtain ⟨fault, hfault⟩ := Validation.exists_username_error hname
    exact ⟨fault, by rw [hfault]; rfl⟩
  · rw [Validation.username_of_not_bad hname]
    by_cases hpassword : password = ""
    · exact ⟨.passwordMissing, by subst hpassword; rfl⟩
    · have hok : Validation.password password = .ok () := by simp [Validation.password, hpassword]
      have hemail := (bad.resolve_left hname).resolve_left hpassword
      obtain ⟨fault, hfault⟩ := Validation.exists_optionalEmail_error hemail
      exact ⟨fault, by rw [hok, hfault]; rfl⟩

/-- So does a change of identity. -/
theorem updateUser_of_bad {currentId newId username email : String} (role : Role)
    (bad : Validation.BadUsername username ∨ Validation.BadEmail email ∨
      Uuid.parse? currentId = none ∨ Uuid.parse? newId = none) :
    ∃ fault, updateUser currentId newId username email role =
      .done (.error (.badArgument fault)) := by
  unfold updateUser
  by_cases hname : Validation.BadUsername username
  · obtain ⟨fault, hfault⟩ := Validation.exists_username_error hname
    exact ⟨fault, by rw [hfault]; rfl⟩
  · rw [Validation.username_of_not_bad hname]
    by_cases hemail : Validation.BadEmail email
    · obtain ⟨fault, hfault⟩ := Validation.exists_optionalEmail_error hemail
      exact ⟨fault, by rw [hfault]; rfl⟩
    · rw [Validation.optionalEmail_of_not_bad hemail]
      cases hcurrent : Uuid.parse? currentId with
      | none => exact ⟨_, by rw [Validation.userId_of_parse?_none hcurrent]; rfl⟩
      | some current =>
        have hnew : Uuid.parse? newId = none := by simpa [hname, hemail, hcurrent] using bad
        refine ⟨.userId newId, ?_⟩
        rw [Validation.userId_of_parse? hcurrent, Validation.userId_of_parse?_none hnew]
        rfl

end Accounts

namespace Backend.Holds

variable {b : Backend} {s : MemoryStore} {around : Nat → Surroundings}

/-- A registration gets the verdict that is due to it. -/
theorem verdict_of_create (hb : b.Holds s) {accounts : Accounts} (hh : accounts.hasher.Works)
    (username password email : String) (role : Role) (hclock : ∀ n, b.Keeps (around n).now)
    (hdraws : ∀ n, b.Supplies (around n)) :
    Verdict.of (accounts.perform ⟨.createUser username password email role, around⟩ b).1 =
      s.createVerdict username password email := by
  show Verdict.of ((accounts.createUser username password email role).run around b).1 = _
  unfold MemoryStore.createVerdict
  split
  · next bad =>
    obtain ⟨fault, hfault⟩ := accounts.createUser_of_bad role bad
    rw [hfault]
    rfl
  · next good =>
    simp only [not_or] at good
    obtain ⟨hname, hpassword, hemail⟩ := good
    have hrun := Accounts.run_createUser hb.answers_knows hb.wellKept hh role
      (Validation.username_of_not_bad hname)
      (show Validation.password password = .ok () by simp [Validation.password, hpassword])
      (Validation.optionalEmail_of_not_bad hemail) around
    split
    · next taken =>
      rw [(if_pos taken).mp hrun]
      rfl
    · next free =>
      obtain ⟨hash, hhash, heq⟩ := (if_neg free).mp hrun
      -- The lookup and the salt have used up the first two surroundings.
      obtain ⟨v, s', hok⟩ := MemoryStore.exists_perform_create
        (u := .draft username hash role (Validation.emailOf email)) hhash
        (fun v hv hname => free ⟨v, hv, hname⟩) ((hdraws 2).freeDraw? hb)
      obtain ⟨b', hperform, -⟩ := hb.perform_of_ok
        (w := .create (.draft username hash role (Validation.emailOf email))) ⟨nofun, nofun⟩
        (hclock 2) (fun _ => hdraws 2) hok
      rw [heq, Write.run_plan, hperform]
      rfl

/-- A change of identity gets the verdict that is due to it. If it is a success, then the record is
found under the identifier and the username that it was given, and not under the old identifier. -/
theorem verdict_of_update (hb : b.Holds s) (accounts : Accounts)
    (currentId newId username email : String) (role : Role)
    (hclock : ∀ n, b.Keeps (around n).now) :
    let after := accounts.perform ⟨.updateUser currentId newId username email role, around⟩ b
    Verdict.of after.1 = s.updateVerdict currentId newId username email ∧
      ∀ u, after.1 = .ok u → ∃ s', after.2.Holds s' ∧ Uuid.parse? newId = some u.id ∧
        s'.get? u.id = some u ∧ u.username = username ∧
        ∀ current, Uuid.parse? currentId = some current → u.id ≠ current →
          s'.get? current = none := by
  intro after
  have hafter : after = (Accounts.updateUser currentId newId username email role).run around b :=
    rfl
  -- The arguments are checked first, then the account is looked up, and only then the clashes.
  by_cases bad : Validation.BadUsername username ∨ Validation.BadEmail email ∨
      Uuid.parse? currentId = none ∨ Uuid.parse? newId = none
  · obtain ⟨fault, hfault⟩ := Accounts.updateUser_of_bad role bad
    rw [hafter, hfault, MemoryStore.updateVerdict_of_bad bad]
    exact ⟨rfl, nofun⟩
  · simp only [not_or, Option.ne_none_iff_exists'] at bad
    obtain ⟨hname, hemail, ⟨current, hcurrent⟩, ⟨id, hnew⟩⟩ := bad
    rw [MemoryStore.updateVerdict_of_good hname hemail hcurrent hnew]
    have hname := Validation.username_of_not_bad hname
    have hemail := Validation.optionalEmail_of_not_bad hemail
    have hcurrent' := Validation.userId_of_parse? hcurrent
    have hnew' := Validation.userId_of_parse? hnew
    cases found : s.get? current with
    | none =>
      rw [hafter, Accounts.run_updateUser_of_missing hb.answers_knows role hname hemail hcurrent'
        hnew' found]
      exact ⟨rfl, nofun⟩
    | some old =>
      obtain rfl : current = old.id := hb.wellKept.keyed _ (MemoryStore.mem_of_get? found)
      by_cases hclash : s.Clashes old id username
      · have hrun := Accounts.run_updateUser hb.answers_knows hb.wellKept role hname hemail
          hcurrent' hnew' found around
        obtain ⟨clash, heq⟩ := (if_pos hclash).mp hrun
        rw [hafter, heq]
        simp only [if_pos hclash]
        exact ⟨rfl, nofun⟩
      · obtain ⟨n, b', heq, hb', -⟩ := hb.updateUser_of_free role hname hemail hcurrent' hnew' found
          hclash hclock
        rw [hafter, heq]
        simp only [if_neg hclash]
        refine ⟨rfl, fun u hu => ⟨_, hb', ?_⟩⟩
        cases hu
        refine ⟨hnew, by simp, rfl, fun current h hne => ?_⟩
        obtain rfl : old.id = current := Option.some.inj (hcurrent.symm.trans h)
        simp [Ne.symm hne]

end Backend.Holds

/-- **Every answer is the one that is due.** Take any store that was empty once, whatever has been
done to it since, and a hasher that works.

* A registration fails for a bad argument exactly if the username, the password or the email is bad,
  else for a clash exactly if somebody has the username, and else succeeds. A new identifier has to
  be supplied for it.
* A change of identity fails for a bad argument exactly if the username, the email or one of the
  identifiers is bad, else because there is no such user, else for a clash exactly if an identifier
  or a username that is another one than before is in use, and else succeeds. Then the user is found
  under the new identifier with the new username, and nobody under the old one if that is another.

So the failure is never one of the store. -/
theorem verdicts_on_create_and_update {accounts : Accounts} (hh : accounts.hasher.Works)
    {b₀ : Backend} {errands : List Errand} (hb₀ : b₀.Holds .empty) (hclock₀ : b₀.KeepsAll errands) :
    let b := accounts.after b₀ errands
    ∃ s, b.Holds s ∧ (∀ time, b.Keeps time ↔ b₀.Keeps time) ∧
      (∀ (username password email : String) (role : Role) (around : Nat → Surroundings),
        (∀ n, b.Keeps (around n).now) → (∀ n, b.Supplies (around n)) →
        Verdict.of (accounts.perform ⟨.createUser username password email role, around⟩ b).1 =
          s.createVerdict username password email) ∧
      ∀ (currentId newId username email : String) (role : Role) (around : Nat → Surroundings),
        (∀ n, b.Keeps (around n).now) →
        let after := accounts.perform ⟨.updateUser currentId newId username email role, around⟩ b
        Verdict.of after.1 = s.updateVerdict currentId newId username email ∧
          ∀ u, after.1 = .ok u → ∃ s', after.2.Holds s' ∧ Uuid.parse? newId = some u.id ∧
            s'.get? u.id = some u ∧ u.username = username ∧
            ∀ current, Uuid.parse? currentId = some current → u.id ≠ current →
              s'.get? current = none := by
  obtain ⟨s, hb, hkeeps⟩ := hb₀.exists_after accounts hclock₀
  refine ⟨s, hb, hkeeps, ?_, ?_⟩
  · intro username password email role around hclock hdraws
    exact hb.verdict_of_create hh username password email role hclock hdraws
  · intro currentId newId username email role around hclock
    exact hb.verdict_of_update accounts currentId newId username email role hclock

/-- In a table with alice and bob, bob is registered once more, and alice takes another identifier
in capitals while she keeps her name. -/
theorem verdicts_on_create_and_update_of_alice :
    let around (id : Nat) : Nat → Surroundings := fun _ =>
      ⟨⟨5, 0, by decide⟩, fun _ => ⟨BitVec.ofNat 128 id⟩, [], 0⟩
    let first := "00000000-0000-0000-0000-000000000001"
    let accounts : Accounts := ⟨.marking⟩
    let errands : List Errand :=
      [⟨.createUser "alice" "one" "" .normal, around 1⟩,
        ⟨.createUser "bob" "two" "" .normal, around 2⟩]
    let b := accounts.after (Backend.table .empty) errands
    let move : Operation :=
      .updateUser first "0000000000000000000000000000000A" "alice" "a@example.com" .normal
    (Backend.table .empty).Holds .empty ∧ (Backend.table .empty).KeepsAll errands ∧
      ∃ s, b.Holds s ∧ s.createVerdict "bob" "three" "" = .alreadyExists ∧
        ∃ s', (accounts.perform ⟨move, around 0⟩ b).2.Holds s' ∧ (s'.get? ⟨10⟩).isSome ∧
          s'.get? ⟨1⟩ = none := by
  intro around first accounts errands b move
  have hnow : Instant.Storable ⟨5, 0, by decide⟩ := by decide
  have hempty : (Backend.table .empty).Holds .empty := .table .empty
  have hclock₀ : (Backend.table .empty).KeepsAll errands := by
    intro errand herrand n
    rcases List.mem_pair.mp herrand with rfl | rfl
    · exact .table _ hnow
    · exact .table _ hnow
  obtain ⟨s, hb, hsame, hcreate, hupdate⟩ := verdicts_on_create_and_update
    (show accounts.hasher.Works from PasswordHasher.marking_works) hempty hclock₀
  have hclock (id : Nat) : ∀ n, b.Keeps (around id n).now := fun _ =>
    (hsame _).mpr (.table _ hnow)
  have hfree : b.Supplies (around 3 0) := by decide +kernel
  have hdraws : ∀ n, b.Supplies (around 3 n) := fun _ => hfree
  refine ⟨hempty, hclock₀, s, hb, ?_, ?_⟩
  · have htaken : Verdict.of
        (accounts.perform ⟨.createUser "bob" "three" "" .normal, around 3⟩ b).1 =
          .alreadyExists := by
      decide +kernel
    exact (hcreate "bob" "three" "" .normal (around 3) (hclock 3) hdraws).symm.trans htaken
  · have hmoves : (accounts.perform ⟨move, around 0⟩ b).1.toOption.map User.id = some ⟨10⟩ := by
      decide +kernel
    obtain ⟨-, hfound⟩ := hupdate first _ "alice" "a@example.com" .normal (around 0) (hclock 0)
    change ∀ u, (accounts.perform ⟨move, around 0⟩ b).1 = .ok u → _ at hfound
    cases hanswer : (accounts.perform ⟨move, around 0⟩ b).1 with
    | error e =>
      rw [hanswer] at hmoves
      cases hmoves
    | ok u =>
      rw [hanswer] at hmoves
      have hid : u.id = ⟨10⟩ := Option.some.inj hmoves
      obtain ⟨s', hs', -, hstored, -, hgone⟩ := hfound u hanswer
      rw [hid] at hstored hgone
      have hparse : Uuid.parse? first = some ⟨1⟩ := by decide +kernel
      exact ⟨s', hs', by rw [hstored]; rfl, hgone ⟨1⟩ hparse (by decide)⟩

end AccountServer
