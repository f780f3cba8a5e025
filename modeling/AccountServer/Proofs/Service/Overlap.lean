import Mathlib.Data.List.Induction
import AccountServer.Proofs.Service.Races

/-!
# Operations that overlap

An operation writes back the whole record that it has looked up, with its own fields changed.
Nothing tells it that the record has changed in between. So when two operations on one user
overlap, the one that writes later keeps its own fields and puts all others back to what they were
when it looked.

* `Field`, `Operation.owned`: the fields of a record, and which of them an operation is there to
  set. It leaves the others as it has found them (`Rewrites.same`).
* `field_kept_iff`: for all interleavings of two operations that both succeed, what the record is
  in the end, and when a field that was written first is still there.
* `overlapping_login_revives`: a login that overlaps brings an old password, an old role and an old
  time of logout back.
-/

namespace AccountServer

/-- The fields of a record that operations set. -/
inductive Field where
  | id
  | username
  | passwordHash
  | email
  | role
  | lastLogin
  | lastLogout
  deriving DecidableEq

/-- Two records agree in a field. -/
def Field.Same : Field → User → User → Prop
  | .id, u, v => u.id = v.id
  | .username, u, v => u.username = v.username
  | .passwordHash, u, v => u.passwordHash = v.passwordHash
  | .email, u, v => u.email = v.email
  | .role, u, v => u.role = v.role
  | .lastLogin, u, v => u.lastLogin = v.lastLogin
  | .lastLogout, u, v => u.lastLogout = v.lastLogout

instance : (f : Field) → (u v : User) → Decidable (f.Same u v)
  | .id, u, v => inferInstanceAs (Decidable (u.id = v.id))
  | .username, u, v => inferInstanceAs (Decidable (u.username = v.username))
  | .passwordHash, u, v => inferInstanceAs (Decidable (u.passwordHash = v.passwordHash))
  | .email, u, v => inferInstanceAs (Decidable (u.email = v.email))
  | .role, u, v => inferInstanceAs (Decidable (u.role = v.role))
  | .lastLogin, u, v => inferInstanceAs (Decidable (u.lastLogin = v.lastLogin))
  | .lastLogout, u, v => inferInstanceAs (Decidable (u.lastLogout = v.lastLogout))

namespace Field.Same

variable {f : Field} {u v w : User}

theorem symm (h : f.Same u v) : f.Same v u := by
  cases f <;> exact Eq.symm h

theorem trans (h : f.Same u v) (h' : f.Same v w) : f.Same u w := by
  cases f <;> exact Eq.trans h h'

end Field.Same

namespace Operation

/-- The fields that an operation is there to set. -/
def owned : Operation → List Field
  | .login .. => [.lastLogin]
  | .logout _ => [.lastLogout]
  | .updateUser .. => [.id, .username, .email, .role]
  | .updatePassword .. => [.passwordHash]
  | .ensureAdmin .. => [.role, .passwordHash]
  | .createUser .. | .deleteUser _ => []

/-- The operation looks this user up. -/
def Names (op : Operation) (u : User) : Prop := ∃ l, op.lookup? = some l ∧ l.Finds u

variable {accounts : Accounts} {op : Operation} {s : MemoryStore}

theorem Rewrites.same {u v : User} (h : op.Rewrites accounts u v) {f : Field}
    (hf : f ∉ op.owned) : f.Same v u := by
  cases op with
  | login username password =>
    obtain ⟨-, now, rfl⟩ := h
    cases f <;> first | rfl | simp [owned] at hf
  | logout id =>
    obtain ⟨now, rfl⟩ := h
    cases f <;> first | rfl | simp [owned] at hf
  | updateUser currentId newId username email role =>
    obtain ⟨id, email', -, -, -, rfl⟩ := h
    cases f <;> first | rfl | simp [owned] at hf
  | updatePassword id password =>
    obtain ⟨-, salt, hash, -, rfl⟩ := h
    cases f <;> first | rfl | simp [owned] at hf
  | ensureAdmin username password =>
    obtain ⟨-, salt, hash, -, rfl⟩ := h
    cases f <;> first | rfl | simp [owned] at hf
  | createUser _ _ _ _ | deleteUser _ => exact h.elim

/-- The write puts back what the operation has made of this record. -/
def WritesBack (accounts : Accounts) (op : Operation) (u : User) (w : Write) : Prop :=
  ∃ v, w = .update u.id v ∧ op.Rewrites accounts u v

/-- An operation on a user who is there can only write that user's record. -/
theorem Writes.of_names (hw : s.WellKept) {u : User} (hu : u ∈ s.users) (hn : op.Names u)
    {w : Write} (h : op.Writes accounts s w) : op.WritesBack accounts u w := by
  obtain ⟨l, hl, hfinds⟩ := hn
  cases h with
  | update l' u' v hl' hu' finds rewrites =>
    obtain rfl : l = l' := Option.some.inj (hl.symm.trans hl')
    obtain rfl : u = u' := hfinds.unique hw hu hu' finds
    exact ⟨v, rfl, rewrites⟩
  | create l' _ hl' missing _ =>
    obtain rfl : l = l' := Option.some.inj (hl.symm.trans hl')
    exact absurd hfinds (missing u hu)
  | delete text id hop hid =>
    subst hop
    cases hl

/-! ## Up to the write -/

/-- What is left of an operation that can only come to a write of `W`, if the table stays as it is
until the lookup is made. -/
def BoundFor (accounts : Accounts) (op : Operation) (s : MemoryStore) (W : Write → Prop)
    (p : Action User) : Prop :=
  p.OneWrite op.sort W ∨ op.Goes accounts p ∧ ∀ w, op.Writes accounts s w → W w

theorem BoundFor.step {W : Write → Prop} {p : Action User} (h : op.BoundFor accounts s W p)
    (hw : s.WellKept) (around : Surroundings) :
    (∃ p', p.step around s = (p', s) ∧ p'.OneWrite op.sort W) ∨ ∃ w, W w ∧ p = w.plan op.sort := by
  rcases h with h | ⟨h, hW⟩
  · exact h.step around s
  · rcases h.step hw around with ⟨p', hstep, hp'⟩ | ⟨w, hwrites, heq⟩
    · exact Or.inl ⟨p', hstep, hp'.mono hW⟩
    · exact Or.inr ⟨w, hW w hwrites, heq⟩

/-- An operation on a user, before its first question or after its lookup. -/
theorem boundFor_of_names (hw : s.WellKept) {u : User} (hu : u ∈ s.users) (hn : op.Names u)
    {begun : Prop} [Decidable begun] {p : Action User}
    (h : if begun then p.OneWrite op.sort (op.Writes accounts s) else p = op.plan accounts) :
    op.BoundFor accounts s (op.WritesBack accounts u) p := by
  split at h
  · exact Or.inl (h.mono fun w hwrites => hwrites.of_names hw hu hn)
  · exact Or.inr ⟨h ▸ op.goes accounts, fun w hwrites => hwrites.of_names hw hu hn⟩

end Operation

namespace Moment

variable {ι : Type} [DecidableEq ι] {accounts : Accounts}

/-- A turn changes nothing, or it is the write of its client and takes effect. -/
theorem turn_boundFor {m : Moment ι} {t : Turn ι} {op : Operation} {W : Write → Prop}
    (h : op.BoundFor accounts m.store W (m.plans t.client)) (hw : m.store.WellKept) :
    ((m.turn t).store = m.store ∧ ((m.turn t).plans t.client).OneWrite op.sort W) ∨
      ∃ w u, W w ∧ (m.turn t).plans t.client = .done (.ok u) ∧
        m.store.Took t.around.now w u (m.turn t).store := by
  rcases h.step hw t.around with ⟨p, hstep, hp⟩ | ⟨w, hW, hplan⟩
  · obtain ⟨hplan, hstore⟩ := turn_eq hstep
    exact Or.inl ⟨hstore, hplan ▸ hp⟩
  · rcases turn_write hplan with ⟨u, hok, htook⟩ | ⟨e, herror, hstore, -⟩
    · exact Or.inr ⟨w, u, hW, hok, htook⟩
    · exact Or.inl ⟨hstore, herror ▸ .failed _⟩

/-- As long as nobody has succeeded, the store is as it was in the beginning, and so is what has to
be done by a client that has had no turn. -/
theorem after_of_no_success {ops : ι → Operation} {s : MemoryStore} (hw : s.WellKept)
    (turns : List (Turn ι)) :
    let m := (start accounts ops s).after turns
    (∀ i u, m.plans i ≠ .done (.ok u)) → m.store = s ∧
      ∀ i, if i ∈ turns.map Turn.client
        then (m.plans i).OneWrite (ops i).sort ((ops i).Writes accounts s)
        else m.plans i = (ops i).plan accounts := by
  induction turns using List.reverseRecOn with
  | nil => exact fun _ => ⟨rfl, fun i => by simp [start]⟩
  | append_singleton turns t ih =>
    intro m hnone
    have hm : m = ((start accounts ops s).after turns).turn t := after_append _ _ _
    clear_value m
    subst hm
    obtain ⟨hstore, hplans⟩ := ih fun i u h => hnone i u (plans_turn_of_done h t)
    generalize (start accounts ops s).after turns = m at hnone hstore hplans
    subst hstore
    have hbound : (ops t.client).BoundFor accounts m.store ((ops t.client).Writes accounts m.store)
        (m.plans t.client) := by
      have h := hplans t.client
      split at h
      · exact Or.inl h
      · rw [h]
        exact Or.inr ⟨(ops t.client).goes accounts, fun w hwrites => hwrites⟩
    rcases turn_boundFor hbound hw with ⟨hstore, hplan⟩ | ⟨w, u, -, hok, -⟩
    · refine ⟨hstore, fun i => ?_⟩
      by_cases hi : i = t.client
      · subst hi
        simpa using hplan
      · rw [m.turn_plans_of_ne hi]
        simpa [hi] using hplans i
    · exact absurd hok (hnone _ u)

theorem after_store_of_done (turns : List (Turn ι)) : ∀ {m : Moment ι},
    (∀ i, ∃ r, m.plans i = .done r) → (m.after turns).store = m.store := by
  induction turns with
  | nil => exact fun _ => rfl
  | cons t rest ih =>
    intro m hdone
    obtain ⟨r, hr⟩ := hdone t.client
    exact (ih fun i => (hdone i).imp fun _ h => plans_turn_of_done h t).trans (turn_done hr).2

/-- When everybody else is done, the store changes only by the write of the one who is not. -/
theorem took_of_alone {op : Operation} {W : Write → Prop} {i : ι} {u : User}
    (turns : List (Turn ι)) : ∀ {m : Moment ι}, m.store.WellKept →
    (∀ j, j ≠ i → ∃ r, m.plans j = .done r) → op.BoundFor accounts m.store W (m.plans i) →
    (∀ u, m.plans i ≠ .done (.ok u)) → (m.after turns).plans i = .done (.ok u) →
    ∃ w now, W w ∧ m.store.Took now w u (m.after turns).store := by
  induction turns with
  | nil => exact fun _ _ _ hnot hend => absurd hend (hnot u)
  | cons t rest ih =>
    intro m hw hothers hbound hnot hend
    have hothers' : ∀ j, j ≠ i → ∃ r, (m.turn t).plans j = .done r := fun j hj =>
      (hothers j hj).imp fun _ h => plans_turn_of_done h t
    by_cases hi : t.client = i
    · subst hi
      rcases turn_boundFor hbound hw with ⟨hstore, hplan⟩ | ⟨w, v, hW, hok, htook⟩
      · rw [← hstore] at hw ⊢
        exact ih hw hothers' (Or.inl hplan) hplan.ne_ok hend
      · have hdone : ∀ j, ∃ r, (m.turn t).plans j = .done r := fun j =>
          if hj : j = t.client then ⟨_, hj ▸ hok⟩ else hothers' j hj
        have heq : v = u := by
          have hv := (plans_after_of_done rest hok).symm.trans hend
          cases hv
          rfl
        subst heq
        exact ⟨w, t.around.now, hW, by rw [after_cons, after_store_of_done rest hdone]; exact htook⟩
    · obtain ⟨r, hr⟩ := hothers t.client hi
      have hplan := m.turn_plans_of_ne (Ne.symm hi)
      have hstore := (turn_done hr).2
      rw [← hstore] at hw hbound ⊢
      rw [← hplan] at hbound hnot
      exact ih hw hothers' hbound hnot hend

/-- If somebody comes to an end, somebody is the first. -/
theorem exists_first_result (turns : List (Turn ι)) : ∀ {m : Moment ι},
    (∀ i, m.result? i = none) → (∃ i, (m.after turns).result? i ≠ none) →
    ∃ before t rest, turns = before ++ t :: rest ∧ (∀ i, (m.after before).result? i = none) ∧
      (m.after (before ++ [t])).result? t.client ≠ none := by
  induction turns with
  | nil => exact fun hnone ⟨i, hi⟩ => absurd (hnone i) hi
  | cons t rest ih =>
    intro m hnone hsome
    by_cases hnow : (m.turn t).result? t.client = none
    · have hnone' : ∀ i, (m.turn t).result? i = none := by
        intro i
        by_cases hi : i = t.client
        · rw [hi, hnow]
        · unfold result?
          rw [m.turn_plans_of_ne hi]
          exact hnone i
      obtain ⟨before, t', rest', heq, hbefore, hfirst⟩ := ih hnone' hsome
      exact ⟨t :: before, t', rest', by rw [heq]; rfl, hbefore, hfirst⟩
    · exact ⟨[], t, rest, rfl, hnone, hnow⟩

/-! ## Two operations on one user -/

/-- A record that has been written back lies in the store, and only the operation's own fields are
new. -/
theorem took_writesBack {op : Operation} {s s' : MemoryStore} {now : Instant} {w : Write}
    {base u : User} (h : s.Took now w u s') (hw : op.WritesBack accounts base w) :
    s'.get? u.id = some u ∧ ∀ f ∉ op.owned, f.Same u base := by
  obtain ⟨v, rfl, hv⟩ := hw
  cases h with
  | replaced _ _ current hash found vacant name =>
    refine ⟨by simp, fun f hf => ?_⟩
    have hsame := hv.same hf
    cases f <;> exact hsame

/-- Who succeeds in the end was not done in the beginning. -/
theorem start_result?_eq_none {ops : ι → Operation} {s : MemoryStore} {turns : List (Turn ι)}
    {i : ι} {u : User} (h : ((start accounts ops s).after turns).result? i = some (.ok u)) :
    (start accounts ops s).result? i = none := by
  cases hr : (start accounts ops s).result? i with
  | none => rfl
  | some r =>
    have hplan := result?_eq_some_iff.mp hr
    have hend := (plans_after_of_done turns hplan).symm.trans (result?_eq_some_iff.mp h)
    cases hend
    exact absurd hplan (((ops i).goes accounts).ne_ok u)

/-- Whoever is done after a turn has the result then that he has in the end. -/
theorem result?_of_done {m : Moment ι} {before rest : List (Turn ι)} {t : Turn ι} {i : ι}
    {r : Except AccountError User} (hdone : (m.after (before ++ [t])).result? i ≠ none)
    (hend : (m.after (before ++ t :: rest)).result? i = some r) :
    (m.after (before ++ [t])).result? i = some r := by
  obtain ⟨r', hr'⟩ := Option.ne_none_iff_exists'.mp hdone
  have hkept := plans_after_of_done rest (result?_eq_some_iff.mp hr')
  rw [← after_append, List.append_assoc, List.singleton_append] at hkept
  rw [hr', ← hend]
  exact (result?_eq_some_iff.mpr hkept).symm

/-- After the first write its record lies in the store, and only the operation's own fields are new.
Any other operation on the user is bound to the record that it has looked up before the write, or
else to the one that it will find. -/
theorem after_first_write {ops : ι → Operation} {begun : ι → Prop} [DecidablePred begun]
    {m : Moment ι} (hw : m.store.WellKept)
    (hplans : ∀ i, if begun i
      then (m.plans i).OneWrite (ops i).sort ((ops i).Writes accounts m.store)
      else m.plans i = (ops i).plan accounts)
    {t : Turn ι} {u v : User} (hv : (m.turn t).plans t.client = .done (.ok v))
    (hu : u ∈ m.store.users) (hnames : (ops t.client).Names u) :
    (m.turn t).store.WellKept ∧ (m.turn t).store.get? v.id = some v ∧
      (∀ f ∉ (ops t.client).owned, f.Same v u) ∧
      ∀ i, i ≠ t.client → (ops i).Names (if begun i then u else v) →
        (ops i).BoundFor accounts (m.turn t).store
          ((ops i).WritesBack accounts (if begun i then u else v)) ((m.turn t).plans i) := by
  -- Who succeeds has written, and what is written goes back to the record that was looked up.
  have hbound := Operation.boundFor_of_names hw hu hnames (hplans t.client)
  obtain ⟨w, hback, htook⟩ : ∃ w, (ops t.client).WritesBack accounts u w ∧
      m.store.Took t.around.now w v (m.turn t).store := by
    rcases turn_boundFor hbound hw with ⟨-, hquiet⟩ | ⟨w, v', hback, hv', htook⟩
    · exact absurd hv (hquiet.ne_ok v)
    · obtain rfl : v' = v := by
        have heq := hv'.symm.trans hv
        cases heq
        rfl
      exact ⟨w, hback, htook⟩
  obtain ⟨hget, hsame⟩ := took_writesBack htook hback
  have hw' := htook.wellKept hw
  refine ⟨hw', hget, hsame, fun i hi hnames' => ?_⟩
  rw [m.turn_plans_of_ne hi]
  have h := hplans i
  by_cases hbegun : begun i
  · rw [if_pos hbegun] at h hnames' ⊢
    exact Or.inl (h.mono fun w hwrites => hwrites.of_names hw hu hnames')
  · rw [if_neg hbegun] at h hnames' ⊢
    have hmem := MemoryStore.mem_users_of_get? hget
    exact Or.inr ⟨h ▸ (ops i).goes accounts, fun w hwrites => hwrites.of_names hw' hmem hnames'⟩

/-- **What overlapping operations keep.** Two operations on one user that both succeed write one
after the other, however their questions are interleaved. In the end there is the record of the one
that writes later. It differs in that operation's own fields at most from the record that the
operation has looked up; and this is the one that was written first only if the lookup came after
that write. So any other field that was written first is still there exactly if the operations did
not overlap, or if the first one had not changed it. -/
theorem field_kept_iff {ops : Bool → Operation} {s : MemoryStore} (hw : s.WellKept)
    {turns : List (Turn Bool)} {record : Bool → User}
    (hok : ∀ i, ((start accounts ops s).after turns).result? i = some (.ok (record i))) :
    ∃ first before around rest, turns = before ++ ⟨first, around⟩ :: rest ∧
      (∀ i, ((start accounts ops s).after before).result? i = none) ∧
      ((start accounts ops s).after (before ++ [⟨first, around⟩])).result? first =
        some (.ok (record first)) ∧
      ∀ u ∈ s.users, (ops first).Names u →
        let begun := (!first) ∈ before.map Turn.client
        let base := if begun then u else record first
        (ops !first).Names base →
        ((start accounts ops s).after turns).store.get? (record !first).id =
            some (record !first) ∧
          (∀ f ∉ (ops first).owned, f.Same (record first) u) ∧
          (∀ f ∉ (ops !first).owned, f.Same (record !first) base) ∧
          ∀ f ∉ (ops !first).owned,
            (f.Same (record !first) (record first) ↔ ¬ begun ∨ f.Same u (record first)) := by
  obtain ⟨before, ⟨first, around⟩, rest, rfl, hbefore, hdone⟩ := exists_first_result turns
    (fun i => start_result?_eq_none (hok i)) ⟨true, by rw [hok]; simp⟩
  have hfirst := result?_of_done hdone (hok first)
  refine ⟨first, before, around, rest, rfl, hbefore, hfirst, ?_⟩
  intro u hu hnames begun base hnames'
  have hnobody : ∀ i v, ((start accounts ops s).after before).plans i ≠ .done (.ok v) := by
    intro i v hv
    have hnone := hbefore i
    rw [result?_eq_some_iff.mpr hv] at hnone
    cases hnone
  obtain ⟨hstore, hplans⟩ := after_of_no_success hw before hnobody
  have hend := result?_eq_some_iff.mp (hok !first)
  have hwrote := result?_eq_some_iff.mp hfirst
  rw [after_append] at hwrote hend ⊢
  generalize (start accounts ops s).after before = m at *
  subst hstore
  have hne : (!first) ≠ first := by simp
  obtain ⟨hw', -, hsame, hbound⟩ :=
    after_first_write (t := ⟨first, around⟩) hw hplans hwrote hu hnames
  -- The second operation goes on alone.
  have hothers : ∀ j, j ≠ (!first) → ∃ r, (m.turn ⟨first, around⟩).plans j = .done r := by
    intro j hj
    obtain rfl : j = first := by simpa using hj
    exact ⟨_, hwrote⟩
  have hnot : ∀ u, (m.turn ⟨first, around⟩).plans (!first) ≠ .done (.ok u) := by
    rw [m.turn_plans_of_ne hne]
    exact hnobody _
  obtain ⟨w, now, hback, htook⟩ :=
    took_of_alone rest hw' hothers (hbound _ hne hnames') hnot hend
  obtain ⟨hget, hsame'⟩ := took_writesBack htook hback
  refine ⟨hget, hsame, hsame', fun f hf => ?_⟩
  have hbase : f.Same (record !first) base := hsame' f hf
  by_cases hbegun : begun
  · simp only [base, if_pos hbegun] at hbase
    exact ⟨fun h => Or.inr (hbase.symm.trans h), fun h => hbase.trans (h.resolve_left (· hbegun))⟩
  · simp only [base, if_neg hbegun] at hbase
    exact ⟨fun _ => Or.inl hbegun, fun _ => hbase⟩

/-- A login looks a user up, then somebody makes him an admin with another password, or he logs out,
and then the login writes. Both operations succeed; in the end the old password and the old role are
back, and the logout is forgotten. -/
theorem overlapping_login_revives :
    let alice : User := { User.draft "alice" "$secret" .normal with id := ⟨1⟩ }
    let s : MemoryStore := ⟨[(⟨1⟩, alice)]⟩
    let now : Instant := ⟨10, 0, by decide⟩
    let ops (other : Operation) : Bool → Operation
      | true => .login "alice" "secret"
      | false => other
    let m (other : Operation) := (start ⟨.marking⟩ (ops other) s).after
      ([true, false, false, false, true, true].map (⟨·, now, fun _ => ⟨2⟩, [], 0⟩))
    let promoted : User := { alice with role := .admin, passwordHash := "$other", modified := now }
    let loggedOut : User := { alice with lastLogout := some now, modified := now }
    let loggedIn : User := { alice with lastLogin := some now, modified := now }
    ((m (.ensureAdmin "alice" "other")).result? false = some (.ok promoted) ∧
      (m (.ensureAdmin "alice" "other")).result? true = some (.ok loggedIn) ∧
      (m (.ensureAdmin "alice" "other")).store.get? ⟨1⟩ = some loggedIn ∧
      ∀ f ∈ (ops (.ensureAdmin "alice" "other") false).owned,
        f ∉ (ops (.ensureAdmin "alice" "other") true).owned ∧ ¬ f.Same loggedIn promoted) ∧
    (m (.logout ⟨1⟩)).result? false = some (.ok loggedOut) ∧
      (m (.logout ⟨1⟩)).result? true = some (.ok loggedIn) ∧
      (m (.logout ⟨1⟩)).store.get? ⟨1⟩ = some loggedIn ∧
      ∀ f ∈ (ops (.logout ⟨1⟩) false).owned,
        f ∉ (ops (.logout ⟨1⟩) true).owned ∧ ¬ f.Same loggedIn loggedOut := by
  decide +kernel

/-- A user logs in while his password is changed. Whichever of the two writes first, its field is
still there in the end exactly if the other one looked the user up after that write. -/
theorem field_kept_iff_for_login_and_password :
    let alice : User := { User.draft "alice" "$secret" .normal with id := ⟨1⟩ }
    let s : MemoryStore := ⟨[(⟨1⟩, alice)]⟩
    let now : Instant := ⟨10, 0, by decide⟩
    let accounts : Accounts := ⟨.marking⟩
    let ops : Bool → Operation
      | true => .login "alice" "secret"
      | false => .updatePassword "00000000-0000-0000-0000-000000000001" "other"
    let turns : List (Turn Bool) :=
      [true, false, false, false, true, true].map (⟨·, now, fun _ => ⟨2⟩, [], 0⟩)
    let record : Bool → User
      | true => { alice with lastLogin := some now, modified := now }
      | false => { alice with passwordHash := "$other", modified := now }
    s.WellKept ∧
    (∀ i, ((start accounts ops s).after turns).result? i = some (.ok (record i))) ∧
    ∃ first before around rest, turns = before ++ ⟨first, around⟩ :: rest ∧
      ((start accounts ops s).after turns).store.get? ⟨1⟩ = some (record !first) ∧
      ∀ f ∈ (ops first).owned, (f.Same (record !first) (record first) ↔
        (!first) ∉ before.map Turn.client) := by
  intro alice s now accounts ops turns record
  have hw : s.WellKept := by
    constructor <;> simp [s, alice, MemoryStore.users, User.draft]
  have hok : ∀ i, ((start accounts ops s).after turns).result? i = some (.ok (record i)) := by
    decide +kernel
  obtain ⟨first, before, around, rest, heq, -, -, hkept⟩ := field_kept_iff hw hok
  have hparse : Uuid.parse? "00000000-0000-0000-0000-000000000001" = some ⟨1⟩ := by
    decide +kernel
  have hnames : ∀ i, (ops i).Names alice ∧ ∀ j, (ops i).Names (record j) := by
    rintro (_ | _)
    · have hl := congrArg (Option.map Lookup.byId) hparse
      exact ⟨⟨.byId ⟨1⟩, hl, rfl⟩, fun j => ⟨.byId ⟨1⟩, hl, by cases j <;> rfl⟩⟩
    · exact ⟨⟨.byName "alice", rfl, rfl⟩, fun j => ⟨.byName "alice", rfl, by cases j <;> rfl⟩⟩
  obtain ⟨hget, -, -, hiff⟩ := hkept alice List.mem_cons_self (hnames first).1 (by
    split
    · exact (hnames _).1
    · exact (hnames _).2 _)
  have hid : (record !first).id = ⟨1⟩ := by cases first <;> rfl
  refine ⟨hw, hok, first, before, around, rest, heq, hid ▸ hget, fun f hf => ?_⟩
  have howned : f ∉ (ops !first).owned ∧ ¬ f.Same alice (record first) := by
    cases first <;> simp [ops, Operation.owned] at hf ⊢ <;> subst hf <;>
      simp [Field.Same, record, alice, User.draft]
  rw [hiff f howned.1]
  exact or_iff_left howned.2

end Moment

end AccountServer
