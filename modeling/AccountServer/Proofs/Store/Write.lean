import Mathlib.Data.List.Perm.Subperm
import AccountServer.Store.Memory

/-!
# Writes to the store in memory

A `Write` is a call that changes a store. `perform_cases` says once what it comes to: it takes
effect as `Took` says, with all that was checked before, or it is refused for one of the reasons of
`Refuses` and changes nothing.
-/

namespace AccountServer

/-! ## Looking up -/

theorem mem_of_lookup {κ ι : Type} [BEq κ] [LawfulBEq κ] {l : List (κ × ι)} {k : κ} {a : ι}
    (h : l.lookup k = some a) : (k, a) ∈ l := by
  obtain ⟨before, after, heq, -⟩ := List.lookup_eq_some_iff.mp h
  rw [heq]
  simp

namespace MemoryStore

theorem lookup_filter_ne (k id : Uuid) : ∀ l : List (Uuid × User),
    (l.filter fun p => p.1 ≠ k).lookup id = if id = k then none else l.lookup id
  | [] => by simp
  | (key, u) :: rest => by
    have ih := lookup_filter_ne k id rest
    by_cases hk : key = k
    · rw [List.filter_cons_of_neg (by simpa using hk), ih, hk]
      by_cases hid : id = k
      · rw [if_pos hid, if_pos hid]
      · have hne : (id == k) = false := by simpa using hid
        rw [if_neg hid, if_neg hid, List.lookup_cons, hne]
    · rw [List.filter_cons_of_pos (by simpa using hk), List.lookup_cons, List.lookup_cons, ih]
      by_cases hid : id = k
      · have hne : (id == key) = false := by simpa [hid] using Ne.symm hk
        simp only [hne, if_pos hid]
      · simp only [if_neg hid]

/-- Erasing takes away this one record. -/
@[simp] theorem get?_erase (s : MemoryStore) (k id : Uuid) :
    (s.erase k).get? id = if id = k then none else s.get? id := lookup_filter_ne k id s.records

/-- Inserting sets this one record. -/
@[simp] theorem get?_insert (s : MemoryStore) (u : User) (id : Uuid) :
    (s.insert u).get? id = if id = u.id then some u else s.get? id := by
  by_cases h : id = u.id
  · subst h
    simp [get?, insert]
  · have hne : (id == u.id) = false := by simpa using h
    rw [if_neg h]
    show ((u.id, u) :: (s.erase u.id).records).lookup id = s.get? id
    rw [List.lookup_cons, hne]
    exact (get?_erase s u.id id).trans (if_neg h)

theorem get_eq_ok_iff {s : MemoryStore} {id : Uuid} {u : User} :
    s.get id = .ok u ↔ s.get? id = some u := by
  unfold get
  cases s.get? id <;> simp

theorem mem_of_get? {s : MemoryStore} {id : Uuid} {u : User} (h : s.get? id = some u) :
    (id, u) ∈ s.records := mem_of_lookup h

/-! ## The operations, check by check -/

/-- The checks of a creation in their order: the hash, the name, and then a draw that is free. -/
theorem create_eq (s : MemoryStore) (around : Surroundings) (u : User) :
    s.create around u =
      if u.passwordHash.isEmpty then .error (.invalid .noHash)
      else if s.usernameTaken u.username none then
        .error (.constraint (.usernameTaken u.username))
      else match s.freeDraw? around.draws with
        | none => .error (.constraint (.idInUse (around.draws s.records.length)))
        | some id =>
          let stored := { u with id := id, created := around.now, modified := around.now }
          .ok (stored, s.insert stored) := by
  unfold create User.checkHash
  cases u.passwordHash.isEmpty with
  | true => rfl
  | false =>
    cases s.usernameTaken u.username none with
    | true => rfl
    | false => cases s.freeDraw? around.draws <;> rfl

/-- The checks of an update in their order: the hash, whether the record is there, the new
identifier and the new name. -/
theorem update_eq (s : MemoryStore) (around : Surroundings) (id : Uuid) (u : User) :
    s.update around id u =
      if u.passwordHash.isEmpty then .error (.invalid .noHash)
      else match s.get? id with
        | none => .error .notFound
        | some current =>
          if u.id ≠ id && s.contains u.id then .error (.constraint (.idInUse u.id))
          else if s.usernameTaken u.username (some id) then
            .error (.constraint (.usernameTaken u.username))
          else
            let stored := { u with created := current.created, modified := around.now }
            .ok (stored, (s.erase id).insert stored) := by
  unfold update User.checkHash
  cases u.passwordHash.isEmpty with
  | true => rfl
  | false =>
    cases s.get? id with
    | none => rfl
    | some current =>
      cases (decide (u.id ≠ id) && s.contains u.id) with
      | true => rfl
      | false => cases s.usernameTaken u.username (some id) <;> rfl

theorem delete_eq (s : MemoryStore) (id : Uuid) :
    s.delete id = match s.get? id with
      | some u => .ok (u, s.erase id)
      | none => .error .notFound := rfl

/-- A name is free for an account if nobody else has it. -/
theorem usernameTaken_eq_false {s : MemoryStore} {username : String} {except : Option Uuid} :
    s.usernameTaken username except = false ↔
      ∀ v ∈ s.users, v.username = username → some v.id = except := by
  simp [usernameTaken]

theorem not_contains_of_freeDraw? {s : MemoryStore} {draws : Nat → Uuid} {id : Uuid}
    (h : s.freeDraw? draws = some id) : s.get? id = none := by
  have hfree := List.find?_some h
  simpa [contains] using hfree

/-- If the first draw is free it is taken, whatever comes behind it. -/
theorem freeDraw?_of_free {s : MemoryStore} {draws : Nat → Uuid} (h : s.get? (draws 0) = none) :
    s.freeDraw? draws = some (draws 0) := by
  rw [freeDraw?, List.range_succ_eq_map, List.map_cons, List.find?_cons_of_pos]
  simp [contains, h]

/-- One of so many different draws is free. -/
theorem freeDraw?_ne_none {s : MemoryStore} {draws : Nat → Uuid}
    (h : ((List.range (s.records.length + 1)).map draws).Nodup) : s.freeDraw? draws ≠ none := by
  intro hnone
  -- Otherwise there would be more draws than records that they are taken by.
  have htaken : (List.range (s.records.length + 1)).map draws ⊆ s.records.map Prod.fst := by
    intro id hid
    have hcontains := List.find?_eq_none.mp hnone id hid
    have hfound : (s.records.lookup id).isSome = true := by simpa [contains, get?] using hcontains
    obtain ⟨p, hp, heq⟩ := List.lookup_isSome_iff.mp hfound
    exact List.mem_map.mpr ⟨p, hp, (beq_iff_eq.mp heq).symm⟩
  have hle : s.records.length + 1 ≤ s.records.length := by
    simpa using (List.Nodup.subperm h htaken).length_le
  omega

end MemoryStore

/-! ## Writes -/

/-- A call that changes a store. -/
inductive Write where
  | create (user : User)
  | update (id : Uuid) (user : User)
  | delete (id : Uuid)

namespace Write

/-- The call. -/
def call : Write → StoreCall
  | .create u => .create u
  | .update id u => .update id u
  | .delete id => .delete id

/-- Performs the call. -/
def perform {σ : Type} [AccountStore σ] (w : Write) (around : Surroundings) (s : σ) :
    Except StoreError User × σ :=
  match w with
  | .create u => AccountStore.perform (.create u) around s
  | .update id u => AccountStore.perform (.update id u) around s
  | .delete id => AccountStore.perform (.delete id) around s

/-- The record that the call hands to the store has a password hash. -/
def Hashed : Write → Prop
  | .create u | .update _ u => u.passwordHash ≠ ""
  | .delete _ => True

/-- The record that is to change is not there. -/
def Vanished (s : MemoryStore) : Write → Prop
  | .create _ => False
  | .update id _ | .delete id => s.get? id = none

/-- Another record has the name or the identifier that the call wants, or all the identifiers that
were drawn for a new record are taken. -/
def Taken (s : MemoryStore) (around : Surroundings) : Write → Prop
  | .create u => (∃ v ∈ s.users, v.username = u.username) ∨ s.freeDraw? around.draws = none
  | .update id u =>
    (u.id ≠ id ∧ (s.get? u.id).isSome) ∨ ∃ v ∈ s.users, v.username = u.username ∧ v.id ≠ id
  | .delete _ => False

end Write

namespace MemoryStore

/-- A write that succeeds: the record that is answered, the table afterwards, and what had been
checked before. -/
inductive Took (s : MemoryStore) (now : Instant) : Write → User → MemoryStore → Prop where
  | added (u : User) (id : Uuid) (hash : u.passwordHash ≠ "")
      (name : ∀ v ∈ s.users, v.username ≠ u.username) (free : s.get? id = none) :
      Took s now (.create u) { u with id := id, created := now, modified := now }
        (s.insert { u with id := id, created := now, modified := now })
  | replaced (id : Uuid) (u current : User) (hash : u.passwordHash ≠ "")
      (found : s.get? id = some current) (vacant : u.id ≠ id → s.get? u.id = none)
      (name : ∀ v ∈ s.users, v.username = u.username → v.id = id) :
      Took s now (.update id u) { u with created := current.created, modified := now }
        ((s.erase id).insert { u with created := current.created, modified := now })
  | removed (id : Uuid) (u : User) (found : s.get? id = some u) :
      Took s now (.delete id) u (s.erase id)

/-- A write that is refused, and why. -/
inductive Refuses (s : MemoryStore) (around : Surroundings) : Write → StoreError → Prop where
  | noHash (w : Write) (h : ¬ w.Hashed) : Refuses s around w (.invalid .noHash)
  | vanished (w : Write) (h : w.Vanished s) : Refuses s around w .notFound
  | taken (w : Write) (clash : Clash) (present : ¬ w.Vanished s) (h : w.Taken s around) :
      Refuses s around w (.constraint clash)

theorem create_cases (s : MemoryStore) (around : Surroundings) (u : User) :
    (∃ v s', s.create around u = .ok (v, s') ∧ s.Took around.now (.create u) v s') ∨
      ∃ e, s.create around u = .error e ∧ s.Refuses around (.create u) e := by
  rw [create_eq]
  split
  · next hash => exact Or.inr ⟨_, rfl, .noHash _ (by simpa [Write.Hashed] using hash)⟩
  · next hash =>
    split
    · next hname =>
      obtain ⟨v, hv, heq⟩ := List.any_eq_true.mp hname
      exact Or.inr ⟨_, rfl, .taken _ _ id (Or.inl ⟨v, hv, by simpa using heq⟩)⟩
    · next hname =>
      rw [Bool.not_eq_true, usernameTaken_eq_false] at hname
      split
      · next hdraw => exact Or.inr ⟨_, rfl, .taken _ _ id (Or.inr hdraw)⟩
      · next id hdraw =>
        refine Or.inl ⟨_, _, rfl, .added u id (by simpa using hash) (fun v hv heq => ?_)
          (not_contains_of_freeDraw? hdraw)⟩
        exact absurd (hname v hv heq) (by simp)

theorem update_cases (s : MemoryStore) (around : Surroundings) (id : Uuid) (u : User) :
    (∃ v s', s.update around id u = .ok (v, s') ∧ s.Took around.now (.update id u) v s') ∨
      ∃ e, s.update around id u = .error e ∧ s.Refuses around (.update id u) e := by
  rw [update_eq]
  split
  · next hash => exact Or.inr ⟨_, rfl, .noHash _ (by simpa [Write.Hashed] using hash)⟩
  · next hash =>
    split
    · next hnone => exact Or.inr ⟨_, rfl, .vanished _ hnone⟩
    · next current hcurrent =>
      have hpresent : ¬ (Write.update id u).Vanished s := by simp [Write.Vanished, hcurrent]
      split
      · next hid =>
        rw [Bool.and_eq_true, decide_eq_true_eq] at hid
        exact Or.inr ⟨_, rfl, .taken _ _ hpresent (Or.inl hid)⟩
      · next hid =>
        split
        · next hname =>
          obtain ⟨v, hv, heq⟩ := List.any_eq_true.mp hname
          exact Or.inr ⟨_, rfl, .taken _ _ hpresent (Or.inr ⟨v, hv, by simpa using heq⟩)⟩
        · next hname =>
          rw [Bool.not_eq_true, usernameTaken_eq_false] at hname
          refine Or.inl ⟨_, _, rfl, .replaced id u current (by simpa using hash) hcurrent
            (fun hne => ?_) fun v hv heq => Option.some.inj (hname v hv heq)⟩
          simpa [hne, contains] using hid

end MemoryStore

/-- A write takes effect, or it is refused and changes nothing. -/
theorem Write.perform_cases (w : Write) (around : Surroundings) (s : MemoryStore) :
    (∃ u s', w.perform around s = (.ok u, s') ∧ s.Took around.now w u s') ∨
      ∃ e, w.perform around s = (.error e, s) ∧ s.Refuses around w e := by
  cases w with
  | create u =>
    show (∃ v s', s.changed (s.create around u) = (.ok v, s') ∧ _) ∨
      ∃ e, s.changed (s.create around u) = (.error e, s) ∧ _
    rcases s.create_cases around u with ⟨v, s', heq, h⟩ | ⟨e, heq, h⟩
    · exact Or.inl ⟨v, s', by rw [heq]; rfl, h⟩
    · exact Or.inr ⟨e, by rw [heq]; rfl, h⟩
  | update id u =>
    show (∃ v s', s.changed (s.update around id u) = (.ok v, s') ∧ _) ∨
      ∃ e, s.changed (s.update around id u) = (.error e, s) ∧ _
    rcases s.update_cases around id u with ⟨v, s', heq, h⟩ | ⟨e, heq, h⟩
    · exact Or.inl ⟨v, s', by rw [heq]; rfl, h⟩
    · exact Or.inr ⟨e, by rw [heq]; rfl, h⟩
  | delete id =>
    show (∃ v s', s.changed (s.delete id) = (.ok v, s') ∧ _) ∨
      ∃ e, s.changed (s.delete id) = (.error e, s) ∧ _
    rw [MemoryStore.delete_eq]
    cases h : s.get? id with
    | none => exact Or.inr ⟨.notFound, rfl, .vanished _ h⟩
    | some u => exact Or.inl ⟨u, s.erase id, rfl, .removed id u h⟩

end AccountServer
