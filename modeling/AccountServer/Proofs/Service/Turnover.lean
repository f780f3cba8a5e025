import AccountServer.Proofs.Service.History
import AccountServer.Token.Codec

/-!
# What keys are made of, over time

The key of a user depends on the password hash and the time of the last logout. `Turnover` says of
each success which of the two it has renewed, and whose account it was about. So if the outcomes of
a history bring in no hash that has been seen before, and every logout is later than those before,
then what is still to come stays as new along the way (`renews_after`).
-/

namespace AccountServer

open Token

/-! ## What an outcome renews -/

namespace Outcome

/-- The hash that an operation has put into a record. -/
def newHash? (o : Outcome) : Option String :=
  match o.op, o.answer? with
  | .createUser .., some u | .updatePassword .., some u | .ensureAdmin .., some u =>
    some u.passwordHash
  | _, _ => none

/-- The time of a logout. -/
def newLogout? (o : Outcome) : Option Instant :=
  match o.op, o.answer? with
  | .logout _, some u => u.lastLogout
  | _, _ => none

@[simp] theorem newHash?_none (op : Operation) : newHash? ⟨op, none⟩ = none := by
  cases op <;> rfl

@[simp] theorem newLogout?_none (op : Operation) : newLogout? ⟨op, none⟩ = none := by
  cases op <;> rfl

end Outcome

namespace Operation

/-- Whether a success makes the tokens of the account void. -/
def endsTokens : Operation → Bool
  | .logout _ | .updatePassword .. | .ensureAdmin .. | .deleteUser _ => true
  | .login .. | .createUser .. | .updateUser .. => false

/-- The identifier that the account had before a success with the answer `u`. -/
def account? (op : Operation) (u : User) : Option Uuid :=
  match op with
  | .updateUser currentId .. => Uuid.parse? currentId
  | _ => some u.id

end Operation

/-- A success with the answer `u`: the account that it was about, whether it made the tokens of the
account void, the hash and the logout that it brought in, and the store afterwards. -/
inductive Turnover (s : MemoryStore) (u : User) :
    Option Uuid → Bool → Option String → Option Instant → MemoryStore → Prop where
  | kept (old : User) (found : s.get? old.id = some old)
      (vacant : u.id ≠ old.id → s.get? u.id = none)
      (hash : u.passwordHash = old.passwordHash) (logout : u.lastLogout = old.lastLogout) :
      Turnover s u (some old.id) false none none ((s.erase old.id).insert u)
  | loggedOut (old : User) (now : Instant) (found : s.get? u.id = some old)
      (hash : u.passwordHash = old.passwordHash) (logout : u.lastLogout = some now) :
      Turnover s u (some u.id) true none (some now) ((s.erase u.id).insert u)
  | rehashed (old : User) (found : s.get? u.id = some old)
      (logout : u.lastLogout = old.lastLogout) :
      Turnover s u (some u.id) true (some u.passwordHash) none ((s.erase u.id).insert u)
  | registered (ends : Bool) (free : s.get? u.id = none) (logout : u.lastLogout = none) :
      Turnover s u (some u.id) ends (some u.passwordHash) none (s.insert u)
  | removed (found : s.get? u.id = some u) :
      Turnover s u (some u.id) true none none (s.erase u.id)

theorem Operation.Effect.turnover {accounts : Accounts} {op : Operation} {s s' : MemoryStore}
    {u : User} (he : op.Effect accounts s u s') :
    Turnover s u (op.account? u) op.endsTokens (Outcome.newHash? ⟨op, some u⟩)
      (Outcome.newLogout? ⟨op, some u⟩) s' := by
  cases he with
  -- Which tokens end is settled by what is rewritten: the hash, the time of the logout, or neither.
  | rewrote l old v now hl finds found rewrites vacant stored =>
    subst stored
    cases op with
    | login username password =>
      obtain ⟨-, now', rfl⟩ := rewrites
      exact .kept old found vacant rfl rfl
    | logout id =>
      obtain ⟨now', rfl⟩ := rewrites
      exact .loggedOut old now' found rfl rfl
    | updateUser currentId newId username email role =>
      obtain ⟨id, email', -, -, -, rfl⟩ := rewrites
      obtain ⟨current, hparse, rfl⟩ := Option.map_eq_some_iff.mp hl
      obtain rfl : old.id = current := finds
      simp only [account?, hparse]
      exact .kept old found vacant rfl rfl
    | updatePassword id password =>
      obtain ⟨-, salt, hash, -, rfl⟩ := rewrites
      exact .rehashed old found rfl
    | ensureAdmin username password =>
      obtain ⟨-, salt, hash, -, rfl⟩ := rewrites
      exact .rehashed old found rfl
    | createUser _ _ _ _ | deleteUser _ => exact rewrites.elim
  | registered v id now registers name free stored =>
    subst stored
    cases op with
    | createUser username password email role =>
      obtain ⟨email', salt, hash, -, -, -, -, rfl⟩ := registers
      exact .registered _ free rfl
    | ensureAdmin username password =>
      obtain ⟨email', salt, hash, -, -, -, -, rfl⟩ := registers
      exact .registered _ free rfl
    | login _ _ | logout _ | updateUser _ _ _ _ _ | updatePassword _ _ | deleteUser _ =>
      exact registers.elim
  | removed text hop hid found =>
    subst hop
    exact .removed found

namespace Turnover

variable {s s' : MemoryStore} {u a : User} {account : Option Uuid} {ends : Bool}
  {newHash : Option String} {newLogout : Option Instant} {id : Uuid}

/-- A record after a success is the answer, or it is that of another account. -/
theorem get?_cases (ht : Turnover s u account ends newHash newLogout s')
    (ha : s'.get? id = some a) :
    (id = u.id ∧ a = u) ∨ (id ≠ u.id ∧ account ≠ some id ∧ s.get? id = some a) := by
  have hput {base : MemoryStore} (h : (base.insert u).get? id = some a) :
      (id = u.id ∧ a = u) ∨ (id ≠ u.id ∧ base.get? id = some a) := by
    rw [MemoryStore.get?_insert] at h
    split at h
    · next heq => exact Or.inl ⟨heq, (Option.some.inj h).symm⟩
    · next hne => exact Or.inr ⟨hne, h⟩
  have hout {k : Uuid} (h : (s.erase k).get? id = some a) :
      some k ≠ some id ∧ s.get? id = some a := by
    rw [MemoryStore.get?_erase] at h
    split at h
    · cases h
    · next hne => exact ⟨fun heq => hne (Option.some.inj heq).symm, h⟩
  cases ht with
  | kept | loggedOut | rehashed =>
    rcases hput ha with h | ⟨hne, h⟩
    · exact Or.inl h
    · exact Or.inr ⟨hne, hout h⟩
  | registered =>
    rcases hput ha with h | ⟨hne, h⟩
    · exact Or.inl h
    · exact Or.inr ⟨hne, fun heq => hne (Option.some.inj heq).symm, h⟩
  | removed =>
    obtain ⟨hne, h⟩ := hout ha
    exact Or.inr ⟨fun heq => hne (congrArg some heq.symm), hne, h⟩

/-- Other accounts stay where they are. -/
theorem get?_of_other (ht : Turnover s u account ends newHash newLogout s')
    (found : s.get? id = some a) (hid : account ≠ some id) : s'.get? id = some a := by
  have hne : id ≠ u.id := by
    rintro rfl
    cases ht with
    | kept old _ vacant =>
      have hmoves : u.id ≠ old.id := fun heq => hid (congrArg some heq.symm)
      rw [vacant hmoves] at found
      cases found
    | loggedOut | rehashed | registered | removed => exact hid rfl
  have hkey {k : Uuid} (h : some k ≠ some id) : id ≠ k := fun heq => h (congrArg some heq.symm)
  cases ht with
  | kept | loggedOut | rehashed =>
    rw [MemoryStore.get?_insert, if_neg hne, MemoryStore.get?_erase, if_neg (hkey hid), found]
  | registered => rw [MemoryStore.get?_insert, if_neg hne, found]
  | removed => rw [MemoryStore.get?_erase, if_neg hne, found]

/-- The hash of an answer is new, or the account had it before. Then so it had the logout, unless
this one is new. -/
theorem hash_cases (ht : Turnover s u account ends newHash newLogout s')
    (hu : s'.get? u.id = some a) :
    newHash = some u.passwordHash ∨ ∃ k old, account = some k ∧ s.get? k = some old ∧
      u.passwordHash = old.passwordHash ∧
      ((ends = false ∧ u.lastLogout = old.lastLogout) ∨
        ∃ t, newLogout = some t ∧ u.lastLogout = some t) := by
  cases ht with
  | kept old found _ hash logout =>
    exact Or.inr ⟨old.id, old, rfl, found, hash, Or.inl ⟨rfl, logout⟩⟩
  | loggedOut old now found hash logout =>
    exact Or.inr ⟨u.id, old, rfl, found, hash, Or.inr ⟨now, rfl, logout⟩⟩
  | rehashed | registered => exact Or.inl rfl
  | removed => simp at hu

/-- An account whose tokens stay good keeps hash and logout wherever it goes. -/
theorem kept_of_found (ht : Turnover s u (some id) false newHash newLogout s')
    (found : s.get? id = some a) : s'.get? u.id = some u ∧ u.passwordHash = a.passwordHash ∧
      u.lastLogout = a.lastLogout := by
  cases ht with
  | kept old hold _ hash logout =>
    obtain rfl : old = a := Option.some.inj (hold.symm.trans found)
    exact ⟨by simp, hash, logout⟩
  | registered _ free =>
    rw [free] at found
    cases found

end Turnover

/-! ## What is new stays new -/

/-- The record has a hash of so many bytes, its hash is none of those to come, and its last logout
is earlier than those to come. -/
structure User.Precedes (n : Nat) (hashes : List String) (logouts : List Instant) (a : User) :
    Prop where
  length : (Crypto.utf8 a.passwordHash).length = n
  unseen : a.passwordHash ∉ hashes
  earlier : ∀ t ∈ logouts, logoutMicros a < t.micros

/-- The hashes that are to come have so many bytes and have never been seen before, and the logouts
are later and later. -/
structure MemoryStore.Renews (s : MemoryStore) (n : Nat) (hashes : List String)
    (logouts : List Instant) : Prop where
  precedes : ∀ id a, s.get? id = some a → a.Precedes n hashes logouts
  distinct : ∀ id a id' a', s.get? id = some a → s.get? id' = some a' →
    a.passwordHash = a'.passwordHash → id = id'
  lengths : ∀ hash ∈ hashes, (Crypto.utf8 hash).length = n
  nodup : hashes.Nodup
  afterEpoch : ∀ t ∈ logouts, 0 < t.micros
  increasing : logouts.Pairwise fun t t' => t.micros < t'.micros

theorem MemoryStore.Renews.empty {n : Nat} {hashes : List String} {logouts : List Instant}
    (lengths : ∀ hash ∈ hashes, (Crypto.utf8 hash).length = n) (nodup : hashes.Nodup)
    (afterEpoch : ∀ t ∈ logouts, 0 < t.micros)
    (increasing : logouts.Pairwise fun t t' => t.micros < t'.micros) :
    MemoryStore.empty.Renews n hashes logouts where
  precedes _ _ h := by cases h
  distinct _ _ _ _ h := by cases h
  lengths := lengths
  nodup := nodup
  afterEpoch := afterEpoch
  increasing := increasing

namespace MemoryStore.Renews

variable {s s' : MemoryStore} {n : Nat} {hashes : List String} {logouts : List Instant} {u : User}
  {account : Option Uuid} {ends : Bool} {newHash : Option String} {newLogout : Option Instant}

/-- The answer of a success comes before all that is still to come. -/
theorem precedes_answer (h : s.Renews n (newHash.toList ++ hashes) (newLogout.toList ++ logouts))
    (ht : Turnover s u account ends newHash newLogout s') : u.Precedes n hashes logouts := by
  cases ht with
  | kept old found _ hash logout =>
    obtain ⟨hlength, hunseen, hearlier⟩ := h.precedes _ _ found
    exact ⟨hash ▸ hlength, hash ▸ hunseen, by rwa [logoutMicros, logout]⟩
  | loggedOut old now found hash logout =>
    obtain ⟨hlength, hunseen, -⟩ := h.precedes _ _ found
    refine ⟨hash ▸ hlength, hash ▸ hunseen, ?_⟩
    rw [logoutMicros, logout]
    exact (List.pairwise_cons.mp h.increasing).1
  | rehashed old found logout =>
    refine ⟨h.lengths _ List.mem_cons_self, (List.nodup_cons.mp h.nodup).1, ?_⟩
    rw [logoutMicros, logout]
    exact (h.precedes _ _ found).earlier
  | registered _ free logout =>
    refine ⟨h.lengths _ List.mem_cons_self, (List.nodup_cons.mp h.nodup).1, ?_⟩
    rw [logoutMicros, logout]
    exact h.afterEpoch
  | removed found =>
    exact h.precedes _ _ found

/-- No other account has the hash of the answer. -/
theorem distinct_answer (h : s.Renews n (newHash.toList ++ hashes) (newLogout.toList ++ logouts))
    (ht : Turnover s u account ends newHash newLogout s') {id : Uuid} {a : User}
    (ha : s.get? id = some a) (hid : account ≠ some id) (hu : s'.get? u.id = some u) :
    a.passwordHash ≠ u.passwordHash := by
  intro heq
  rcases ht.hash_cases hu with hnew | ⟨k, old, rfl, found, hash, -⟩
  · refine (h.precedes _ _ ha).unseen (List.mem_append_left _ ?_)
    rw [hnew, heq]
    exact List.mem_cons_self
  · exact hid (congrArg some (h.distinct _ _ _ _ found ha (hash.symm.trans heq.symm)))

/-- One success on, what is still to come is as new as it was. -/
theorem step (h : s.Renews n (newHash.toList ++ hashes) (newLogout.toList ++ logouts))
    (ht : Turnover s u account ends newHash newLogout s') : s'.Renews n hashes logouts where
  precedes id a ha := by
    rcases ht.get?_cases ha with ⟨-, rfl⟩ | ⟨-, -, hold⟩
    · exact h.precedes_answer ht
    · obtain ⟨hlength, hunseen, hearlier⟩ := h.precedes _ _ hold
      exact ⟨hlength, fun hmem => hunseen (List.mem_append_right _ hmem),
        fun t hmem => hearlier t (List.mem_append_right _ hmem)⟩
  distinct id a id' a' ha ha' heq := by
    rcases ht.get?_cases ha with ⟨rfl, rfl⟩ | ⟨-, hid, hold⟩ <;>
      rcases ht.get?_cases ha' with ⟨rfl, rfl⟩ | ⟨-, hid', hold'⟩
    · rfl
    · exact absurd heq.symm (h.distinct_answer ht hold' hid' ha)
    · exact absurd heq (h.distinct_answer ht hold hid ha')
    · exact h.distinct _ _ _ _ hold hold' heq
  lengths hash hmem := h.lengths hash (List.mem_append_right _ hmem)
  nodup := (List.nodup_append.mp h.nodup).2.1
  afterEpoch t hmem := h.afterEpoch t (List.mem_append_right _ hmem)
  increasing := (List.pairwise_append.mp h.increasing).2.1

end MemoryStore.Renews

namespace Outcome

/-- The hashes that the outcomes have put into records. -/
def newHashes (outcomes : List Outcome) : List String := outcomes.filterMap newHash?

/-- The times of the logouts among the outcomes. -/
def newLogouts (outcomes : List Outcome) : List Instant := outcomes.filterMap newLogout?

theorem newHashes_cons (o : Outcome) (rest : List Outcome) :
    newHashes (o :: rest) = o.newHash?.toList ++ newHashes rest := by
  unfold newHashes
  rw [List.filterMap_cons]
  cases o.newHash? <;> rfl

theorem newLogouts_cons (o : Outcome) (rest : List Outcome) :
    newLogouts (o :: rest) = o.newLogout?.toList ++ newLogouts rest := by
  unfold newLogouts
  rw [List.filterMap_cons]
  cases o.newLogout? <;> rfl

end Outcome

/-- Some errands on, what is still to come is as new as it was. -/
theorem Accounts.renews_after (accounts : Accounts) {n : Nat} (errands rest : List Errand) :
    ∀ {s : MemoryStore}, s.WellKept →
      s.Renews n (Outcome.newHashes (accounts.outcomes s (errands ++ rest)))
        (Outcome.newLogouts (accounts.outcomes s (errands ++ rest))) →
      (accounts.after s errands).Renews n
        (Outcome.newHashes (accounts.outcomes (accounts.after s errands) rest))
        (Outcome.newLogouts (accounts.outcomes (accounts.after s errands) rest)) := by
  induction errands with
  | nil => exact fun _ h => h
  | cons errand errands ih =>
    intro s hw h
    rw [List.cons_append, outcomes, Outcome.newHashes_cons, Outcome.newLogouts_cons] at h
    rw [after_cons]
    rcases accounts.perform_cases errand hw with ⟨e, heq⟩ | ⟨u, s', heq, hw', heffect⟩
    · rw [heq] at h ⊢
      exact ih hw (by simpa [Except.toOption] using h)
    · rw [heq] at h ⊢
      exact ih hw' (h.step heffect.turnover)

end AccountServer
