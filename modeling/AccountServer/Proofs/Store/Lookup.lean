import Mathlib.Data.List.Nodup
import AccountServer.Proofs.Store.Memory

/-!
# Lookups in a well-kept store

Callers of a store look for one record by its identifier or its username (`Lookup`). A well-kept
store answers the one record that there is, or that there is none (`answer_eq`). So nothing speaks
against writing a record back that has been looked up (`perform_update_of_same`), nor against giving
it another identifier or username that is free (`perform_update_of_free`).
-/

namespace AccountServer

/-! ## Lookups -/

/-- A question for one record. -/
inductive Lookup where
  | byId (id : Uuid)
  | byName (username : String)

namespace Lookup

/-- Whether the record is the one that is looked for. -/
def Finds : Lookup → User → Prop
  | .byId id, u => u.id = id
  | .byName username, u => u.username = username

/-- What the store answers. -/
def answer : Lookup → MemoryStore → Except StoreError User
  | .byId id, s => s.get id
  | .byName username, s => s.byUsername username

theorem answer_eq {s : MemoryStore} (hw : s.WellKept) (l : Lookup) :
    (∃ u ∈ s.users, l.Finds u ∧ l.answer s = .ok u) ∨
      (∀ u ∈ s.users, ¬ l.Finds u) ∧ l.answer s = .error .notFound := by
  cases l with
  | byId id =>
    simp only [answer, MemoryStore.get]
    cases h : s.get? id with
    | none => exact Or.inr ⟨hw.get?_eq_none_iff.mp h, rfl⟩
    | some u =>
      have hkey : id = u.id := hw.keyed (id, u) (MemoryStore.mem_of_get? h)
      exact Or.inl ⟨u, MemoryStore.mem_users_of_get? h, hkey.symm, rfl⟩
  | byName username =>
    simp only [answer, MemoryStore.byUsername]
    cases h : s.users.find? fun u => u.username = username with
    | none => exact Or.inr ⟨by simpa [Finds] using h, rfl⟩
    | some u =>
      have hname : u.username = username := by simpa using List.find?_some h
      exact Or.inl ⟨u, List.mem_of_find?_eq_some h, hname, rfl⟩

/-- No two records are found by one lookup. -/
theorem Finds.unique {s : MemoryStore} (hw : s.WellKept) {l : Lookup} {u v : User}
    (hu : u ∈ s.users) (hv : v ∈ s.users) (hlu : l.Finds u) (hlv : l.Finds v) : u = v := by
  cases l with
  | byId id => exact List.inj_on_of_nodup_map hw.ids hu hv (hlu.trans hlv.symm)
  | byName username => exact List.inj_on_of_nodup_map hw.usernames hu hv (hlu.trans hlv.symm)

theorem answer_of_finds {s : MemoryStore} (hw : s.WellKept) {l : Lookup} {u : User}
    (hu : u ∈ s.users) (hl : l.Finds u) : l.answer s = .ok u := by
  rcases answer_eq hw l with ⟨v, hv, hlv, heq⟩ | ⟨hnone, -⟩
  · rw [heq, hl.unique hw hu hv hlv]
  · exact absurd hl (hnone u hu)

end Lookup

/-! ## Writes -/

theorem MemoryStore.Took.wellKept {s s' : MemoryStore} {now : Instant} {w : Write} {u : User}
    (h : s.Took now w u s') (hw : s.WellKept) : s'.WellKept :=
  hw.change h.change

theorem MemoryStore.get?_of_mem {s : MemoryStore} (hw : s.WellKept) {u : User}
    (hu : u ∈ s.users) : s.get? u.id = some u :=
  get_eq_ok_iff.mp (Lookup.answer_of_finds (l := .byId u.id) hw hu rfl)

/-- Nothing speaks against a new state of a record if a new identifier and a new username are
free. -/
theorem Write.perform_update_of_free {s : MemoryStore} (hw : s.WellKept) {u v : User}
    (found : s.get? u.id = some u) (vacant : v.id ≠ u.id → s.get? v.id = none)
    (free : v.username ≠ u.username → ∀ w ∈ s.users, w.username ≠ v.username)
    (hash : v.passwordHash ≠ "") (around : Surroundings) :
    let stored : User := { v with created := u.created, modified := around.now }
    (Write.update u.id v).perform around s = (.ok stored, (s.erase u.id).insert stored) := by
  rcases (Write.update u.id v).perform_cases around s with ⟨w, s', heq, htook⟩ | ⟨e, -, hrefuses⟩
  · cases htook with
    | replaced _ _ current _ hcurrent _ _ =>
      obtain rfl : current = u := Option.some.inj (hcurrent.symm.trans found)
      exact heq
  · cases hrefuses with
    | noHash hno => exact absurd hash hno
    | vanished hv => cases found.symm.trans hv
    | taken clash _ ht =>
      rcases ht with ⟨hne, hsome⟩ | ⟨w, hmem, hsame, hne⟩
      · rw [vacant hne] at hsome
        cases hsome
      · -- A name that is taken is the user's own one.
        by_cases hname : v.username = u.username
        · have heq := List.inj_on_of_nodup_map hw.usernames hmem
            (MemoryStore.mem_users_of_get? found) (hsame.trans hname)
          exact absurd (congrArg User.id heq) hne
        · exact absurd hsame (free hname w hmem)

/-- Nothing speaks against a new state of a record that leaves identifier and username alone. -/
theorem Write.perform_update_of_same {s : MemoryStore} (hw : s.WellKept) {u v : User}
    (hu : u ∈ s.users) (hid : v.id = u.id) (hname : v.username = u.username)
    (hash : v.passwordHash ≠ "") (around : Surroundings) :
    let stored : User := { v with created := u.created, modified := around.now }
    (Write.update u.id v).perform around s = (.ok stored, (s.erase u.id).insert stored) :=
  perform_update_of_free hw (MemoryStore.get?_of_mem hw hu) (absurd hid) (absurd hname) hash around

end AccountServer
