import AccountServer.Proofs.Store.Memory
import AccountServer.Proofs.Store.Search
import AccountServer.Store.Faulty

/-!
# A search in memory is a scan

A store that has no search of its own lists all users and tries the filter on each: this is a `scan`.
The store in memory takes short cuts instead. It answers nobody when the bounds of the filter are
impossible, passes over users outside of them, and sorts only whom it has found.

`find_eq` has shown that the bounds lose nobody. What is left is the order of sorting and choosing,
which needs that no two users of the list compare as equal. This is so in a well-kept store, for users
created at the same time are told apart by their identifiers.
-/

namespace AccountServer

open AccountStore

/-- What a store answers that lists all users and tries the filter on each. -/
def AccountStore.scan {σ : Type} [AccountStore σ] (f : UserFilter) (around : Surroundings) (s : σ) :
    Except StoreError (List User) :=
  (answer ⟨.all, around⟩ s).map (List.filter f.matches?)

/-- The store that can be made to fail has no search of its own. -/
theorem FaultyStore.answer_find (f : UserFilter) (around : Surroundings) (s : FaultyStore) :
    answer ⟨.find f, around⟩ s = scan f around s := by
  show (s.perform (.find f) around).1 = Except.map _ (s.perform .all around).1
  simp only [perform, StoreCall.kind]
  cases s.faults.lookup .all with
  | some e => rfl
  | none => rfl

namespace MemoryStore

theorem mem_all {s : MemoryStore} {u : User} : u ∈ s.all ↔ u ∈ s.users :=
  (List.mergeSort_perm s.users User.precedes).mem_iff

variable {s : MemoryStore}

/-- Choosing from the sorted list is choosing before sorting. -/
theorem WellKept.find_eq_filter (h : s.WellKept) (f : UserFilter) :
    s.find f = s.all.filter f.matches? := by
  rw [find_eq, User.sorted_filter h.ids, all]

theorem WellKept.ids_all (h : s.WellKept) : (s.all.map User.id).Nodup :=
  ((List.mergeSort_perm s.users User.precedes).map User.id).nodup_iff.mpr h.ids

/-- **A search in memory is a scan.** After any run and for any filter it answers the users whom a
scan of the list finds, in the order of the list. These are all users that match, each of them
once. -/
theorem find_scans_list (steps : List StoreStep) (f : UserFilter) (around : Surroundings) :
    let s := run MemoryStore.empty steps
    answer ⟨.find f, around⟩ s = scan f around s ∧
    ∃ found, answer ⟨.find f, around⟩ s = .ok found ∧ (found.map User.id).Nodup ∧
      ∀ u, u ∈ found ↔ u ∈ s.users ∧ f.matches? u = true := by
  intro s
  have wellKept : s.WellKept := wellKept_run steps
  have hfind : answer ⟨.find f, around⟩ s = .ok (s.all.filter f.matches?) :=
    congrArg Except.ok (wellKept.find_eq_filter f)
  refine ⟨hfind, s.all.filter f.matches?, hfind, ?_, fun u => ?_⟩
  · exact wellKept.ids_all.sublist (List.filter_sublist.map User.id)
  · rw [List.mem_filter, mem_all]

end MemoryStore

end AccountServer
