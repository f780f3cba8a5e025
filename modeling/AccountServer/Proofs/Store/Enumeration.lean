import Mathlib
import AccountServer.Proofs.Store.Lookup
import AccountServer.Proofs.Store.Scan

/-!
# The order in which a table is enumerated

A table in memory is a map, and nothing is said about the order in which it hands out its records:
it may be another one every time. The order does not show, since no two records are found by one
lookup and no two of them are listed at the same place.

* Two enumerations of a well-kept table answer every call alike and are again enumerations of one
  table (`Reordered.step`).
* So runs that enumerate the table anew before every call cannot be told apart (`Shuffled.unique`).
-/

namespace AccountServer.MemoryStore

open AccountStore

/-- The same table, enumerated in another order. -/
def Reordered (s s' : MemoryStore) : Prop := s.records.Perm s'.records

namespace Reordered

variable {s s' : MemoryStore}

theorem symm (h : s.Reordered s') : s'.Reordered s := List.Perm.symm h

theorem trans {s'' : MemoryStore} (h : s.Reordered s') (h' : s'.Reordered s'') :
    s.Reordered s'' :=
  List.Perm.trans h h'

theorem users (h : s.Reordered s') : s.users.Perm s'.users := List.Perm.map Prod.snd h

/-- What is kept of a table does not depend on the order of its records. -/
theorem wellKept (h : s.Reordered s') (hw : s.WellKept) : s'.WellKept where
  keyed p hp := hw.keyed p (h.mem_iff.mpr hp)
  keys := (List.Perm.map Prod.fst h).nodup_iff.mp hw.keys
  usernames := (h.users.map User.username).nodup_iff.mp hw.usernames
  hashed u hu := hw.hashed u (h.users.mem_iff.mpr hu)

/-! ## Reading -/

/-- The first record that a lookup comes upon is the only one that it can find. -/
theorem lookup (h : s.Reordered s') (hw : s.WellKept) (l : Lookup) : l.answer s' = l.answer s := by
  rcases l.answer_eq hw with ⟨u, hu, hfinds, heq⟩ | ⟨hnone, heq⟩
  · rw [heq, Lookup.answer_of_finds (h.wellKept hw) (h.users.mem_iff.mp hu) hfinds]
  · rcases l.answer_eq (h.wellKept hw) with ⟨v, hv, hfinds, -⟩ | ⟨-, heq'⟩
    · exact absurd hfinds (hnone v (h.users.mem_iff.mpr hv))
    · rw [heq, heq']

theorem get? (h : s.Reordered s') (hw : s.WellKept) (id : Uuid) : s'.get? id = s.get? id := by
  have hanswer : s'.get id = s.get id := h.lookup hw (.byId id)
  refine Option.ext fun u => ?_
  rw [← get_eq_ok_iff, ← get_eq_ok_iff, hanswer]

theorem contains (h : s.Reordered s') (hw : s.WellKept) (id : Uuid) :
    s'.contains id = s.contains id := by
  rw [MemoryStore.contains, MemoryStore.contains, h.get? hw]

theorem usernameTaken (h : s.Reordered s') (username : String) (except : Option Uuid) :
    s'.usernameTaken username except = s.usernameTaken username except :=
  h.users.symm.any_eq

/-- Whether a draw is free does not depend on the order, and the number of draws is the same. -/
theorem freeDraw? (h : s.Reordered s') (hw : s.WellKept) (draws : Nat → Uuid) :
    s'.freeDraw? draws = s.freeDraw? draws := by
  simp only [MemoryStore.freeDraw?, h.contains hw, List.Perm.length_eq h]

/-- A sorted list has only one order. -/
theorem all (h : s.Reordered s') (hw : s.WellKept) : s'.all = s.all :=
  (User.sorted_eq_of_perm hw.ids h.users).symm

/-- So has what a filter leaves of it. -/
theorem find (h : s.Reordered s') (hw : s.WellKept) (f : UserFilter) : s'.find f = s.find f := by
  rw [hw.find_eq_filter, (h.wellKept hw).find_eq_filter, h.all hw]

/-! ## Writing -/

theorem erase (h : s.Reordered s') (id : Uuid) : (s.erase id).Reordered (s'.erase id) :=
  List.Perm.filter _ h

theorem insert (h : s.Reordered s') (u : User) : (s.insert u).Reordered (s'.insert u) :=
  List.Perm.cons _ (h.erase u.id)

/-- Two results of a change are the same but for the order of the tables. -/
inductive Alike : Except StoreError (User × MemoryStore) → Except StoreError (User × MemoryStore) →
    Prop where
  | error (e : StoreError) : Alike (.error e) (.error e)
  | ok (u : User) {s s' : MemoryStore} (h : s.Reordered s') : Alike (.ok (u, s)) (.ok (u, s'))

theorem create (h : s.Reordered s') (hw : s.WellKept) (around : Surroundings) (u : User) :
    Alike (s.create around u) (s'.create around u) := by
  rw [create_eq, create_eq, h.usernameTaken, h.freeDraw? hw, List.Perm.length_eq h]
  split
  · exact .error _
  · split
    · exact .error _
    · split
      · exact .error _
      · exact .ok _ (h.insert _)

theorem update (h : s.Reordered s') (hw : s.WellKept) (around : Surroundings) (id : Uuid)
    (u : User) : Alike (s.update around id u) (s'.update around id u) := by
  rw [update_eq, update_eq, h.get? hw, h.contains hw, h.usernameTaken]
  split
  · exact .error _
  · split
    · exact .error _
    · split
      · exact .error _
      · split
        · exact .error _
        · exact .ok _ ((h.erase id).insert _)

theorem delete (h : s.Reordered s') (hw : s.WellKept) (id : Uuid) :
    Alike (s.delete id) (s'.delete id) := by
  rw [delete_eq, delete_eq, h.get? hw]
  split
  · exact .ok _ (h.erase id)
  · exact .error _

/-! ## Steps -/

/-- What is alike before the table is put back is alike afterwards. -/
theorem changed (h : s.Reordered s') {r r' : Except StoreError (User × MemoryStore)}
    (halike : Alike r r') :
    (s'.changed r').1 = (s.changed r).1 ∧ (s.changed r).2.Reordered (s'.changed r').2 := by
  cases halike with
  | error e => exact ⟨rfl, h⟩
  | ok u h' => exact ⟨rfl, h'⟩

/-- A step does not depend on the order. -/
theorem step (h : s.Reordered s') (hw : s.WellKept) (step : StoreStep) :
    answer step s' = answer step s ∧ (after step s).Reordered (after step s') := by
  obtain ⟨call, around⟩ := step
  cases call with
  | create u => exact h.changed (h.create hw around u)
  | update id u => exact h.changed (h.update hw around id u)
  | delete id => exact h.changed (h.delete hw id)
  | get id => exact ⟨h.lookup hw (.byId id), h⟩
  | byUsername username => exact ⟨h.lookup hw (.byName username), h⟩
  | all => exact ⟨congrArg Except.ok (h.all hw), h⟩
  | find f => exact ⟨congrArg Except.ok (h.find hw f), h⟩
  | close => exact ⟨rfl, h⟩

end Reordered

/-! ## Runs -/

/-- A step with its answer. -/
abbrev Reply := (step : StoreStep) × step.call.Answer

/-- A run in which the table may be enumerated in another order before every step and at the end. It
goes from one table to another and gives these replies. -/
inductive Shuffled : MemoryStore → List StoreStep → List Reply → MemoryStore → Prop where
  | done {s s' : MemoryStore} (order : s.Reordered s') : Shuffled s [] [] s'
  | step {s t s' : MemoryStore} {rest : List StoreStep} {replies : List Reply} (step : StoreStep)
      (order : s.Reordered t) (later : Shuffled (after step t) rest replies s') :
      Shuffled s (step :: rest) (⟨step, answer step t⟩ :: replies) s'

/-- There is no telling two such runs apart, and the tables that they come to are one table. -/
theorem Shuffled.unique {steps : List StoreStep} : ∀ {s s' t t' : MemoryStore}
    {replies replies' : List Reply}, s.WellKept → s.Reordered s' → Shuffled s steps replies t →
      Shuffled s' steps replies' t' → replies' = replies ∧ t.Reordered t' := by
  induction steps with
  | nil =>
    intro s s' t t' replies replies' hw h hrun hrun'
    cases hrun with
    | done order =>
      cases hrun' with
      | done order' => exact ⟨rfl, order.symm.trans (h.trans order')⟩
  | cons step rest ih =>
    intro s s' t t' replies replies' hw h hrun hrun'
    cases hrun with
    | step _ order later =>
      cases hrun' with
      | step _ order' later' =>
        have hw₁ := order.wellKept hw
        obtain ⟨hanswer, hafter⟩ := (order.symm.trans (h.trans order')).step hw₁ step
        obtain ⟨hreplies, hend⟩ := ih (hw₁.after step) hafter later later'
        exact ⟨by rw [hanswer, hreplies], hend⟩

/-- A run whose table is shuffled in between is kept as well as any. -/
theorem Shuffled.wellKept {steps : List StoreStep} {s s' : MemoryStore} {replies : List Reply}
    (h : Shuffled s steps replies s') (hw : s.WellKept) : s'.WellKept := by
  induction h with
  | done order => exact order.wellKept hw
  | step step order _ ih => exact ih ((order.wellKept hw).after step)

/-- **The order of enumeration does not show.** Take any run in which the table was enumerated in
any order before every call.

* Any other run of the same calls has had the same answers and comes to the same table.
* Whatever is called next is answered alike, in whichever order the records are enumerated then, and
  leaves one table. This goes for lookups, listings and searches as well as for the success and the
  failure of changes.
* A listing has all users and a search all that match, strictly increasing in the time of creation
  and then in the identifier. -/
theorem enumeration_does_not_show {steps : List StoreStep} {replies : List Reply} {s : MemoryStore}
    (h : Shuffled .empty steps replies s) :
    (∀ replies' s', Shuffled .empty steps replies' s' → replies' = replies ∧ s.Reordered s') ∧
    (∀ s', s.Reordered s' → ∀ step : StoreStep,
      answer step s' = answer step s ∧ (after step s).Reordered (after step s')) ∧
    (s.all.Perm s.users ∧ s.all.Pairwise User.Before) ∧
    ∀ f : UserFilter, (s.find f).Perm (s.users.filter f.matches?) ∧
      (s.find f).Pairwise User.Before := by
  have hw : s.WellKept := h.wellKept .empty
  refine ⟨fun _ _ h' => Shuffled.unique .empty (List.Perm.refl _) h h',
    fun s' hs' step => hs'.step hw step,
    ⟨List.mergeSort_perm _ _, User.pairwise_before_sorted hw.ids⟩, fun f => ?_⟩
  rw [find_eq]
  refine ⟨List.mergeSort_perm _ _, User.pairwise_before_sorted ?_⟩
  exact hw.ids.sublist (List.filter_sublist.map User.id)

/-- Two users who were created at one instant, and their table enumerated from either end. Both
enumerations list them by identifier and answer the next call alike. -/
theorem enumeration_does_not_show_for_twins :
    let around (id : BitVec 128) : Surroundings := ⟨default, fun _ => ⟨id⟩, [], 0⟩
    let steps : List StoreStep :=
      [⟨.create (User.draft "bob" "$argon2id$a" .normal), around 2⟩,
        ⟨.create (User.draft "alice" "$argon2id$a" .normal), around 1⟩]
    let s := run MemoryStore.empty steps
    let s' : MemoryStore := ⟨s.records.reverse⟩
    s'.users.map User.username ≠ s.users.map User.username ∧
      s'.all = s.all ∧ s.all.Perm s.users ∧ s.all.Pairwise User.Before ∧
      ∀ step : StoreStep, answer step s' = answer step s := by
  intro around steps s s'
  have hrun : Shuffled .empty steps _ s :=
    .step _ (List.Perm.refl _) (.step _ (List.Perm.refl _) (.done (List.Perm.refl _)))
  have hreversed : s.Reordered s' := (List.reverse_perm s.records).symm
  obtain ⟨-, halike, ⟨hperm, hordered⟩, -⟩ := enumeration_does_not_show hrun
  have hall : s'.all = s.all :=
    Except.ok.inj (halike s' hreversed ⟨.all, around 3⟩).1
  exact ⟨by decide, hall, hperm, hordered, fun step => (halike s' hreversed step).1⟩

end AccountServer.MemoryStore
