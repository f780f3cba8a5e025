import AccountServer.Proofs.Store.Listing
import AccountServer.Proofs.Store.Run

/-!
# What the store in a table keeps

* `Change` says once what a step can do to the rows, with all that was checked before.
* No two rows share an identifier, whatever was asked (`DistinctIds`).
* If all times that steps hand to the store can be read back, then so can all rows (`Legible`).
-/

namespace AccountServer.TableStore

open AccountStore

/-! ## The operations, check by check -/

/-- A row is unique if no other row has its name or its identifier. -/
theorem checkUnique_eq_ok_iff {others : List Row} {r : Row} :
    checkUnique others r = .ok () ↔
      ∀ other ∈ others, other.username ≠ r.username ∧ other.id ≠ r.id := by
  unfold checkUnique
  split
  · next h =>
    obtain ⟨other, hmem, heq⟩ := List.any_eq_true.mp h
    exact ⟨fun h' => by contradiction, fun h' => absurd (by simpa using heq) (h' other hmem).1⟩
  · next hname =>
    split
    · next h =>
      obtain ⟨other, hmem, heq⟩ := List.any_eq_true.mp h
      exact ⟨fun h' => by contradiction, fun h' => absurd (by simpa using heq) (h' other hmem).2⟩
    · next hid =>
      refine ⟨fun _ other hmem => ⟨fun heq => hname ?_, fun heq => hid ?_⟩, fun _ => rfl⟩
      · exact List.any_eq_true.mpr ⟨other, hmem, by simpa using heq⟩
      · exact List.any_eq_true.mpr ⟨other, hmem, by simpa using heq⟩

/-- A row that is refused violates a constraint, whichever it is. -/
theorem exists_checkUnique_eq_error {others : List Row} {r : Row}
    (h : ¬ checkUnique others r = .ok ()) :
    ∃ e, checkUnique others r = .error e ∧ e.kind = .constraint := by
  unfold checkUnique at *
  split
  · exact ⟨_, rfl, rfl⟩
  · split
    · exact ⟨_, rfl, rfl⟩
    · next hname hid => simp [hname, hid] at h

/-- The record that a creation puts into the table. -/
def stamped (around : Surroundings) (u : User) : User :=
  { u with id := around.draws 0, created := around.now, modified := around.now }

/-- The row that an update puts in place of another one. -/
def overwritten (now : Instant) (u : User) (current : Row) : Row :=
  { Row.encode { u with modified := now } with created := current.created }

/-- The checks of an insertion in their order: the hash, the connections, and then the unique
columns. -/
theorem create_eq (t : TableStore) (around : Surroundings) (u : User) :
    t.create around u =
      if u.passwordHash.isEmpty then .error (.invalid .noHash)
      else if t.isOpen then
        (checkUnique t.rows (Row.encode (stamped around u))).map fun _ =>
          (stamped around u, { t with rows := Row.encode (stamped around u) :: t.rows })
      else .error (.query .closed) := by
  unfold create User.checkHash checkOpen
  cases u.passwordHash.isEmpty with
  | true => rfl
  | false =>
    by_cases h : t.isOpen = true
    · simp only [h, if_true, Bool.false_eq_true, if_false]
      exact bind_ok_eq_map (checkUnique t.rows _) _
    · simp only [h, if_false, Bool.false_eq_true]
      rfl

/-- The checks of an update in their order: the hash, the connections, whether the row is there, and
then the unique columns. -/
theorem overwrite_eq (t : TableStore) (now : Instant) (id : Uuid) (u : User) :
    t.overwrite now id u =
      if u.passwordHash.isEmpty then .error (.invalid .noHash)
      else if t.isOpen then
        match t.row? id with
        | none => .error .notFound
        | some current =>
          (checkUnique (t.without id) (overwritten now u current)).map fun _ =>
            { t with rows := overwritten now u current :: t.without id }
      else .error (.query .closed) := by
  unfold overwrite User.checkHash checkOpen
  cases u.passwordHash.isEmpty with
  | true => rfl
  | false =>
    by_cases h : t.isOpen = true
    · simp only [h, if_true, Bool.false_eq_true, if_false]
      cases t.row? id with
      | none => rfl
      | some current => exact bind_ok_eq_map (checkUnique (t.without id) _) _
    · simp only [h, if_false, Bool.false_eq_true]
      rfl

theorem create_ok {t t' : TableStore} {around : Surroundings} {u stored : User}
    (h : t.create around u = .ok (stored, t')) :
    checkUnique t.rows (Row.encode (stamped around u)) = .ok () ∧ stored = stamped around u ∧
      t' = { t with rows := Row.encode (stamped around u) :: t.rows } := by
  rw [create_eq] at h
  split at h
  · contradiction
  · split at h
    · obtain ⟨_, hunique, heq⟩ := map_eq_ok_iff.mp h
      cases heq
      exact ⟨hunique, rfl, rfl⟩
    · contradiction

/-- All that has to be right for a row to be overwritten, and what comes of it. -/
theorem overwrite_eq_ok_iff {t t' : TableStore} {now : Instant} {id : Uuid} {u : User} :
    t.overwrite now id u = .ok t' ↔
      u.passwordHash ≠ "" ∧ t.isOpen = true ∧ ∃ current, t.row? id = some current ∧
        checkUnique (t.without id) (overwritten now u current) = .ok () ∧
        t' = { t with rows := overwritten now u current :: t.without id } := by
  rw [overwrite_eq]
  split
  · next hash => simp [String.isEmpty_iff.mp hash]
  · next hash =>
    have hash' : u.passwordHash ≠ "" := fun h => hash (String.isEmpty_iff.mpr h)
    split
    · next hopen =>
      cases hcurrent : t.row? id with
      | none => simp
      | some current =>
        simp only [map_eq_ok_iff]
        constructor
        · rintro ⟨_, hunique, rfl⟩
          exact ⟨hash', hopen, current, rfl, hunique, rfl⟩
        · rintro ⟨-, -, _, heq, hunique, rfl⟩
          cases heq
          exact ⟨(), hunique, rfl⟩
    · next hopen => simp [hopen]

theorem overwrite_ok {t t' : TableStore} {now : Instant} {id : Uuid} {u : User}
    (h : t.overwrite now id u = .ok t') :
    ∃ current, t.row? id = some current ∧
      checkUnique (t.without id) (overwritten now u current) = .ok () ∧
      t' = { t with rows := overwritten now u current :: t.without id } :=
  (overwrite_eq_ok_iff.mp h).2.2

/-! ## What a step can do -/

/-- What one step makes of a table, and what had been checked before. -/
inductive Change (t : TableStore) (around : Surroundings) : StoreCall → TableStore → Prop where
  | kept {call : StoreCall} : Change t around call t
  | added (u : User)
      (unique : checkUnique t.rows (Row.encode (stamped around u)) = .ok ()) :
      Change t around (.create u) { t with rows := Row.encode (stamped around u) :: t.rows }
  | replaced (id : Uuid) (u : User) (current : Row) (found : t.row? id = some current)
      (unique : checkUnique (t.without id) (overwritten around.now u current) = .ok ()) :
      Change t around (.update id u)
        { t with rows := overwritten around.now u current :: t.without id }
  | removed (id : Uuid) : Change t around (.delete id) { t with rows := t.without id }
  | closed : Change t around .close { t with isOpen := false }

theorem perform_create (t : TableStore) (around : Surroundings) (u : User) :
    t.perform (.create u) around =
      match t.create around u with
      | .ok (stored, t') => (.ok stored, t')
      | .error e => (.error e, t) := rfl

/-- Whatever a call comes to, the table changes in one of the ways of `Change`. -/
theorem after_change (step : StoreStep) (t : TableStore) :
    t.Change step.around step.call (after step t) := by
  obtain ⟨call, around⟩ := step
  cases call with
  | create u =>
    show t.Change around (.create u) (t.perform (.create u) around).2
    rw [perform_create]
    cases h : t.create around u with
    | error e => exact .kept
    | ok r =>
      have hok : t.create around u = .ok (r.1, r.2) := h
      obtain ⟨hunique, -, ht⟩ := create_ok hok
      show t.Change around (.create u) r.2
      rw [ht]
      exact .added u hunique
  | update id u =>
    show t.Change around (.update id u) (t.update around id u).2
    unfold update
    cases h : t.overwrite around.now id u with
    | error e => exact .kept
    | ok t' =>
      obtain ⟨current, hcurrent, hunique, rfl⟩ := overwrite_ok h
      exact .replaced id u current hcurrent hunique
  | delete id =>
    show t.Change around (.delete id) (t.delete id).2
    unfold delete
    -- The row goes whether or not it can be read.
    cases t.checkOpen with
    | error e => exact .kept
    | ok _ =>
      cases t.row? id with
      | none => exact .kept
      | some r => exact .removed id
  | close =>
    show t.Change around .close t.close.2
    unfold close
    split
    · exact .closed
    · exact .kept
  | get _ | byUsername _ | all | find _ => exact .kept

/-! ## Distinct identifiers -/

/-- No two rows have the same identifier. -/
def DistinctIds (t : TableStore) : Prop := (t.rows.map Row.id).Nodup

theorem DistinctIds.without {t : TableStore} (h : t.DistinctIds) (id : Uuid) :
    ((t.without id).map Row.id).Nodup :=
  h.sublist (List.filter_sublist.map _)

theorem nodup_of_checkUnique {others : List Row} {r : Row} (h : (others.map Row.id).Nodup)
    (hr : checkUnique others r = .ok ()) : ((r :: others).map Row.id).Nodup := by
  refine List.nodup_cons.mpr ⟨fun hmem => ?_, h⟩
  obtain ⟨other, hother, heq⟩ := List.mem_map.mp hmem
  exact (checkUnique_eq_ok_iff.mp hr other hother).2 heq

theorem DistinctIds.change {t t' : TableStore} {around : Surroundings} {call : StoreCall}
    (h : t.DistinctIds) (hc : t.Change around call t') : t'.DistinctIds := by
  cases hc with
  | kept => exact h
  | added u unique => exact nodup_of_checkUnique h unique
  | replaced id u current found unique => exact nodup_of_checkUnique (h.without id) unique
  | removed id => exact h.without id
  | closed => exact h

/-- No run leaves two rows of one identifier. -/
theorem distinctIds_run (steps : List StoreStep) : (run TableStore.empty steps).DistinctIds :=
  run_keeps (fun step _ t h => h.change (after_change step t)) List.nodup_nil

/-! ## Rows that can be read -/

/-- There are connections, and every row stands for a user. -/
structure Legible (t : TableStore) : Prop where
  isOpen : t.isOpen = true
  rows : ∀ r ∈ t.rows, ∃ u, r.decode = .ok u

theorem mem_of_row? {t : TableStore} {id : Uuid} {r : Row} (h : t.row? id = some r) :
    r ∈ t.rows :=
  List.mem_of_find?_eq_some h

/-- An update keeps the time of creation of the user that it overwrites. -/
theorem overwritten_eq {now : Instant} {u v : User} {current : Row} (h : current.decode = .ok v) :
    overwritten now u current = Row.encode { u with created := v.created, modified := now } := by
  obtain ⟨-, s, -, rfl⟩ := Row.decode_eq_ok_iff.mp h
  rfl

theorem Legible.change {t t' : TableStore} {step : StoreStep} (h : t.Legible)
    (hc : t.Change step.around step.call t') (hopen : step.call ≠ .close)
    (htimes : step.TimesAll Instant.Readable) : t'.Legible := by
  obtain ⟨call, around⟩ := step
  cases hc with
  | kept => exact h
  | added u unique =>
    refine ⟨h.isOpen, List.forall_mem_cons.mpr ⟨Row.exists_decode_encode ?_, h.rows⟩⟩
    exact ⟨htimes.now, htimes.now, fun t => htimes.lastLogin u t rfl,
      fun t => htimes.lastLogout u t rfl⟩
  | replaced id u current found unique =>
    have hothers : ∀ r ∈ t.without id, ∃ u, r.decode = .ok u := fun r hr =>
      h.rows r (List.mem_of_mem_filter hr)
    refine ⟨h.isOpen, List.forall_mem_cons.mpr ⟨?_, hothers⟩⟩
    obtain ⟨v, hv⟩ := h.rows current (mem_of_row? found)
    rw [overwritten_eq hv]
    -- The time of creation is not the caller's. It was read from the row before.
    have hcreated : v.created.Readable :=
      ⟨_, Instant.ofMicros?_micros (Row.decode_eq_ok_iff.mp hv).1.created⟩
    exact Row.exists_decode_encode ⟨hcreated, htimes.now, fun t => htimes.lastLogin u t rfl,
      fun t => htimes.lastLogout u t rfl⟩
  | removed id => exact ⟨h.isOpen, fun r hr => h.rows r (List.mem_of_mem_filter hr)⟩
  | closed => exact absurd rfl hopen

/-- As long as no call closes the table and all times can be read back, all rows can. -/
theorem legible_run {steps : List StoreStep}
    (h : ∀ step ∈ steps, step.call ≠ .close ∧ step.TimesAll Instant.Readable) :
    (run TableStore.empty steps).Legible :=
  run_keeps
    (fun step hstep t ht => ht.change (after_change step t) (h step hstep).1 (h step hstep).2)
    ⟨rfl, fun _ hr => absurd hr List.not_mem_nil⟩

theorem all_of_open {t : TableStore} (h : t.isOpen = true) :
    t.all = (sorted t.rows).mapM Row.decode := by
  rw [all, checkOpen, h]
  rfl

/-- All users can be listed then. -/
theorem Legible.exists_all {t : TableStore} (h : t.Legible) : ∃ users, t.all = .ok users := by
  rw [all_of_open h.isOpen]
  exact exists_mapM_eq_ok fun r hr => h.rows r ((List.mergeSort_perm t.rows _).mem_iff.mp hr)

end AccountServer.TableStore
