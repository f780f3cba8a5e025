import AccountServer.Proofs.Store.Table

/-!
# Errors of the store in a table

Most errors come before anything is written, and then every row is what it was. Two calls decode a
row after they have written:

* a deletion answers the row that it took away, so that a row that stands for no user is gone and
  the caller is told that it is invalid;
* an update reads back the row that it wrote. Of what was there before, this row keeps the time of
  creation alone, and all the rest comes from the caller and the clock.

`FailsLate` names these cases. There is no way back from them, for each statement is on its own.
-/

namespace AccountServer

open AccountStore

/-! ## Cells that are read as times -/

/-- The cell holds the number of microseconds of an instant. -/
def Cell.IsTime (c : Cell) : Prop := ∃ t : Instant, t.Storable ∧ c = .ofInstant t

theorem Cell.isTime_ofInstant_iff {t : Instant} : (Cell.ofInstant t).IsTime ↔ t.Readable := by
  constructor
  · rintro ⟨s, hs, heq⟩
    have hmicros : t.micros = s.micros := by simpa [Cell.ofInstant] using heq
    exact ⟨s, by rw [hmicros, Instant.ofMicros?_micros hs]⟩
  · intro h
    obtain ⟨s, hs, hmicros⟩ := h.exists_storable
    exact ⟨s, hs, by simp [Cell.ofInstant, hmicros]⟩

/-- The times of a record that a store takes over from its caller. -/
structure User.LoginTimesReadable (u : User) : Prop where
  lastLogin : ∀ t, u.lastLogin = some t → t.Readable
  lastLogout : ∀ t, u.lastLogout = some t → t.Readable

theorem Instant.readable_of_ofOption_eq {s t : Option Instant}
    (ht : ∀ t', t = some t' → t'.Storable)
    (h : Cell.ofOption .ofInstant s = .ofOption .ofInstant t) :
    ∀ s', s = some s' → s'.Readable := by
  rintro s' rfl
  cases t with
  | none => simp [Cell.ofOption, Cell.ofInstant] at h
  | some t => exact Cell.isTime_ofInstant_iff.mp ⟨t, ht t rfl, h⟩

namespace TableStore

/-- The row that an update writes can be read if the times in it can: the one it kept, that of the
clock and those of the caller. -/
theorem exists_decode_overwritten_iff {now : Instant} {u : User} {current : Row} :
    (∃ v, (overwritten now u current).decode = .ok v) ↔
      current.created.IsTime ∧ now.Readable ∧ u.LoginTimesReadable := by
  constructor
  · rintro ⟨v, hv⟩
    obtain ⟨hstorable, s, -, heq⟩ := Row.decode_ok hv
    have hcreated : current.created = .ofInstant v.created := congrArg Row.created heq
    have hmodified : Cell.ofInstant now = .ofInstant v.modified := congrArg Row.modified heq
    have hlogin := congrArg Row.lastLogin heq
    have hlogout := congrArg Row.lastLogout heq
    exact ⟨⟨_, hstorable.created, hcreated⟩,
      Cell.isTime_ofInstant_iff.mp ⟨_, hstorable.modified, hmodified⟩,
      Instant.readable_of_ofOption_eq hstorable.lastLogin hlogin,
      Instant.readable_of_ofOption_eq hstorable.lastLogout hlogout⟩
  · rintro ⟨⟨created, hcreated, heq⟩, hnow, hlogin, hlogout⟩
    have hrow : overwritten now u current =
        Row.encode { u with created := created, modified := now } := by
      simp only [overwritten, heq, Row.encode]
    rw [hrow]
    exact Row.exists_decode_encode
      ⟨Cell.isTime_ofInstant_iff.mp ⟨created, hcreated, rfl⟩, hnow, hlogin, hlogout⟩

/-! ## Rows without the one of an identifier -/

/-- The row of an identifier and those of all others are the whole table. -/
theorem DistinctIds.perm_without {t : TableStore} (h : t.DistinctIds) {id : Uuid} {r : Row}
    (found : t.row? id = some r) : t.rows.Perm (r :: t.without id) := by
  obtain ⟨rows, isOpen⟩ := t
  have hid : r.id = .text id.toText := by simpa using List.find?_some found
  have hmem : r ∈ rows := mem_of_row? found
  have hothers : rows.erase r = (⟨rows, isOpen⟩ : TableStore).without id := by
    have hnodup : rows.Nodup := List.Nodup.of_map _ h
    rw [hnodup.erase_eq_filter, TableStore.without]
    refine List.filter_congr fun other hother => ?_
    have hiff : other = r ↔ other.id = .text id.toText :=
      ⟨fun heq => heq ▸ hid, fun heq => List.inj_on_of_nodup_map h hother hmem (heq.trans hid.symm)⟩
    rw [Bool.eq_iff_iff]
    simp [hiff]
  rw [← hothers]
  exact List.perm_cons_erase hmem

/-! ## Calls that fail after they have written -/

/-- What a call meets when it writes and then cannot decode the row. -/
inductive FailsLate (t : TableStore) (around : Surroundings) : StoreCall → Prop where
  | delete (id : Uuid) (r : Row) (connected : t.isOpen = true) (found : t.row? id = some r)
      (unreadable : ∀ u, r.decode ≠ .ok u) : FailsLate t around (.delete id)
  | update (id : Uuid) (u : User) (r : Row) (connected : t.isOpen = true)
      (hash : u.passwordHash ≠ "") (found : t.row? id = some r)
      (unique : checkUnique (t.without id) (overwritten around.now u r) = .ok ())
      (unreadable : ¬ (r.created.IsTime ∧ around.now.Readable ∧ u.LoginTimesReadable))
      (other : overwritten around.now u r ≠ r) : FailsLate t around (.update id u)

/-- The row that an update wrote is the one it reads back. -/
theorem get_overwritten (now : Instant) (u : User) (current : Row) (others : List Row) :
    (⟨overwritten now u current :: others, true⟩ : TableStore).get u.id =
      (overwritten now u current).decode := by
  have hfound : (⟨overwritten now u current :: others, true⟩ : TableStore).row? u.id =
      some (overwritten now u current) := by
    simp [row?, overwritten, Row.encode]
  rw [get, checkOpen, hfound]
  rfl

theorem update_of_overwrite {t : TableStore} {around : Surroundings} {id : Uuid} {u : User}
    {current : Row} (connected : t.isOpen = true) (hash : u.passwordHash ≠ "")
    (found : t.row? id = some current)
    (unique : checkUnique (t.without id) (overwritten around.now u current) = .ok ()) :
    t.perform (.update id u) around =
      ((overwritten around.now u current).decode,
        ⟨overwritten around.now u current :: t.without id, true⟩) := by
  have hok := overwrite_eq_ok_iff.mpr ⟨hash, connected, current, found, unique, rfl⟩
  show t.update around id u = _
  rw [update, hok]
  simp only [connected, get_overwritten]

theorem delete_of_found {t : TableStore} {id : Uuid} {r : Row} (connected : t.isOpen = true)
    (found : t.row? id = some r) (around : Surroundings) :
    t.perform (.delete id) around = (r.decode, { t with rows := t.without id }) := by
  show t.delete id = _
  rw [delete, checkOpen, connected, found]
  rfl

theorem exists_error_iff {r : Row} : (∃ e, r.decode = .error e) ↔ ∀ u, r.decode ≠ .ok u := by
  cases h : r.decode with
  | ok u => simp
  | error e => simp

/-- What fails late fails, and something is different then. -/
theorem FailsLate.changes {t : TableStore} {step : StoreStep} (ht : t.DistinctIds)
    (h : t.FailsLate step.around step.call) :
    (∃ e, answer step t = .error e) ∧ ¬ (after step t).rows.Perm t.rows := by
  obtain ⟨call, around⟩ := step
  cases h with
  | delete id r connected found unreadable =>
    rw [answer, after, show AccountStore.perform _ _ t = _ from
      delete_of_found connected found around]
    refine ⟨exists_error_iff.mpr unreadable, fun hperm => ?_⟩
    have hlength := (hperm.trans (ht.perm_without found)).length_eq
    simp at hlength
  | update id u r connected hash found unique unreadable other =>
    rw [answer, after, show AccountStore.perform _ _ t = _ from
      update_of_overwrite connected hash found unique]
    have hdecode : ∀ v, (overwritten around.now u r).decode ≠ .ok v := fun v hv =>
      unreadable (exists_decode_overwritten_iff.mp ⟨v, hv⟩)
    refine ⟨exists_error_iff.mpr hdecode, fun hperm => other ?_⟩
    have hcount := (hperm.trans (ht.perm_without found)).count_eq (overwritten around.now u r)
    by_contra hne
    simp [Ne.symm hne] at hcount

theorem rows_of_create_error {t : TableStore} {around : Surroundings} {u : User} {e : StoreError}
    (he : (t.perform (.create u) around).1 = .error e) :
    (t.perform (.create u) around).2.rows = t.rows := by
  rw [perform_create] at he ⊢
  cases hcreate : t.create around u with
  | error e' => rfl
  | ok r =>
    rw [hcreate] at he
    contradiction

theorem rows_of_update_error {t : TableStore} {around : Surroundings} {id : Uuid} {u : User}
    {e : StoreError} (ht : t.DistinctIds) (he : (t.update around id u).1 = .error e)
    (hlate : ¬ t.FailsLate around (.update id u)) : (t.update around id u).2.rows.Perm t.rows := by
  cases hover : t.overwrite around.now id u with
  | error e' => rw [update, hover]
  | ok t' =>
    obtain ⟨hash, connected, r, found, unique, -⟩ := overwrite_eq_ok_iff.mp hover
    have hupdate := update_of_overwrite connected hash found unique
    change t.update around id u = _ at hupdate
    rw [hupdate] at he ⊢
    have hunreadable :
        ¬ (r.created.IsTime ∧ around.now.Readable ∧ u.LoginTimesReadable) := fun h => by
      obtain ⟨v, hv⟩ := exists_decode_overwritten_iff.mpr h
      rw [hv] at he
      contradiction
    -- A row that cannot be read was written, unless it is the one that was there.
    by_cases hsame : overwritten around.now u r = r
    · rw [hsame]
      exact (ht.perm_without found).symm
    · exact absurd (.update id u r connected hash found unique hunreadable hsame) hlate

theorem rows_of_delete_error {t : TableStore} {around : Surroundings} {id : Uuid} {e : StoreError}
    (he : (t.delete id).1 = .error e) (hlate : ¬ t.FailsLate around (.delete id)) :
    (t.delete id).2.rows = t.rows := by
  cases connected : t.isOpen with
  | false => simp [delete, checkOpen, connected]
  | true =>
    cases found : t.row? id with
    | none => simp [delete, checkOpen, connected, found]
    | some r =>
      have hdelete := delete_of_found connected found around
      change t.delete id = _ at hdelete
      rw [hdelete] at he
      exact absurd (.delete id r connected found (exists_error_iff.mp ⟨e, he⟩)) hlate

/-- An error that comes before anything is written leaves the table. -/
theorem rows_of_error {t : TableStore} {step : StoreStep} {e : StoreError} (ht : t.DistinctIds)
    (he : answer step t = .error e) (hlate : ¬ t.FailsLate step.around step.call) :
    (after step t).rows.Perm t.rows := by
  obtain ⟨call, around⟩ := step
  cases call with
  | create u => exact .of_eq (rows_of_create_error he)
  | update id u => exact rows_of_update_error ht he hlate
  | delete id => exact .of_eq (rows_of_delete_error he hlate)
  | close =>
    show t.close.2.rows.Perm t.rows
    unfold close
    split <;> exact .refl _
  | get _ | byUsername _ | all | find _ => exact .refl _

/-- Nothing fails late on rows that all stand for users, if the times handed in can be read back. -/
theorem Legible.not_failsLate {t : TableStore} {step : StoreStep} (h : t.Legible)
    (htimes : step.TimesAll Instant.Readable) : ¬ t.FailsLate step.around step.call := by
  obtain ⟨call, around⟩ := step
  intro hlate
  cases hlate with
  | delete id r connected found unreadable =>
    obtain ⟨u, hu⟩ := h.rows r (mem_of_row? found)
    exact unreadable u hu
  | update id u r connected hash found unique unreadable other =>
    obtain ⟨v, hv⟩ := h.rows r (mem_of_row? found)
    obtain ⟨hstorable, s, -, heq⟩ := Row.decode_ok hv
    have hcreated : r.created = .ofInstant v.created := congrArg Row.created heq
    exact unreadable ⟨⟨_, hstorable.created, hcreated⟩, htimes.now,
      fun t => htimes.lastLogin u t rfl, fun t => htimes.lastLogout u t rfl⟩

/-- **When an error leaves the table.** A call that is answered with an error has changed the rows
exactly if it is a deletion of a row that stands for no user, or an update that passes every check
and keeps a time of creation, or writes a time, that cannot be read. No such call is possible while
all rows stand for users and the clock and the callers keep to times that can be read back. -/
theorem error_changes_rows_iff_failsLate {t : TableStore} (ht : t.DistinctIds) (step : StoreStep) :
    ((∃ e, answer step t = .error e) ∧ ¬ (after step t).rows.Perm t.rows ↔
      t.FailsLate step.around step.call) ∧
    (t.Legible → step.TimesAll Instant.Readable → ∀ e, answer step t = .error e →
      (after step t).rows.Perm t.rows) := by
  refine ⟨⟨?_, fun hlate => hlate.changes ht⟩, fun hlegible htimes e he => ?_⟩
  · rintro ⟨⟨e, he⟩, hchanged⟩
    by_contra hlate
    exact hchanged (rows_of_error ht he hlate)
  · exact rows_of_error ht he (hlegible.not_failsLate htimes)

/-- The row of a user. -/
def rowOfAlice : Row := .encode { User.draft "alice" "hash" .normal with id := ⟨1⟩ }

/-- A table with a row whose time of creation is far outside the calendar. -/
def farCreated : TableStore where
  rows := [{ rowOfAlice with created := .integer 9223372036854775807 }]

/-- A table with a row whose role is none. -/
def unknownRole : TableStore where
  rows := [{ rowOfAlice with role := .integer 7 }]

/-- An update that is refused as invalid has renamed the user. -/
theorem error_changes_rows_of_farCreated :
    let bob : User := { User.draft "bob" "hash" .normal with id := ⟨1⟩ }
    let step : StoreStep := ⟨.update ⟨1⟩ bob, ⟨0, 0, by decide⟩, fun _ => ⟨2⟩, [], 0⟩
    farCreated.DistinctIds ∧ (∃ e, answer step farCreated = .error e) ∧
      ¬ (after step farCreated).rows.Perm farCreated.rows := by
  intro bob step
  have hdistinct : farCreated.DistinctIds := List.nodup_singleton _
  refine ⟨hdistinct, (error_changes_rows_iff_failsLate hdistinct step).1.mpr ?_⟩
  refine .update ⟨1⟩ bob _ rfl (by decide) rfl rfl ?_ (by decide)
  rintro ⟨⟨created, hcreated, heq⟩, -, -⟩
  have hmicros : created.micros = 9223372036854775807 := by
    simpa [Cell.ofInstant] using heq.symm
  have hnone : Instant.ofMicros? 9223372036854775807 = none := by decide +kernel
  rw [← hmicros, Instant.ofMicros?_micros hcreated] at hnone
  contradiction

/-- A deletion that is answered as invalid has emptied the table. -/
theorem delete_loses_unknownRole :
    unknownRole.DistinctIds ∧ ∀ around : Surroundings,
      unknownRole.perform (.delete ⟨1⟩) around = (.error (.invalid (.unknownRole 7)), .empty) :=
  ⟨List.nodup_singleton _, fun _ => rfl⟩

end TableStore

end AccountServer
