import AccountServer.Proofs.Filter.Pruning
import AccountServer.Proofs.Store.Table
import AccountServer.Store.Memory

/-!
# Searching the stores

A search looks between the bounds of the filter, and tries the filter on what it finds there. It
should answer what a scan of all users answers.

* The store in memory compares the bounds as they are, and its search is a scan.
* The table is asked with bounds in microseconds. `find_eq` says what a search answers then: the
  users that match, but for those whom the lower bound `overlooks`. Only a bound within a leap
  second overlooks anyone, and only users created in the second after it.
-/

namespace AccountServer

open PartialCompare AccountStore

/-- A user who matches was created within the bounds of the filter. -/
theorem UserFilter.contains_of_matches {f : UserFilter} {u : User} (h : f.matches? u = true) :
    f.indexLimits.contains greater u.created = true :=
  Filter.contains_indexLimits UserCondition.sound u f h

theorem UserFilter.not_impossible_of_matches {f : UserFilter} {u : User}
    (h : f.matches? u = true) : f.indexLimits.isImpossible greater = false :=
  Limits.isImpossible_eq_false (UserFilter.contains_of_matches h)

/-! ## The store in memory -/

/-- A search in memory answers what a scan answers. -/
theorem MemoryStore.find_eq (s : MemoryStore) (f : UserFilter) :
    s.find f = User.sorted (s.users.filter f.matches?) := by
  simp only [find]
  split
  · next himp =>
    have hnone : s.users.filter f.matches? = [] := List.filter_eq_nil_iff.mpr fun u _ hm => by
      rw [UserFilter.not_impossible_of_matches hm] at himp
      contradiction
    rw [hnone, User.sorted, List.mergeSort_nil]
  · congr 1
    refine List.filter_congr fun u _ => ?_
    cases hm : f.matches? u with
    | false => rw [Bool.and_false]
    | true => rw [UserFilter.contains_of_matches hm]; rfl

namespace TableStore

/-- Whether the lower bound of a filter cuts off a time that is not before it. -/
def overlooks (limits : Limits Instant) (t : Instant) : Bool :=
  match limits.min with
  | some low => low.outruns t
  | none => false

/-- Whether a time keeps to bounds that are rounded down to microseconds. -/
def withinMicros (limits : Limits Instant) (t : Instant) : Bool :=
  (match limits.min with
    | some low => low.micros ≤ t.micros
    | none => true) &&
  (match limits.max with
    | some high => t.micros ≤ high.micros
    | none => true)

/-! ## One row of the table -/

theorem integer_atMost (m n : Int) : (Cell.integer m).atMost (.integer n) = decide (m ≤ n) := by
  rw [Cell.atMost_eq_isLE, Cell.compare]
  cases h : compare m n with
  | lt => simpa using Int.le_of_lt (Int.compare_eq_lt.mp h)
  | eq => simpa using Int.le_of_eq (Int.compare_eq_eq.mp h)
  | gt => simpa using Int.compare_eq_gt.mp h

theorem inBounds_of_decode {limits : Limits Instant} {r : Row} {u : User}
    (h : r.decode = .ok u) : inBounds limits r = withinMicros limits u.created := by
  obtain ⟨-, s, -, rfl⟩ := Row.decode_eq_ok_iff.mp h
  obtain ⟨min, max⟩ := limits
  cases min <;> cases max <;>
    simp only [inBounds, withinMicros, Row.encode, Cell.ofInstant, integer_atMost]

/-- Rounding the bounds loses what the lower bound overlooks, and nothing else. -/
theorem withinMicros_eq {limits : Limits Instant} {t : Instant}
    (h : limits.contains greater t = true) (ht : t.nanos < 1000000000) :
    withinMicros limits t = !overlooks limits t := by
  obtain ⟨hmin, hmax⟩ := Limits.contains_iff.mp h
  obtain ⟨min, max⟩ := limits
  have hhigh : ∀ high, max = some high → decide (t.micros ≤ high.micros) = true := by
    intro high heq
    have hle : atMost t high = true := by rw [← not_greater, hmax high heq]; rfl
    exact decide_eq_true (Instant.micros_le_of_atMost hle ht)
  have hlow : ∀ low, min = some low → decide (low.micros ≤ t.micros) = !low.outruns t := by
    intro low heq
    have hle : atMost low t = true := by rw [← not_greater, hmin low heq]; rfl
    rw [Bool.eq_iff_iff, decide_eq_true_iff, Instant.micros_le_iff hle ht]
    simp
  cases max with
  | none => cases min <;> simp [withinMicros, overlooks, hlow]
  | some high => cases min <;> simp [withinMicros, overlooks, hlow, hhigh]

/-! ## The table -/

theorem isOpen_of_all {t : TableStore} {users : List User} (h : t.all = .ok users) :
    t.isOpen = true := by
  cases hopen : t.isOpen with
  | true => rfl
  | false =>
    rw [all, checkOpen, hopen] at h
    cases h

theorem storable_of_all {t : TableStore} {users : List User} (h : t.all = .ok users) :
    ∀ u ∈ users, u.Storable := by
  rw [all_of_open (isOpen_of_all h)] at h
  intro u hu
  obtain ⟨r, -, hr⟩ := exists_of_mem_mapM h u hu
  exact (Row.decode_eq_ok_iff.mp hr).1

theorem find_of_open {t : TableStore} {f : UserFilter} (h : t.isOpen = true) :
    t.find f =
      if f.indexLimits.isImpossible greater then .ok []
      else ((sorted (t.rows.filter (inBounds f.indexLimits))).mapM Row.decode).map
        (List.filter f.matches?) := by
  rw [find, checkOpen, h]
  split
  · rfl
  · exact bind_ok_eq_map _ _

/-- What a search answers, next to what a listing answers. -/
theorem find_eq {t : TableStore} {users : List User} (hids : t.DistinctIds)
    (h : t.all = .ok users) (f : UserFilter) :
    t.find f =
      .ok (users.filter fun u => f.matches? u && !overlooks f.indexLimits u.created) := by
  have hopen := isOpen_of_all h
  have hstorable := storable_of_all h
  rw [all_of_open hopen, mapM_eq_ok_iff] at h
  rw [find_of_open hopen]
  split
  · next himp =>
    -- Nothing lies in the bounds, so that nothing matches either.
    have hnone : ∀ u ∈ users, ¬ (f.matches? u && !overlooks f.indexLimits u.created) = true := by
      intro u _ hu
      rw [UserFilter.not_impossible_of_matches ((Bool.and_eq_true _ _).mp hu).1] at himp
      contradiction
    rw [List.filter_eq_nil_iff.mpr hnone]
  · -- The rows that the table is asked for are those of the users within the rounded bounds.
    have hrows : (sorted (t.rows.filter (inBounds f.indexLimits))).mapM Row.decode =
        .ok (users.filter fun u => withinMicros f.indexLimits u.created) := by
      rw [Row.sorted_filter hids, mapM_eq_ok_iff]
      refine List.rel_filter (fun r u hr => ?_) h
      show inBounds f.indexLimits r = true ↔ _
      rw [inBounds_of_decode hr]
    rw [hrows, Except.map, List.filter_filter]
    congr 1
    refine List.filter_congr fun u hu => ?_
    cases hm : f.matches? u with
    | false => rfl
    | true =>
      rw [withinMicros_eq (UserFilter.contains_of_matches hm) (hstorable u hu).created.noLeap]

/-- **A search against a scan.** After any run, and for any filter, a search answers the users
that a scan finds, but for those whom the lower bound overlooks, so that the two agree just if no
user who matches is overlooked. If the times handed to the store can be read back, there is a
scan to agree with. -/
theorem find_agrees_with_scan_iff (steps : List StoreStep) :
    let t := run TableStore.empty steps
    (∀ users, t.all = .ok users → ∀ f : UserFilter,
      t.find f = .ok (users.filter fun u => f.matches? u && !overlooks f.indexLimits u.created) ∧
      (t.find f = .ok (users.filter f.matches?) ↔
        ∀ u ∈ users, f.matches? u = true → overlooks f.indexLimits u.created = false)) ∧
    ((∀ step ∈ steps, step.call ≠ .close ∧ step.TimesAll Instant.Readable) →
      ∃ users, t.all = .ok users) := by
  intro t
  refine ⟨fun users h f => ⟨find_eq (distinctIds_run steps) h f, ?_⟩,
    fun h => (legible_run h).exists_all⟩
  rw [find_eq (distinctIds_run steps) h f, Except.ok.injEq]
  constructor
  · intro heq u hu hm
    have hmem : u ∈ users.filter f.matches? := List.mem_filter.mpr ⟨hu, hm⟩
    rw [← heq] at hmem
    simpa [hm] using (List.mem_filter.mp hmem).2
  · intro hover
    refine List.filter_congr fun u hu => ?_
    cases hm : f.matches? u with
    | false => rfl
    | true => rw [hover u hu hm]; rfl

/-- The first user is all that there is. -/
theorem all_after_create {around : Surroundings} {u : User} (hash : u.passwordHash ≠ "")
    (hu : (stamped around u).Storable) :
    (after ⟨.create u, around⟩ TableStore.empty).all = .ok [stamped around u] := by
  have hrows : after ⟨.create u, around⟩ TableStore.empty =
      ⟨[stamped around u].map Row.encode, true⟩ := by
    show (TableStore.empty.perform (.create u) around).2 = _
    rw [perform_create, create_eq, if_neg (by simpa using hash)]
    rfl
  have hstorable : ∀ v ∈ [stamped around u], v.Storable := fun v hv =>
    List.mem_singleton.mp hv ▸ hu
  rw [hrows, all_of_open rfl, Row.mapM_decode_sorted hstorable, User.sorted,
    List.mergeSort_singleton]

theorem storable_stamped_draft {around : Surroundings} {username hash : String} {role : Role}
    (h : around.now.Storable) : (stamped around (User.draft username hash role)).Storable :=
  ⟨h, h, fun _ hlogin => by contradiction, fun _ hlogout => by contradiction⟩

/-- The bound lies half a second into a leap second, and the user was created 0.6 seconds after
its end. -/
theorem find_agrees_after_leap_second :
    let around : Surroundings := ⟨⟨1483228800, 600000000, by omega⟩, fun _ => ⟨1⟩, [], 0⟩
    let f : UserFilter := .condition { created := some (.ge ⟨1483228799, 1500000000, by omega⟩) }
    let steps : List StoreStep := [⟨.create (User.draft "alice" "$argon2id$a" .normal), around⟩]
    let t := run TableStore.empty steps
    (∃ users, t.all = .ok users) ∧
    ∃ u, t.all = .ok [u] ∧ t.find f = .ok ([u].filter f.matches?) ∧ f.matches? u = true := by
  intro around f steps t
  let u := stamped around (User.draft "alice" "$argon2id$a" .normal)
  have hnow : around.now.Storable := by decide
  have hall : t.all = .ok [u] := all_after_create (by decide) (storable_stamped_draft hnow)
  have hover : ∀ v ∈ [u], f.matches? v = true → overlooks f.indexLimits v.created = false := by
    decide +zetaReduce
  have hsteps : ∀ step ∈ steps, step.call ≠ .close ∧ step.TimesAll Instant.Readable := by
    intro step hstep
    rw [List.mem_singleton.mp hstep]
    refine ⟨by simp, ⟨_, Instant.ofMicros?_micros hnow⟩, ?_, ?_⟩
    all_goals
      intro v time hv
      cases hv
      exact fun h => by contradiction
  have hagrees := find_agrees_with_scan_iff steps
  exact ⟨hagrees.2 hsteps, u, hall, (hagrees.1 [u] hall f).2.mpr hover, by rfl⟩

/-- The same bound, and a user who was created a microsecond after the end of the leap second. The
user matches, as a scan finds, and the search does not find the user. -/
theorem find_misses_user_after_leap_second :
    let around : Surroundings := ⟨⟨1483228800, 1000, by omega⟩, fun _ => ⟨1⟩, [], 0⟩
    let f : UserFilter := .condition { created := some (.ge ⟨1483228799, 1500000000, by omega⟩) }
    let t := run TableStore.empty [⟨.create (User.draft "alice" "$argon2id$a" .normal), around⟩]
    ∃ u, t.all = .ok [u] ∧ f.matches? u = true ∧ t.find f = .ok [] := by
  intro around f t
  let u := stamped around (User.draft "alice" "$argon2id$a" .normal)
  have hnow : around.now.Storable := by decide
  have hall : t.all = .ok [u] := all_after_create (by decide) (storable_stamped_draft hnow)
  have hnone : [u].filter (fun v => f.matches? v && !overlooks f.indexLimits v.created) = [] := by
    decide +zetaReduce
  exact ⟨u, hall, by rfl, (find_eq (distinctIds_run _) hall f).trans (congrArg Except.ok hnone)⟩

end TableStore

end AccountServer
