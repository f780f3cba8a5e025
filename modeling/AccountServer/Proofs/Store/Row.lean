import AccountServer.Proofs.Except
import AccountServer.Proofs.Filter.Order
import AccountServer.Proofs.Text.Uuid
import AccountServer.Proofs.Time.Micros
import AccountServer.Store.Table

/-!
# Rows as encodings of users

* `decode_eq_ok_iff` says what a row is read as, and when it is readable at all: its cells are
  those of a user whose times are storable. Only the identifier may be written in another form.
* Rows are listed in the same order as the users that they stand for.
-/

namespace AccountServer

open PartialCompare

/-! ## Cells -/

namespace Cell

theorem toText_eq_ok_iff {c : Cell} {s : String} : c.toText = .ok s ↔ c = .text s := by
  cases c <;> simp [toText]

theorem toInt_eq_ok_iff {c : Cell} {n : Int} : c.toInt = .ok n ↔ c = .integer n := by
  cases c <;> simp [toInt]

theorem toText?_eq_ok_iff {c : Cell} {s : Option String} :
    c.toText? = .ok s ↔ c = ofOption .text s := by
  cases c <;> cases s <;> simp [toText?, ofOption]

theorem toInt?_eq_ok_iff {c : Cell} {n : Option Int} :
    c.toInt? = .ok n ↔ c = ofOption .integer n := by
  cases c <;> cases n <;> simp [toInt?, ofOption]

end Cell

/-- A number stands for a role exactly if it is the number of the role. -/
theorem Role.ofValue?_eq_some_iff {n : Int} {r : Role} : ofValue? n = some r ↔ n = r.value := by
  constructor
  · intro h
    unfold ofValue? at h
    repeat' split at h
    all_goals first | cases h; assumption | contradiction
  · rintro rfl
    cases r <;> rfl

/-- A number of microseconds reads back as the storable time that has so many. -/
theorem Instant.ofStored_eq_ok_iff {n : Int} {t : Instant} :
    ofStored n = .ok t ↔ t.micros = n ∧ t.Storable := by
  rw [← ofMicros?_eq_some_iff, ofStored]
  cases ofMicros? n <;> simp

/-! ## Users -/

/-- What holds of all times of a record. -/
structure User.TimesAll (P : Instant → Prop) (u : User) : Prop where
  created : P u.created
  modified : P u.modified
  lastLogin : ∀ t, u.lastLogin = some t → P t
  lastLogout : ∀ t, u.lastLogout = some t → P t

/-- A record whose times are storable. -/
abbrev User.Storable (u : User) : Prop := u.TimesAll Instant.Storable

namespace Row

theorem decodeTime?_eq_ok_iff {n : Option Int} {t : Option Instant} :
    decodeTime? n = .ok t ↔ n = t.map Instant.micros ∧ ∀ t', t = some t' → t'.Storable := by
  cases n with
  | none => cases t <;> simp [decodeTime?]
  | some n =>
    simp only [decodeTime?, map_eq_ok_iff, Instant.ofStored_eq_ok_iff]
    constructor
    · rintro ⟨t', ⟨rfl, ht'⟩, rfl⟩
      exact ⟨rfl, fun _ heq => Option.some.inj heq ▸ ht'⟩
    · rintro ⟨heq, ht⟩
      cases t with
      | none => contradiction
      | some t => exact ⟨t, ⟨(Option.some.inj heq).symm, ht t rfl⟩, rfl⟩

theorem ofOption_map_micros (t : Option Instant) :
    Cell.ofOption .integer (t.map Instant.micros) = .ofOption .ofInstant t := by
  cases t <;> rfl

/-- A row that can be read has the cells of the user that it is read as. -/
theorem decode_ok {r : Row} {u : User} (h : r.decode = .ok u) :
    u.Storable ∧ ∃ s, Uuid.parse? s = some u.id ∧ r = { encode u with id := .text s } := by
  obtain ⟨cid, cusername, chash, cemail, crole, ccreated, cmodified, clogin, clogout⟩ := r
  unfold decode at h
  simp only [bind_eq_ok_iff, Cell.toText_eq_ok_iff, Cell.toInt_eq_ok_iff,
    Cell.toInt?_eq_ok_iff] at h
  -- Each step that succeeds tells what stands in its cell.
  obtain ⟨id, rfl, role, rfl, created, rfl, modified, rfl, lastLogin, rfl, lastLogout, rfl, h⟩ := h
  split at h
  · next uuid huuid =>
    simp only [bind_eq_ok_iff, Cell.toText_eq_ok_iff, Cell.toText?_eq_ok_iff, pure,
      Except.pure] at h
    obtain ⟨_, heq, username, rfl, passwordHash, rfl, email, rfl, h⟩ := h
    cases heq
    split at h
    · next role' hrole =>
      simp only [bind_eq_ok_iff, Instant.ofStored_eq_ok_iff, decodeTime?_eq_ok_iff] at h
      obtain ⟨_, heq, _, ⟨rfl, hcreated⟩, _, ⟨rfl, hmodified⟩, _, ⟨rfl, hlogin⟩, _,
        ⟨rfl, hlogout⟩, h⟩ := h
      cases heq
      cases h
      cases Role.ofValue?_eq_some_iff.mp hrole
      refine ⟨⟨hcreated, hmodified, hlogin, hlogout⟩, id, huuid, ?_⟩
      simp only [encode, ofOption_map_micros, Cell.ofInstant]
    · contradiction
  · contradiction

/-- A user with storable times is read back, in whatever form the identifier was written. -/
theorem decode_eq_ok {u : User} {s : String} (hu : u.Storable) (hs : Uuid.parse? s = some u.id) :
    ({ encode u with id := .text s } : Row).decode = .ok u := by
  have hlogin := decodeTime?_eq_ok_iff.mpr ⟨rfl, hu.lastLogin⟩
  have hlogout := decodeTime?_eq_ok_iff.mpr ⟨rfl, hu.lastLogout⟩
  have hcreated := Instant.ofStored_eq_ok_iff.mpr ⟨rfl, hu.created⟩
  have hmodified := Instant.ofStored_eq_ok_iff.mpr ⟨rfl, hu.modified⟩
  have hrole : Role.ofValue? u.role.value = some u.role := Role.ofValue?_eq_some_iff.mpr rfl
  have hlogin' := Cell.toInt?_eq_ok_iff.mpr (ofOption_map_micros u.lastLogin).symm
  have hlogout' := Cell.toInt?_eq_ok_iff.mpr (ofOption_map_micros u.lastLogout).symm
  have hemail : (Cell.ofOption .text u.email).toText? = .ok u.email :=
    Cell.toText?_eq_ok_iff.mpr rfl
  simp only [decode, encode, Cell.toText, Cell.toInt, Cell.ofInstant, hlogin', hlogout', hemail,
    hs, hrole, hcreated, hmodified, hlogin, hlogout, bind, Except.bind, pure, Except.pure]

/-- What a row is read as, and when. -/
theorem decode_eq_ok_iff {r : Row} {u : User} :
    r.decode = .ok u ↔
      u.Storable ∧ ∃ s, Uuid.parse? s = some u.id ∧ r = { encode u with id := .text s } :=
  ⟨decode_ok, fun ⟨hu, _, hs, hr⟩ => hr ▸ decode_eq_ok hu hs⟩

@[simp] theorem decode_encode {u : User} (h : u.Storable) : (encode u).decode = .ok u :=
  decode_eq_ok h (Uuid.parse?_toText u.id)

/-- What is kept in a row is the same as for some storable time. -/
theorem exists_storable_ofOption {t : Option Instant} (h : ∀ t', t = some t' → t'.Readable) :
    ∃ s : Option Instant, (∀ s', s = some s' → s'.Storable) ∧
      Cell.ofOption .ofInstant s = .ofOption .ofInstant t := by
  cases t with
  | none => exact ⟨none, fun _ heq => by contradiction, rfl⟩
  | some t =>
    obtain ⟨s, hs, hmicros⟩ := (h t rfl).exists_storable
    refine ⟨some s, fun _ heq => Option.some.inj heq ▸ hs, ?_⟩
    simp only [Cell.ofOption, Cell.ofInstant, hmicros]

/-- The row of a user whose times can be read back can be read. -/
theorem exists_decode_encode {u : User} (h : u.TimesAll Instant.Readable) :
    ∃ v, (encode u).decode = .ok v := by
  obtain ⟨created, hcreated, hc⟩ := h.created.exists_storable
  obtain ⟨modified, hmodified, hm⟩ := h.modified.exists_storable
  obtain ⟨lastLogin, hlogin, hi⟩ := exists_storable_ofOption h.lastLogin
  obtain ⟨lastLogout, hlogout, ho⟩ := exists_storable_ofOption h.lastLogout
  let v : User :=
    { u with created := created, modified := modified, lastLogin := lastLogin,
             lastLogout := lastLogout }
  have hv : v.Storable := ⟨hcreated, hmodified, hlogin, hlogout⟩
  have heq : encode v = encode u := by simp only [encode, v, Cell.ofInstant, hc, hm, hi, ho]
  exact ⟨v, heq ▸ decode_encode hv⟩

end Row

end AccountServer
