import AccountServer.Proofs.Json.Scalar
import AccountServer.Proofs.Text.Bytes
import AccountServer.Token.Codec

/-!
# Signing keys

The key that signs the tokens of a user is put together without anything between its pieces, and a
user who has never logged out has the same piece in it as one who did so when 1970 began.

* `signingKey_eq_iff` is about hashes of one length, and about times as they go into the key.
* `Confused` says which two users have the same key although they differ in what is to revoke
  tokens. One is the end of a hash that is read as the beginning of a time.
-/

namespace AccountServer.Token

open Crypto

/-- Two users have the same key exactly if they agree on password hash and last logout. -/
theorem signingKey_eq_iff (secret : Bytes) {u v : User}
    (hlength : (utf8 u.passwordHash).length = (utf8 v.passwordHash).length) :
    signingKey secret u = signingKey secret v ↔
      u.passwordHash = v.passwordHash ∧ logoutMicros u = logoutMicros v := by
  constructor
  · intro h
    have hstart : (secret ++ utf8 u.passwordHash).length =
        (secret ++ utf8 v.passwordHash).length := by
      rw [List.length_append, List.length_append, hlength]
    obtain ⟨hstarts, hlogout⟩ := List.append_inj h hstart
    have hhash : utf8 u.passwordHash = utf8 v.passwordHash := List.append_cancel_left hstarts
    exact ⟨utf8_injective hhash, Json.toString_int_injective (utf8_injective hlogout)⟩
  · rintro ⟨hhash, hlogout⟩
    rw [signingKey, signingKey, hhash, hlogout]

/-! ## What revokes tokens -/

/-- The microseconds of the last logout, if there was one. -/
def logoutMark (u : User) : Option Int := u.lastLogout.map Instant.micros

/-- Tokens are to be revoked when this changes: the password hash or the last logout. -/
def revocationState (u : User) : String × Option Int := (u.passwordHash, logoutMark u)

theorem logoutMicros_eq (u : User) : logoutMicros u = (logoutMark u).getD 0 := by
  unfold logoutMicros logoutMark
  cases u.lastLogout <;> rfl

/-- Two users in different states who have the same key: the second has logged out when 1970 began
and the first never, or the hash of the second goes on with the first digits that the first has for
the time of the logout. -/
inductive Confused (u v : User) : Prop where
  | epoch (hash : v.passwordHash = u.passwordHash) (never : logoutMark u = none)
      (first : logoutMark v = some 0)
  | digits (ds : List Char) (ne : ds ≠ [])
      (hash : v.passwordHash.toList = u.passwordHash.toList ++ ds)
      (logout : (toString (logoutMicros u)).toList = ds ++ (toString (logoutMicros v)).toList)

theorem signingKey_eq_iff_toList {secret : Bytes} {u v : User} :
    signingKey secret u = signingKey secret v ↔
      u.passwordHash.toList ++ (toString (logoutMicros u)).toList =
        v.passwordHash.toList ++ (toString (logoutMicros v)).toList := by
  have hkey (w : User) : signingKey secret w =
      secret ++ utf8 (w.passwordHash ++ toString (logoutMicros w)) := by
    rw [signingKey, List.append_assoc, utf8_append]
  rw [hkey, hkey, List.append_cancel_left_eq, ← String.toList_append, ← String.toList_append]
  exact ⟨fun h => congrArg String.toList (utf8_injective h),
    fun h => congrArg utf8 (String.toList_injective h)⟩

namespace Confused

variable {u v : User}

theorem signingKey_eq (h : Confused u v) (secret : Bytes) :
    signingKey secret u = signingKey secret v := by
  rw [signingKey_eq_iff_toList]
  cases h with
  | epoch hash never first => rw [logoutMicros_eq, logoutMicros_eq, hash, never, first]; rfl
  | digits ds ne hash logout => rw [hash, logout, List.append_assoc]

/-- Who is confused has logged out at another time. -/
theorem logoutMark_ne (h : Confused u v) : logoutMark u ≠ logoutMark v := by
  intro hmark
  cases h with
  | epoch hash never first =>
    rw [never, first] at hmark
    contradiction
  | digits ds ne hash logout =>
    rw [logoutMicros_eq, logoutMicros_eq, hmark, List.self_eq_append_left] at logout
    exact ne logout

/-- Hashes of one length are confused by a logout when 1970 began, and by nothing else. -/
theorem of_length (h : Confused u v) (hlength : u.passwordHash.length = v.passwordHash.length) :
    u.passwordHash = v.passwordHash ∧ logoutMark u = none ∧ logoutMark v = some 0 := by
  cases h with
  | epoch hash never first => exact ⟨hash.symm, never, first⟩
  | digits ds ne hash logout =>
    have hsum := congrArg List.length hash
    rw [List.length_append, String.length_toList, String.length_toList, hlength,
      Nat.left_eq_add, List.length_eq_zero_iff] at hsum
    exact absurd hsum ne

end Confused

/-- Equal hashes and times can still stand for two states. -/
theorem revocationState_eq_or_confused {u v : User} (hash : u.passwordHash = v.passwordHash)
    (logout : logoutMicros u = logoutMicros v) :
    revocationState u = revocationState v ∨ Confused u v ∨ Confused v u := by
  rw [logoutMicros_eq, logoutMicros_eq] at logout
  cases hu : logoutMark u with
  | none =>
    cases hv : logoutMark v with
    | none => exact Or.inl (by rw [revocationState, revocationState, hash, hu, hv])
    | some n =>
      obtain rfl : 0 = n := by simpa [hu, hv] using logout
      exact Or.inr (Or.inl (.epoch hash.symm hu hv))
  | some m =>
    cases hv : logoutMark v with
    | none =>
      obtain rfl : m = 0 := by simpa [hu, hv] using logout
      exact Or.inr (Or.inr (.epoch hash hv hu))
    | some n =>
      obtain rfl : m = n := by simpa [hu, hv] using logout
      exact Or.inl (by rw [revocationState, revocationState, hash, hu, hv])

/-- The hash of the second user goes on with what the time of the first begins with, be it empty. -/
theorem revocationState_eq_or_confused_of_append {u v : User} {ds : List Char}
    (hash : v.passwordHash.toList = u.passwordHash.toList ++ ds)
    (logout : (toString (logoutMicros u)).toList = ds ++ (toString (logoutMicros v)).toList) :
    revocationState u = revocationState v ∨ Confused u v ∨ Confused v u := by
  by_cases hnil : ds = []
  · subst hnil
    rw [List.append_nil] at hash
    have htext : toString (logoutMicros u) = toString (logoutMicros v) :=
      String.toList_injective logout
    exact revocationState_eq_or_confused (String.toList_injective hash.symm)
      (Json.toString_int_injective htext)
  · exact Or.inr (Or.inl (.digits ds hnil hash logout))

theorem signingKey_eq_iff_or_confused {secret : Bytes} {u v : User} :
    signingKey secret u = signingKey secret v ↔
      revocationState u = revocationState v ∨ Confused u v ∨ Confused v u := by
  constructor
  · intro h
    -- One of the two hashes is the beginning of the other.
    rcases List.append_eq_append_iff.mp (signingKey_eq_iff_toList.mp h) with
      ⟨ds, hash, logout⟩ | ⟨ds, hash, logout⟩
    · exact revocationState_eq_or_confused_of_append hash logout
    · exact (revocationState_eq_or_confused_of_append hash logout).imp Eq.symm Or.symm
  · rintro (hstate | hconfused | hconfused)
    · obtain ⟨hhash, hmark⟩ := Prod.mk.inj hstate
      rw [signingKey, signingKey, logoutMicros_eq, logoutMicros_eq, hhash, hmark]
    · exact hconfused.signingKey_eq secret
    · exact (hconfused.signingKey_eq secret).symm

/-- **Keys separate users in different states unless they are confused.** Two users have the same
key exactly if they agree on password hash and last logout or are confused. Who is confused has
logged out at different times, so a new hash alone always makes a new key. Users whose hashes are of
one length are confused only if they have the same hash, one of them has never logged out, and the
other did so when 1970 began. -/
theorem signingKey_separates_iff (secret : Bytes) (u v : User) :
    (signingKey secret u = signingKey secret v ↔
      revocationState u = revocationState v ∨ Confused u v ∨ Confused v u) ∧
    (Confused u v → logoutMark u ≠ logoutMark v ∧
      (u.passwordHash.length = v.passwordHash.length →
        u.passwordHash = v.passwordHash ∧ logoutMark u = none ∧ logoutMark v = some 0)) :=
  ⟨signingKey_eq_iff_or_confused, fun h => ⟨h.logoutMark_ne, h.of_length⟩⟩

/-- A user with this hash who has last logged out then. -/
def userAt (passwordHash : String) (lastLogout : Option Instant) : User :=
  { User.draft "alice" passwordHash .normal with lastLogout := lastLogout }

/-- A logout when 1970 began leaves the key, and one a microsecond later does not. -/
theorem signingKey_separates_iff_in_1970 :
    let never := userAt "$argon2id$a" none
    let first := userAt "$argon2id$a" (some ⟨0, 0, by decide⟩)
    let second := userAt "$argon2id$a" (some ⟨0, 1000, by decide⟩)
    let secret : Bytes := List.replicate 32 7
    Confused never first ∧ logoutMark never ≠ logoutMark first ∧
      signingKey secret never = signingKey secret first ∧
      signingKey secret never ≠ signingKey secret second := by
  intro never first second secret
  have hconfused : Confused never first := .epoch rfl rfl (by decide)
  obtain ⟨hfirst, hmark⟩ := signingKey_separates_iff secret never first
  obtain ⟨hsecond, hforth⟩ := signingKey_separates_iff secret never second
  obtain ⟨-, hback⟩ := signingKey_separates_iff secret second never
  refine ⟨hconfused, (hmark hconfused).1, hfirst.mpr (Or.inr (Or.inl hconfused)), fun hkey => ?_⟩
  rcases hsecond.mp hkey with hstate | h | h
  · exact absurd hstate (by decide)
  · exact absurd ((hforth h).2 rfl) (by decide)
  · exact absurd ((hback h).2 rfl) (by decide)

/-- A hash that goes on with a digit of the time: hash and last logout are others, and the key is
the same. -/
theorem signingKey_confuses_digits :
    let old := userAt "$argon2id$a" (some ⟨0, 11000, by decide⟩)
    let new := userAt "$argon2id$a1" (some ⟨0, 1000, by decide⟩)
    old.passwordHash ≠ new.passwordHash ∧ logoutMark old ≠ logoutMark new ∧
      ∀ secret, signingKey secret old = signingKey secret new := by
  intro old new
  have hconfused : Confused old new := .digits ['1'] (by decide) (by decide) (by cbv)
  exact ⟨by decide, hconfused.logoutMark_ne, hconfused.signingKey_eq⟩

end AccountServer.Token
