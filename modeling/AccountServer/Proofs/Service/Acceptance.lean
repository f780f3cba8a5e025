import AccountServer.Proofs.Service.Tokens
import AccountServer.Proofs.Token.Soundness
import AccountServer.Store.Faulty

/-!
# What the token service accepts

Both ways: a token that the service has issued is good until it expires, whatever else has become of
its user (`issued_token_reads_back`), and any text that the service takes for a token is what it
would have issued itself to the one whom it takes the bearer for (`accepted_token_is_sound`).
-/

namespace AccountServer

open Crypto Token

/-! ## Stores -/

/-- Asked for an identifier, the store answers a record that has it or none at all. -/
def AccountStore.Keyed {σ : Type} [AccountStore σ] (d : σ) : Prop :=
  ∀ {id around u d'}, perform (.get id) around d = (.ok u, d') → u.id = id

theorem MemoryStore.WellKept.answersKeyed {s : MemoryStore} (h : s.WellKept) :
    AccountStore.Keyed s := by
  intro id around u s' hget
  have hanswer : s.get id = .ok u := congrArg Prod.fst hget
  exact (h.keyed (id, u) (mem_of_get? (get_eq_ok_iff.mp hanswer))).symm

/-- A table is keyed whatever its rows hold: what is found is read back from the identifier by which
it was found. -/
theorem TableStore.answersKeyed (d : TableStore) : AccountStore.Keyed d := by
  intro id around u d' hget
  have hanswer : d.get id = .ok u := congrArg Prod.fst hget
  obtain ⟨_, -, hrow⟩ := bind_eq_ok_iff.mp hanswer
  split at hrow
  · next r hr =>
    have hid : r.id = .text id.toText := by simpa using List.find?_some hr
    obtain ⟨-, text, hparse, rfl⟩ := Row.decode_ok hrow
    rw [Cell.text.inj hid, Uuid.parse?_toText] at hparse
    exact (Option.some.inj hparse).symm
  · cases hrow

theorem FaultyStore.answersKeyed {f : FaultyStore} (h : f.inner.WellKept) :
    AccountStore.Keyed f := by
  intro id around u f' hget
  have hanswer : (FaultyStore.perform (.get id) around f).1 = .ok u := congrArg Prod.fst hget
  unfold FaultyStore.perform at hanswer
  split at hanswer
  · cases hanswer
  · have hinner : AccountStore.perform (.get id) around f.inner = (.ok u, f.inner) :=
      Prod.ext hanswer rfl
    exact h.answersKeyed hinner

namespace Tokens

variable {σ : Type} [AccountStore σ] {t : Tokens}

/-! ## Judging -/

/-- A token is turned down, or it is taken for the user whom the store has answered. -/
theorem judge_cases (t : Tokens) (token : String) (now : Int) (answer : Except StoreError User) :
    (∃ u claims, answer = .ok u ∧ t.judge token now answer = .ok u ∧
      verify t.mac (signingKey t.settings.secret u) now token = .ok claims) ∨
    ∃ fault, t.judge token now answer = .error (.invalidToken fault) := by
  cases answer with
  | error e => exact Or.inr ⟨_, rfl⟩
  | ok u =>
    cases hverify : verify t.mac (signingKey t.settings.secret u) now token with
    | ok claims => exact Or.inl ⟨u, claims, rfl, by rw [judge, hverify], hverify⟩
    | error fault => exact Or.inr ⟨fault, by rw [judge, hverify]⟩

/-- A text that does not even read as a token is turned down before the store is asked. -/
theorem run_authenticate_of_error {token : String} {fault : TokenFault}
    (h : unverified token = .error fault) (around : Nat → Surroundings) (d : σ) :
    (t.authenticate token).run around d = (.error (.invalidToken fault), d) := by
  unfold authenticate checkWith
  rw [h]
  rfl

theorem run_issue (hlifetime : (t.settings.lifetime : Int) ≤ Claims.maxTime) (u : User)
    (around : Nat → Surroundings) (d : σ) :
    (t.issue u).run around d = (.ok (t.tokenAt u (around 0).now.seconds), d) := by
  have hgenerate : generate t.mac t.settings.secret u t.settings.lifetime (around 0).now.seconds =
      .ok (t.tokenAt u (around 0).now.seconds) :=
    if_pos hlifetime
  exact congrArg (·, d) hgenerate

/-! ## Issued tokens -/

/-- A token that has not expired is taken for whoever has the identifier of its user, if he still
has the same password hash and last logout. -/
theorem run_authenticate_tokenAt {u v : User} {issued : Int}
    (hissued : Claims.minTime ≤ issued ∧ issued ≤ Claims.maxTime)
    (hhash : v.passwordHash = u.passwordHash) (hlogout : logoutMicros v = logoutMicros u)
    {later : Nat → Surroundings} {d d' : σ}
    (hget : AccountStore.perform (.get u.id) (later 0) d = (.ok v, d'))
    (hnow : 0 ≤ (later 1).now.seconds)
    (hexpires : (later 1).now.seconds ≤ (t.claimsAt u issued).expires) :
    (t.authenticate (t.tokenAt u issued)).run later d = (.ok v, d') := by
  have hholds : Holds (t.claimsAt u issued) := holds_claimsFor u hissued t.settings.lifetime
  have hclaims : unverified (t.tokenAt u issued) = .ok (t.claimsAt u issued) :=
    unverified_sign hholds
  have hkey : signingKey t.settings.secret v = signingKey t.settings.secret u := by
    rw [signingKey, signingKey, hhash, hlogout]
  have hchecked : checkClaims (later 1).now.seconds (t.claimsAt u issued) = .ok () :=
    (checkClaims_claimsFor u issued t.settings.lifetime hnow).mpr hexpires
  have hverify : verify t.mac (signingKey t.settings.secret v) (later 1).now.seconds
      (t.tokenAt u issued) = .ok (t.claimsAt u issued) := by
    rw [hkey, tokenAt, verify_sign hholds, hchecked]
    rfl
  rw [run_authenticate hclaims later hget, judge_eq_ok_iff.mpr ⟨rfl, _, hverify⟩]

/-- A token is taken for whoever is in the place of its user, as he is now, until it expires, if
password hash and last logout are still the same. After that it is turned down, whatever the store
says. -/
theorem issued_token_reads_back (hlifetime : (t.settings.lifetime : Int) ≤ Claims.maxTime)
    (u : User) {before : Nat → Surroundings}
    (hissued : 0 ≤ (before 0).now.seconds ∧ (before 0).now.seconds ≤ Claims.maxTime) (d₀ : σ) :
    let issued := (before 0).now.seconds
    let last := min (issued + t.settings.lifetime) Claims.maxTime
    ∃ token, (t.issue u).run before d₀ = (.ok token, d₀) ∧
      ∀ {d d' : σ} {later : Nat → Surroundings} {answer : Except StoreError User},
        AccountStore.perform (.get u.id) (later 0) d = (answer, d') →
        let now := (later 1).now.seconds
        (∀ v, answer = .ok v → v.passwordHash = u.passwordHash →
          logoutMicros v = logoutMicros u → issued ≤ now → now ≤ last →
          (t.authenticate token).run later d = (.ok v, d')) ∧
        (last < now → ∃ fault,
          (t.authenticate token).run later d = (.error (.invalidToken fault), d')) := by
  intro issued last
  have hrange : Claims.minTime ≤ issued ∧ issued ≤ Claims.maxTime :=
    ⟨Int.le_trans (by decide) hissued.1, hissued.2⟩
  refine ⟨t.tokenAt u issued, run_issue hlifetime u before d₀, ?_⟩
  intro d d' later answer hget now
  constructor
  · rintro v rfl hhash hlogout hstart hend
    exact run_authenticate_tokenAt hrange hhash hlogout hget (Int.le_trans hissued.1 hstart) hend
  · intro hlate
    have hclaims : unverified (t.tokenAt u issued) = .ok (t.claimsAt u issued) :=
      unverified_sign (holds_claimsFor u hrange t.settings.lifetime)
    have hrun := run_authenticate (t := t) hclaims later hget
    rcases t.judge_cases (t.tokenAt u issued) now answer with
      ⟨v, claims, -, -, hverify⟩ | ⟨fault, hfault⟩
    · -- A key that vouched for the token now would vouch for claims that have expired.
      obtain ⟨-, hexpires, -, hsame⟩ := verify_eq_ok hverify
      obtain rfl := Except.ok.inj (hclaims.symm.trans hsame)
      exact absurd hexpires (Int.not_le.mpr hlate)
    · exact ⟨fault, by rw [hrun, hfault]⟩

/-- The token of a user who has been renamed and made an admin is good for exactly its lifetime. -/
theorem issued_token_reads_back_after_promotion :
    let around (second : Int) : Nat → Surroundings := fun _ =>
      ⟨⟨second, 0, by decide⟩, fun _ => .nil, [], 0⟩
    let t : Tokens := { settings := ⟨List.replicate 32 7, 3600⟩ }
    let zoe : User :=
      { User.draft "Zoë \"Z\"" "$one" .normal with lastLogout := some ⟨5, 1999, by decide⟩ }
    let boss : User :=
      { zoe with username := "root", role := .admin, lastLogout := some ⟨5, 1000, by decide⟩ }
    let s : MemoryStore := MemoryStore.empty.insert boss
    ∃ token, (t.issue zoe).run (around 100) s = (.ok token, s) ∧
      (t.authenticate token).run (around 3700) s = (.ok boss, s) ∧
      ∃ fault, (t.authenticate token).run (around 3701) s = (.error (.invalidToken fault), s) := by
  intro around t zoe boss s
  have hlifetime : (t.settings.lifetime : Int) ≤ Claims.maxTime := by decide
  have hissued : 0 ≤ (around 100 0).now.seconds ∧ (around 100 0).now.seconds ≤ Claims.maxTime := by
    decide
  obtain ⟨token, hissue, hpresent⟩ := issued_token_reads_back hlifetime zoe hissued s
  have hget (second : Int) : AccountStore.perform (.get zoe.id) (around second 0) s =
      (.ok boss, s) := rfl
  obtain ⟨hgood, -⟩ := hpresent (hget 3700)
  obtain ⟨-, hlate⟩ := hpresent (hget 3701)
  exact ⟨token, hissue, hgood boss rfl rfl rfl (by decide) (by decide), hlate (by decide)⟩

/-! ## Presented tokens -/

/-- What has to be so for a token to be taken for a user. The claims name him and the issuer and
have not expired, and they are signed with the server's secret, his password hash and his last
logout. The server's `mac` is HMAC with SHA-256. -/
structure Accredits (t : Tokens) (token : String) (now : Int) (claims : Claims) (u : User) :
    Prop where
  signed : ∃ parts, SignedWith t.mac
    (t.settings.secret ++ utf8 u.passwordHash ++ utf8 (toString (logoutMicros u)))
    token parts claims
  subject : claims.subject = u.id
  issuer : claims.issuer = "jelly"
  unexpired : now ≤ claims.expires

/-- Whatever text is presented, it is taken for the record that the store has under the subject and
accredits that user, or it is turned down as an invalid token. -/
theorem accepted_token_is_sound {d : σ} (hkeyed : AccountStore.Keyed d) (t : Tokens)
    (token : String) (around : Nat → Surroundings) :
    (∃ u d' claims, (t.authenticate token).run around d = (.ok u, d') ∧
      AccountStore.perform (.get claims.subject) (around 0) d = (.ok u, d') ∧
      t.Accredits token (around 1).now.seconds claims u) ∨
    ∃ fault d', (t.authenticate token).run around d = (.error (.invalidToken fault), d') := by
  cases hclaims : unverified token with
  | error fault => exact Or.inr ⟨fault, d, run_authenticate_of_error hclaims around d⟩
  | ok claims =>
    cases hget : AccountStore.perform (.get claims.subject) (around 0) d with
    | mk answer d' =>
      have hrun := run_authenticate (t := t) hclaims around hget
      rcases t.judge_cases token (around 1).now.seconds answer with
        ⟨u, claims', rfl, hjudge, hverify⟩ | ⟨fault, hfault⟩
      · -- The token has been read twice, with the same claims.
        obtain ⟨hsigned, hexpires, hissuer, hsame⟩ := verify_eq_ok hverify
        obtain rfl := Except.ok.inj (hclaims.symm.trans hsame)
        refine Or.inl ⟨u, d', claims, by rw [hrun, hjudge], hget, hsigned, ?_, hissuer, hexpires⟩
        exact (hkeyed hget).symm
      · exact Or.inr ⟨fault, d', by rw [hrun, hfault]⟩

/-- A token that says another name and role of its user, and was signed with the right key, is taken
for him as he is. A text of two parts is not taken for anybody. -/
theorem accepted_token_is_sound_for_false_name :
    let around : Nat → Surroundings := fun _ => ⟨⟨50, 0, by decide⟩, fun _ => .nil, [], 0⟩
    let t : Tokens := { settings := ⟨List.replicate 32 7, 3600⟩ }
    let alice : User := .draft "alice" "$one" .normal
    let s : MemoryStore := MemoryStore.empty.insert alice
    let token := sign t.mac (signingKey t.settings.secret alice)
      ⟨alice.id, "root", .admin, "jelly", 0, 50⟩
    (∃ claims, t.Accredits token 50 claims alice) ∧
      ∃ fault s', (t.authenticate "e30.e30").run around s = (.error (.invalidToken fault), s') := by
  intro around t alice s token
  have hkeyed : AccountStore.Keyed s :=
    MemoryStore.WellKept.answersKeyed (MemoryStore.WellKept.empty.insert (by decide) nofun)
  have hholds : Holds ⟨alice.id, "root", .admin, "jelly", 0, 50⟩ := ⟨by decide, by decide⟩
  have hverify : verify t.mac (signingKey t.settings.secret alice) 50 token =
      .ok ⟨alice.id, "root", .admin, "jelly", 0, 50⟩ :=
    (verify_sign hholds 50).trans rfl
  have haccepted : (t.authenticate token).run around s = (.ok alice, s) := by
    rw [run_authenticate (unverified_sign hholds) around rfl]
    exact congrArg (·, s) (judge_eq_ok_iff.mpr ⟨rfl, _, hverify⟩)
  constructor
  · rcases accepted_token_is_sound hkeyed t token around with
      ⟨u, s', claims, hrun, -, haccredits⟩ | ⟨fault, s', hrun⟩
    · rw [haccepted] at hrun
      cases hrun
      exact ⟨claims, haccredits⟩
    · rw [haccepted] at hrun
      cases hrun
  · rcases accepted_token_is_sound hkeyed t "e30.e30" around with
      ⟨u, s', claims, -, -, haccredits⟩ | hturnedDown
    · obtain ⟨parts, hsigned⟩ := haccredits.signed
      have htwo : (Text.splitAll '.' "e30.e30".toList).length = 2 := by decide
      rw [hsigned.text] at htwo
      cases htwo
    · exact hturnedDown

end Tokens

end AccountServer
