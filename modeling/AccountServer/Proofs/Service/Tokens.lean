import AccountServer.Proofs.Service.EitherStore
import AccountServer.Proofs.Token.Roundtrip
import AccountServer.Service.Tokens

/-!
# The token service

A token that was issued for a user is `tokenAt`, and whom a token is taken for over a store is
`Accepts`. `accepts_tokenAt_iff` brings the two together: the token is taken for whoever is in the
place of its user, until it expires, if his key is still the same. Over a table it is taken for the
same user as over the records that the rows are those of (`accepts_over_iff`).
-/

namespace AccountServer

open Crypto Token

namespace Tokens

variable (t : Tokens)

/-- The keys of the users in a store. -/
def keys (s : MemoryStore) : List Bytes := s.users.map (signingKey t.settings.secret)

/-- What a token says that is issued for a user at a second. -/
def claimsAt (u : User) (issued : Int) : Claims := claimsFor u issued t.settings.lifetime

/-- A token for a user, issued at a second. -/
def tokenAt (u : User) (issued : Int) : String :=
  sign t.mac (signingKey t.settings.secret u) (t.claimsAt u issued)

variable {t}

theorem eq_tokenAt_of_issue {σ : Type} [AccountStore σ] {u : User} {around : Nat → Surroundings}
    {s s' : σ} {token : String} (h : (t.issue u).run around s = (.ok token, s')) :
    token = t.tokenAt u (around 0).now.seconds := by
  have hgenerate : generate t.mac t.settings.secret u t.settings.lifetime (around 0).now.seconds =
      .ok token := congrArg Prod.fst h
  unfold generate at hgenerate
  split at hgenerate
  · exact (Except.ok.inj hgenerate).symm
  · cases hgenerate

/-- What comes of a token when the store has answered the question for its subject. -/
def judge (t : Tokens) (token : String) (now : Int) :
    Except StoreError User → Except AccountError User
  | .error _ => .error (.invalidToken .unknownSubject)
  | .ok v =>
    match verify t.mac (signingKey t.settings.secret v) now token with
    | .ok _ => .ok v
    | .error e => .error (.invalidToken e)

/-- How the user of a token is found: the store is asked for the subject, and the token is checked
with the key of the record that it answers. -/
theorem run_authenticate {σ : Type} [AccountStore σ] {token : String} {claims : Claims}
    (hclaims : unverified token = .ok claims) (around : Nat → Surroundings) {s s' : σ}
    {answer : Except StoreError User}
    (hget : AccountStore.perform (.get claims.subject) (around 0) s = (answer, s')) :
    (t.authenticate token).run around s =
      (t.judge token (around 1).now.seconds answer, s') := by
  unfold authenticate checkWith
  rw [hclaims]
  show Plan.run (Plan.ask (.store (.get claims.subject)) _) around s = _
  unfold Plan.run
  simp only [Question.answer, hget]
  cases answer with
  | error e => rfl
  | ok v =>
    unfold judge
    let checked := verify t.mac (signingKey t.settings.secret v) (around 1).now.seconds token
    show Plan.run (Plan.ofExcept (checked.mapError AccountError.invalidToken) >>= fun _ => pure v)
      _ s' = (match checked with | .ok _ => _ | .error e => _, s')
    cases checked <;> rfl

theorem judge_eq_ok_iff {token : String} {now : Int} {answer : Except StoreError User} {v : User} :
    t.judge token now answer = .ok v ↔ answer = .ok v ∧
      ∃ c, verify t.mac (signingKey t.settings.secret v) now token = .ok c := by
  cases answer with
  | error e => exact ⟨nofun, nofun⟩
  | ok w =>
    unfold judge
    dsimp only
    cases hverify : verify t.mac (signingKey t.settings.secret w) now token with
    | ok c =>
      constructor
      · rintro ⟨⟩
        exact ⟨rfl, c, hverify⟩
      · rintro ⟨h, -⟩
        rw [Except.ok.inj h]
    | error e =>
      constructor
      · exact nofun
      · rintro ⟨⟨⟩, c, hc⟩
        rw [hverify] at hc
        cases hc

/-- The token is taken for the user `v`, and the store stays as it is. -/
def Accepts {σ : Type} [AccountStore σ] (t : Tokens) (token : String) (around : Nat → Surroundings)
    (s : σ) (v : User) : Prop :=
  (t.authenticate token).run around s = (.ok v, s)

/-- Whom a token is taken for: the user whom the store has under the subject, if the token is good
now and signed with his key. -/
theorem accepts_iff {token : String} {claims : Claims} (hclaims : unverified token = .ok claims)
    (around : Nat → Surroundings) (s : MemoryStore) (v : User) :
    t.Accepts token around s v ↔
      s.get? claims.subject = some v ∧ ∃ c,
        verify t.mac (signingKey t.settings.secret v) (around 1).now.seconds token = .ok c := by
  have hperform : AccountStore.perform (.get claims.subject) (around 0) s =
      (s.get claims.subject, s) := rfl
  rw [Accepts, run_authenticate hclaims around hperform, Prod.mk.injEq, judge_eq_ok_iff,
    MemoryStore.get_eq_ok_iff]
  exact and_iff_left rfl

/-- A token that was issued for a user is taken for the one who is in his place, if there is still
the same hash and the same logout. -/
theorem accepts_tokenAt_iff {u : User} {issued : Int}
    (hissued : Claims.minTime ≤ issued ∧ issued ≤ Claims.maxTime) {s : MemoryStore}
    (hkeys : ∀ v, s.get? u.id = some v →
      t.mac (signingKey t.settings.secret v) (signed (t.claimsAt u issued)) =
        t.mac (signingKey t.settings.secret u) (signed (t.claimsAt u issued)) →
      signingKey t.settings.secret v = signingKey t.settings.secret u)
    {around : Nat → Surroundings} (hnow : 0 ≤ (around 1).now.seconds) (v : User) :
    t.Accepts (t.tokenAt u issued) around s v ↔
      (around 1).now.seconds ≤ (t.claimsAt u issued).expires ∧ s.get? u.id = some v ∧
        signingKey t.settings.secret v = signingKey t.settings.secret u := by
  have hholds : Holds (t.claimsAt u issued) := holds_claimsFor u hissued t.settings.lifetime
  have hclaims : unverified (t.tokenAt u issued) = .ok (t.claimsAt u issued) :=
    unverified_sign hholds
  rw [accepts_iff hclaims]
  show s.get? u.id = some v ∧ _ ↔ _
  constructor
  · rintro ⟨hv, hverify⟩
    obtain ⟨hkey, hchecked⟩ := (exists_verify_sign_iff hholds _ (hkeys v hv)).mp hverify
    exact ⟨(checkClaims_claimsFor u issued _ hnow).mp hchecked, hv, hkey⟩
  · rintro ⟨hexpires, hv, hkey⟩
    have hchecked := (checkClaims_claimsFor u issued t.settings.lifetime hnow).mpr hexpires
    exact ⟨hv, (exists_verify_sign_iff hholds _ (hkeys v hv)).mpr ⟨hkey, hchecked⟩⟩

/-- Over a table that mirrors the records a token is taken for the same user. -/
theorem accepts_over_iff {token : String} {claims : Claims}
    (hclaims : unverified token = .ok claims) {d : TableStore} {s : MemoryStore} (h : Mirrors d s)
    (around : Nat → Surroundings) (v : User) :
    t.Accepts token around d v ↔ t.Accepts token around s v := by
  have hs : AccountStore.perform (.get claims.subject) (around 0) s = (s.get claims.subject, s) :=
    rfl
  have hd : AccountStore.perform (.get claims.subject) (around 0) d = (d.get claims.subject, d) :=
    rfl
  have hanswer : d.get claims.subject = .ok v ↔ s.get claims.subject = .ok v := by
    rcases h.lookup (.byId claims.subject) with ⟨u, -, hmem, hrow⟩ | ⟨hmem, hrow⟩
    · change s.get claims.subject = .ok u at hmem
      change d.get claims.subject = .ok u at hrow
      rw [hmem, hrow]
    · change s.get claims.subject = .error .notFound at hmem
      change d.get claims.subject = .error .notFound at hrow
      rw [hmem, hrow]
  rw [Accepts, Accepts, run_authenticate hclaims around hs, run_authenticate hclaims around hd,
    Prod.mk.injEq, Prod.mk.injEq, judge_eq_ok_iff, judge_eq_ok_iff, hanswer]
  simp only [and_true]

end Tokens

end AccountServer
