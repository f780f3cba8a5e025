import AccountServer.Proofs.Service.Bearer
import AccountServer.Proofs.Service.Races
import AccountServer.Proofs.Service.Tokens
import AccountServer.Proofs.Token.Key

/-!
# Revocation

A token stands for the record that it was issued for, as long as this record has the same password
hash and the same last logout. `token_stands_until_revoked` says so of whole histories, and tells
from the outcomes alone when it is over.
-/

namespace AccountServer

open Crypto Token

/-- A function that signs tells keys apart by their signatures over a message. -/
def Token.Mac.TellsApart (mac : Mac) (keys : List Bytes) (message : Bytes) : Prop :=
  ∀ k ∈ keys, ∀ k' ∈ keys, mac k message = mac k' message → k = k'

section Histories

variable {accounts : Accounts} {s : MemoryStore} {before between : List Errand} {n : Nat} {u : User}

/-- What the outcomes say of a record that was there at some moment of a history. -/
theorem standing_of_renews (hw : s.WellKept)
    (hrenews : s.Renews n (Outcome.newHashes (accounts.outcomes s (before ++ between)))
      (Outcome.newLogouts (accounts.outcomes s (before ++ between))))
    (hu : (accounts.after s before).get? u.id = some u) :
    (accounts.after s (before ++ between)).Standing u
      (Bearer.follow u.id (accounts.outcomes (accounts.after s before) between)) := by
  have hstart := accounts.renews_after before between hw hrenews
  have hprecedes := hstart.precedes u.id u hu
  rw [Accounts.after_append]
  refine accounts.standing_after between (accounts.wellKept_after before hw) ?_ hprecedes.unseen
    hprecedes.earlier
  exact .good u.id u hu rfl rfl fun id b hb heq => hstart.distinct _ _ _ _ hb hu heq

/-- Two records that were there at two moments of a history have hashes of one length. -/
theorem length_hash_of_renews (hw : s.WellKept)
    (hrenews : s.Renews n (Outcome.newHashes (accounts.outcomes s (before ++ between)))
      (Outcome.newLogouts (accounts.outcomes s (before ++ between))))
    (hu : (accounts.after s before).get? u.id = some u) {id : Uuid} {v : User}
    (hv : (accounts.after s (before ++ between)).get? id = some v) :
    (utf8 v.passwordHash).length = (utf8 u.passwordHash).length := by
  have hfirst := (accounts.renews_after before between hw hrenews).precedes u.id u hu
  rw [← List.append_nil (before ++ between)] at hrenews
  have hlast := (accounts.renews_after (before ++ between) [] hw hrenews).precedes id v hv
  rw [hfirst.length, hlast.length]

end Histories

/-- As long as it stands, and only then, a record has the key that it had. -/
theorem MemoryStore.Standing.signingKey_iff {s : MemoryStore} {u v : User} {b : Bearer}
    (h : s.Standing u b) {id : Uuid} (hv : s.get? id = some v)
    (hlength : (utf8 v.passwordHash).length = (utf8 u.passwordHash).length) (secret : Bytes) :
    signingKey secret v = signingKey secret u ↔
      v.passwordHash = u.passwordHash ∧ v.lastLogout = u.lastLogout := by
  rw [signingKey_eq_iff secret hlength]
  constructor
  · exact fun ⟨hash, logout⟩ => ⟨hash, (h.eq_some_of_same hv hash logout).2⟩
  · exact fun ⟨hash, logout⟩ => ⟨hash, by rw [logoutMicros, logout, logoutMicros]⟩

/-- There is a record with the same hash and the same logout in the old place exactly if the bearer
is there. -/
theorem MemoryStore.Standing.exists_same_iff {s : MemoryStore} {u : User} {b : Bearer}
    (h : s.Standing u b) (id : Uuid) :
    (∃ v, s.get? id = some v ∧ v.passwordHash = u.passwordHash ∧ v.lastLogout = u.lastLogout) ↔
      b = some id := by
  constructor
  · rintro ⟨v, hv, hash, logout⟩
    exact (h.eq_some_of_same hv hash (by rw [logoutMicros, logout, logoutMicros])).1
  · exact h.exists_of_eq_some

/-- **Revocation.** Take any history of operations in which no password hash comes twice and every
logout is later than those before it. A token is issued in its course for the record `u`, with a
signature that no other key in question gives. Later on the token is taken for a user exactly as
long as it has not expired and that user is in the place of `u` with the hash and the logout of `u`;
that is, as long as `Bearer.follow` finds the account of `u` there. Once this has become void, by a
logout, a new password or a removal, no later state takes the token, whoever then has the
identifier or the name. Over a table it is the same. -/
theorem token_stands_until_revoked {accounts : Accounts} {t : Tokens} {s₀ : MemoryStore}
    (hw : s₀.WellKept) {before between : List Errand} {n : Nat}
    (hrenews : s₀.Renews n (Outcome.newHashes (accounts.outcomes s₀ (before ++ between)))
      (Outcome.newLogouts (accounts.outcomes s₀ (before ++ between))))
    {u : User} (hu : (accounts.after s₀ before).get? u.id = some u)
    {around : Nat → Surroundings} {token : String}
    (hissue : (t.issue u).run around (accounts.after s₀ before) =
      (.ok token, accounts.after s₀ before))
    (hissued : Claims.minTime ≤ (around 0).now.seconds ∧ (around 0).now.seconds ≤ Claims.maxTime)
    (hmac : t.mac.TellsApart
      (t.keys (accounts.after s₀ before) ++ t.keys (accounts.after s₀ (before ++ between)))
      (signed (t.claimsAt u (around 0).now.seconds))) :
    let s := accounts.after s₀ (before ++ between)
    let news := accounts.outcomes (accounts.after s₀ before) between
    (∀ later : Nat → Surroundings, 0 ≤ (later 1).now.seconds →
      let good := (later 1).now.seconds ≤ (t.claimsAt u (around 0).now.seconds).expires
      (∀ v, t.Accepts token later s v ↔
        good ∧ s.get? u.id = some v ∧ v.passwordHash = u.passwordHash ∧
          v.lastLogout = u.lastLogout) ∧
      ((∃ v, t.Accepts token later s v) ↔ good ∧ Bearer.follow u.id news = some u.id) ∧
      ∀ past, past <+: news → Bearer.follow u.id past = none → ∀ v, ¬ t.Accepts token later s v) ∧
    ∀ d₀ : TableStore, Mirrors d₀ s₀ → accounts.Suited s₀ (before ++ between) →
      let d := accounts.after d₀ (before ++ between)
      Mirrors d s ∧
      accounts.outcomes d₀ (before ++ between) = accounts.outcomes s₀ (before ++ between) ∧
      ∀ later v, t.Accepts token later d v ↔ t.Accepts token later s v := by
  intro s news
  rw [Tokens.eq_tokenAt_of_issue hissue]
  refine ⟨fun later hlater => ?_, fun d₀ hmirrors hsuited => ?_⟩
  · intro good
    have hstanding : s.Standing u (Bearer.follow u.id news) := standing_of_renews hw hrenews hu
    have haccepts : ∀ v, t.Accepts (t.tokenAt u (around 0).now.seconds) later s v ↔
        good ∧ s.get? u.id = some v ∧ v.passwordHash = u.passwordHash ∧
          v.lastLogout = u.lastLogout := by
      intro v
      rw [Tokens.accepts_tokenAt_iff hissued ?_ hlater v]
      · refine and_congr_right fun _ => and_congr_right fun hv => ?_
        exact hstanding.signingKey_iff hv (length_hash_of_renews hw hrenews hu hv) _
      · intro w hw' hsame
        refine hmac _ (List.mem_append_right _ ?_) _ (List.mem_append_left _ ?_) hsame
        · exact List.mem_map_of_mem (MemoryStore.mem_users_of_get? hw')
        · exact List.mem_map_of_mem (MemoryStore.mem_users_of_get? hu)
    have hfollow : (∃ v, t.Accepts (t.tokenAt u (around 0).now.seconds) later s v) ↔
        good ∧ Bearer.follow u.id news = some u.id := by
      simp only [haccepts, exists_and_left, hstanding.exists_same_iff]
    refine ⟨haccepts, hfollow, fun past hpast hvoid v hv => ?_⟩
    have hnone := Bearer.follow_eq_none_of_prefix hpast hvoid
    rw [(hfollow.mp ⟨v, hv⟩).2] at hnone
    cases hnone
  · obtain ⟨hafter, houtcomes⟩ := hmirrors.after accounts (before ++ between) hsuited
    refine ⟨hafter, houtcomes, ?_⟩
    exact Tokens.accepts_over_iff (unverified_sign (holds_claimsFor u hissued _)) hafter

/-- A token is good after its user has been renamed, over a table as in memory. It is good no more
after a logout, even when the user has gone and another one has got the identifier and the name. -/
theorem token_stands_until_revoked_by_logout :
    let around (id : Nat) (second : Int) : Nat → Surroundings := fun _ =>
      ⟨⟨second, 0, by decide⟩, fun _ => ⟨BitVec.ofNat 128 id⟩, [], 0⟩
    let first := "00000000-0000-0000-0000-000000000001"
    let accounts : Accounts := ⟨.marking⟩
    let t : Tokens := ⟨⟨List.replicate 32 7, 3600⟩, fun key message => key ++ message⟩
    let before : List Errand := [⟨.createUser "alice" "one" "" .normal, around 1 10⟩]
    let rename : List Errand := [⟨.updateUser first first "alicia" "" .normal, around 0 20⟩]
    let reuse : List Errand := rename ++
      [⟨.logout ⟨1⟩, around 0 30⟩, ⟨.deleteUser first, around 0 40⟩,
        ⟨.createUser "alice" "two" "" .normal, around 1 50⟩]
    let s := accounts.after MemoryStore.empty before
    ∃ u token, s.get? ⟨1⟩ = some u ∧ (t.issue u).run (around 0 15) s = (.ok token, s) ∧
      (∃ v, t.Accepts token (around 0 60) (accounts.after MemoryStore.empty (before ++ rename)) v) ∧
      (∃ v, t.Accepts token (around 0 60) (accounts.after TableStore.empty (before ++ rename)) v) ∧
      ∀ v, ¬ t.Accepts token (around 0 60) (accounts.after MemoryStore.empty (before ++ reuse))
        v := by
  intro around first accounts t before rename reuse s
  have hsome : (s.get? ⟨1⟩).isSome = true := by decide +kernel
  obtain ⟨u, hu⟩ := Option.isSome_iff_exists.mp hsome
  have hid : (⟨1⟩ : Uuid) = u.id :=
    (accounts.wellKept_after before .empty).keyed _ (MemoryStore.mem_of_get? hu)
  have hissue : (t.issue u).run (around 0 15) s = (.ok (t.tokenAt u 15), s) := by
    have hgenerate : generate t.mac t.settings.secret u t.settings.lifetime 15 =
        .ok (t.tokenAt u 15) := if_pos (by decide)
    exact congrArg (·, s) hgenerate
  have hissued : Claims.minTime ≤ 15 ∧ 15 ≤ Claims.maxTime := by decide
  have hmac (keys : List Bytes) (message : Bytes) : t.mac.TellsApart keys message :=
    fun _ _ _ _ h => List.append_cancel_right h
  have hlength : ∀ hash ∈ ["$one", "$two"], (utf8 hash).length = 4 := by
    simp only [utf8_eq]
    decide
  have hrename : MemoryStore.empty.Renews 4
      (Outcome.newHashes (accounts.outcomes MemoryStore.empty (before ++ rename)))
      (Outcome.newLogouts (accounts.outcomes MemoryStore.empty (before ++ rename))) := by
    have hhashes : Outcome.newHashes (accounts.outcomes MemoryStore.empty (before ++ rename)) =
        ["$one"] := by decide +kernel
    have hlogouts : Outcome.newLogouts (accounts.outcomes MemoryStore.empty (before ++ rename)) =
        [] := by decide +kernel
    rw [hhashes, hlogouts]
    exact .empty (fun h hmem => hlength h (List.mem_append_left ["$two"] hmem)) (by decide)
      nofun .nil
  have hreuse : MemoryStore.empty.Renews 4
      (Outcome.newHashes (accounts.outcomes MemoryStore.empty (before ++ reuse)))
      (Outcome.newLogouts (accounts.outcomes MemoryStore.empty (before ++ reuse))) := by
    have hhashes : Outcome.newHashes (accounts.outcomes MemoryStore.empty (before ++ reuse)) =
        ["$one", "$two"] := by decide +kernel
    have hlogouts : Outcome.newLogouts (accounts.outcomes MemoryStore.empty (before ++ reuse)) =
        [⟨30, 0, by decide⟩] := by decide +kernel
    rw [hhashes, hlogouts]
    exact .empty hlength (by decide) (by decide) (by simp)
  have hfollow : Bearer.follow ⟨1⟩ (accounts.outcomes s rename) = some ⟨1⟩ ∧
      Bearer.follow ⟨1⟩ (accounts.outcomes s reuse) = none := by decide +kernel
  have hnow : Instant.Storable ⟨10, 0, by decide⟩ ∧ Instant.Storable ⟨20, 0, by decide⟩ := by decide
  have hsuited : accounts.Suited .empty (before ++ rename) :=
    ⟨⟨fun _ => hnow.1, fun _ _ => rfl⟩, ⟨fun _ => hnow.2, nofun⟩, trivial⟩
  rw [hid] at hu hfollow
  obtain ⟨hmemory, htable⟩ := token_stands_until_revoked .empty hrename hu hissue hissued (hmac _ _)
  obtain ⟨-, hrenamed, -⟩ := hmemory (around 0 60) (by decide)
  obtain ⟨-, -, hover⟩ := htable .empty .empty hsuited
  obtain ⟨hafter, -⟩ := token_stands_until_revoked .empty hreuse hu hissue hissued (hmac _ _)
  obtain ⟨-, -, hrevoked⟩ := hafter (around 0 60) (by decide)
  have hexpires : (60 : Int) ≤ (t.claimsAt u 15).expires := by
    show (60 : Int) ≤ min (15 + 3600) Claims.maxTime
    decide
  obtain ⟨v, hv⟩ := hrenamed.mpr ⟨hexpires, hfollow.1⟩
  exact ⟨u, t.tokenAt u 15, hid ▸ hu, hissue, ⟨v, hv⟩, ⟨v, (hover _ v).mpr hv⟩,
    hrevoked _ (List.prefix_refl _) hfollow.2⟩

end AccountServer
