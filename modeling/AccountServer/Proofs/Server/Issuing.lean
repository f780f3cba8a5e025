import Mathlib
import AccountServer.Proofs.Account.Payload
import AccountServer.Proofs.Server.Dispatch
import AccountServer.Proofs.Service.Passwords

/-!
# Settings under which tokens are issued

Settings are taken with any lifetime of a second or more, but a lifetime that does not fit into the
times of a token is only noticed when a token is issued. By then a login has been recorded.

* `generate_of_fits` and `generate_of_not_fits` are about tokens,
* `serve_login` is about logins. It says what is kept and what is answered, in both cases.
-/

namespace AccountServer

open Crypto RecordStore

/-! ## Settings -/

theorem AuthSettings.tokenSettings_eq_ok {settings : AuthSettings} {secret : Bytes}
    {tokens : TokenSettings} (h : settings.tokenSettings secret = .ok tokens) :
    tokens = ⟨secret, settings.lifetime⟩ := by
  unfold tokenSettings TokenSettings.make at h
  split at h
  · cases h
  · split at h
    · exact (Except.ok.inj h).symm
    · cases h

/-- The lifetime can be added to a time of a token. -/
def TokenSettings.Fits (settings : TokenSettings) : Prop :=
  (settings.lifetime : Int) ≤ Claims.maxTime

instance (settings : TokenSettings) : Decidable settings.Fits :=
  inferInstanceAs (Decidable (_ ≤ _))

/-! ## Tokens -/

namespace Tokens

variable {t : Tokens}

theorem generate_of_fits (h : t.settings.Fits) (u : User) (now : Int) :
    Token.generate t.mac t.settings.secret u t.settings.lifetime now = .ok (t.tokenAt u now) :=
  if_pos h

theorem generate_of_not_fits (h : ¬ t.settings.Fits) (u : User) (now : Int) :
    Token.generate t.mac t.settings.secret u t.settings.lifetime now =
      .error (.badArgument .lifetimeTooLong) :=
  if_neg h

/-- A token says when it was issued, and it expires at the end of its lifetime, or at the last
time that there is. -/
theorem unverified_tokenAt (t : Tokens) (u : User) {now : Int}
    (hnow : Claims.minTime ≤ now ∧ now ≤ Claims.maxTime) :
    Token.unverified (t.tokenAt u now) = .ok (t.claimsAt u now) ∧
      (t.claimsAt u now).issuedAt = now ∧ now ≤ (t.claimsAt u now).expires := by
  have hlater : now ≤ now + t.settings.lifetime := by omega
  exact ⟨Token.unverified_sign (Token.holds_claimsFor u hnow _), rfl,
    Int.le_min.mpr ⟨hlater, hnow.2⟩⟩

end Tokens

/-! ## Answers -/

/-- What a client is told whose token cannot be issued. -/
def lifetimeRefused : Response := (AccountError.badArgument .lifetimeTooLong).response

theorem Services.run_issue {σ : Type} [AccountStore σ] (services : Services) (u : User)
    (around : Nat → Surroundings) (d : σ) :
    (services.issue u).run around d =
      (if services.tokens.settings.Fits then
          .ok (.json 201 (IssuedToken.toJson
            ⟨u.id, services.tokens.tokenAt u (around 0).now.seconds⟩))
        else .error lifetimeRefused, d) := by
  let answer (token : String) : Handling Response :=
    pure (.json 201 (IssuedToken.toJson ⟨u.id, token⟩))
  have hrun : (Handling.account (services.tokens.issue u)).run around d =
      ((Token.generate services.tokens.mac services.tokens.settings.secret u
        services.tokens.settings.lifetime (around 0).now.seconds).mapError AccountError.response,
        d) :=
    Handling.run_account _ around d
  split
  · next hfits =>
    rw [Tokens.generate_of_fits hfits] at hrun
    obtain ⟨m, hm⟩ := Plan.run_bind_ok answer hrun
    exact hm
  · next hfits =>
    rw [Tokens.generate_of_not_fits hfits] at hrun
    exact Plan.run_bind_error answer hrun

/-! ## Logins -/

section Logins

variable {σ : Type} [AccountStore σ] [RecordStore σ] {d : σ} {s : MemoryStore}
  {around : Nat → Surroundings} {c : LoginCredentials} {u : User}

/-- The record of a user after a login. -/
def User.loggedIn (σ : Type) [AccountStore σ] [RecordStore σ] (u : User)
    (around : Nat → Surroundings) : User :=
  { u with lastLogin := some (kept σ (around 1).now), modified := kept σ (around 2).now }

theorem Accounts.Admits.run_login {accounts : Accounts} (h : accounts.Admits s c u)
    (hd : Holds d s) (hclock : ∀ n, Keeps σ (around n).now) :
    ∃ d', (accounts.login c.username c.password).run around d = (.ok (u.loggedIn σ around), d') ∧
      Holds d' ((s.erase u.id).insert (u.loggedIn σ around)) := by
  have hlookup : (Lookup.byName c.username).answer s = .ok u :=
    Lookup.answer_of_finds (wellKept hd) h.mem h.username
  obtain ⟨hanswer, hholds⟩ := h.perform_login hd (hclock 1) (hclock 2)
  refine ⟨_, ?_, hholds⟩
  rw [login_eq]
  refine (Plan.run_look (.byName c.username) _ around d).trans ?_
  rw [RecordStore.lookup hd, hlookup]
  simp only [verifyPassword, h.password, Operation.demand_eq]
  show ((Write.update u.id { u with lastLogin := some (around 1).now }).plan _).run
    (fun n => around (n + 2)) d = _
  rw [Write.run_plan, hanswer]
  rfl

/-- The request is a login with the right password of this user, over a store that is in order. -/
structure Site.LogsIn (site : Site) (r : Request) (around : Nat → Surroundings) (d : σ)
    (s : MemoryStore) (u : User) : Prop where
  leads : ∃ parameters, site.LeadsTo r .login parameters
  admits : ∃ c, r.json LoginCredentials.decode = .ok c ∧ site.services.accounts.Admits s c u
  holds : Holds d s
  clock : ∀ n, Keeps σ (around n).now

/-- A login with the right password is recorded, whether a token can be issued or not. -/
theorem Site.serve_login {site : Site} {r : Request} (h : site.LogsIn r around d s u) :
    ∃ m d', site.serve r around d =
        (if site.services.tokens.settings.Fits then
            .json 201 (IssuedToken.toJson ⟨u.id,
              site.services.tokens.tokenAt (u.loggedIn σ around) (around m).now.seconds⟩)
          else lifetimeRefused, d') ∧
      Holds d' ((s.erase u.id).insert (u.loggedIn σ around)) := by
  obtain ⟨parameters, hleads⟩ := h.leads
  obtain ⟨c, hbody, hadmits⟩ := h.admits
  obtain ⟨d', hlogin, hholds⟩ := hadmits.run_login h.holds h.clock
  have haccount : (Handling.account (site.services.accounts.login c.username c.password)).run
      around d = (.ok (u.loggedIn σ around), d') := by
    rw [Handling.run_account, hlogin]
    rfl
  obtain ⟨m, hm⟩ := Plan.run_bind_ok site.services.issue haccount
  refine ⟨m, d', ?_, hholds⟩
  rw [serve_of_open hleads rfl, answer_login hbody, hm, Services.run_issue, Nat.zero_add]
  split <;> rfl

end Logins

/-!
## A first login

Alice has just been registered with the password `one` and logs in with it.
-/

namespace FirstLogin

def now : Instant := { (default : Instant) with seconds := 5 }

def around : Nat → Surroundings := fun _ => ⟨now, fun _ => ⟨10⟩, [], 0⟩

def alice : User := { User.draft "alice" "$one" .normal none now with id := ⟨10⟩ }

def store : MemoryStore :=
  AccountStore.run .empty [⟨.create (.draft "alice" "$one" .normal), around 0⟩]

def request : Request where
  method := "POST"
  target := "/login"
  contentType := some "application/json"
  body := "\x7b\"username\":\"alice\",\"password\":\"one\"\x7d"

/-- A server that was set up with a secret of 32 bytes and this lifetime. -/
def site (lifetime : Nat) : Site where
  services := ⟨⟨.marking⟩, { settings := ⟨List.replicate 32 7, lifetime⟩ }⟩
  router := accountRouter

theorem logsIn (lifetime : Nat) : (site lifetime).LogsIn request around store store alice where
  leads := ⟨[], Site.leadsTo_of_isLogin rfl (by decide)⟩
  admits := by
    have hbody : request.json LoginCredentials.decode = .ok ⟨"alice", "one"⟩ := by cbv
    have hverify : PasswordHasher.marking.verify "one" "$one" = .ok () := by decide +kernel
    exact ⟨_, hbody, by decide +kernel, rfl, hverify⟩
  holds := MemoryStore.holds_run _
  clock _ := trivial

end FirstLogin

/-- **Settings issue tokens exactly if the lifetime fits.** Take any settings that were accepted.

* If the lifetime is at most the last time of a token, then a token is issued to anybody at any time
  that a token can have, and it does not expire before it was issued. Every login with the right
  password is recorded and answered with a token, and the client reads off the answer whom it was
  issued to.
* If it is longer, then nobody gets a token. A login with the right password is recorded, and then
  refused as a bad request. -/
theorem tokens_issued_iff_lifetime_fits {settings : AuthSettings} {secret : Bytes}
    {tokens : TokenSettings} (haccepted : settings.tokenSettings secret = .ok tokens) :
    ((settings.lifetime : Int) ≤ Claims.maxTime →
      (∀ (mac : Token.Mac) (u : User) (now : Int), Claims.minTime ≤ now → now ≤ Claims.maxTime →
        ∃ token claims, Token.generate mac tokens.secret u tokens.lifetime now = .ok token ∧
          Token.unverified token = .ok claims ∧ claims.issuedAt = now ∧ now ≤ claims.expires) ∧
      ∀ {σ : Type} [AccountStore σ] [RecordStore σ] {site : Site} {r : Request}
        {around : Nat → Surroundings} {d : σ} {s : MemoryStore} {u : User},
        site.services.tokens.settings = tokens → site.LogsIn r around d s u →
          ∃ token m d', site.serve r around d =
              (.json 201 (IssuedToken.toJson ⟨u.id, token⟩), d') ∧
            IssuedToken.decode (IssuedToken.toJson ⟨u.id, token⟩) = .ok ⟨u.id, token⟩ ∧
            Token.generate site.services.tokens.mac tokens.secret (u.loggedIn σ around)
              tokens.lifetime (around m).now.seconds = .ok token ∧
            Holds d' ((s.erase u.id).insert (u.loggedIn σ around))) ∧
    (Claims.maxTime < settings.lifetime →
      (∀ (mac : Token.Mac) (u : User) (now : Int),
        Token.generate mac tokens.secret u tokens.lifetime now =
          .error (.badArgument .lifetimeTooLong)) ∧
      ∀ {σ : Type} [AccountStore σ] [RecordStore σ] {site : Site} {r : Request}
        {around : Nat → Surroundings} {d : σ} {s : MemoryStore} {u : User},
        site.services.tokens.settings = tokens → site.LogsIn r around d s u →
          ∃ d', site.serve r around d = (lifetimeRefused, d') ∧
            Holds d' ((s.erase u.id).insert (u.loggedIn σ around))) := by
  obtain rfl := AuthSettings.tokenSettings_eq_ok haccepted
  refine ⟨fun hfits => ⟨fun mac u now hmin hmax => ?_, ?_⟩, fun hlong => ⟨fun mac u now => ?_, ?_⟩⟩
  · let t : Tokens := ⟨⟨secret, settings.lifetime⟩, mac⟩
    obtain ⟨hread, hissued, hexpires⟩ := t.unverified_tokenAt u ⟨hmin, hmax⟩
    exact ⟨_, _, t.generate_of_fits hfits u now, hread, hissued, hexpires⟩
  · intro σ _ _ site r around d s u hsettings hlogs
    have hsite : site.services.tokens.settings.Fits := by rwa [hsettings]
    obtain ⟨m, d', hserve, hholds⟩ := Site.serve_login hlogs
    rw [if_pos hsite] at hserve
    have hgenerate := Tokens.generate_of_fits hsite (u.loggedIn σ around) (around m).now.seconds
    rw [hsettings] at hgenerate
    exact ⟨_, m, d', hserve, IssuedToken.decode_toJson _, hgenerate, hholds⟩
  · let t : Tokens := ⟨⟨secret, settings.lifetime⟩, mac⟩
    exact t.generate_of_not_fits (Int.not_le.mpr hlong) u now
  · intro σ _ _ site r around d s u hsettings hlogs
    have hsite : ¬ site.services.tokens.settings.Fits := by
      rw [hsettings]
      exact Int.not_le.mpr hlong
    obtain ⟨m, d', hserve, hholds⟩ := Site.serve_login hlogs
    rw [if_neg hsite] at hserve
    exact ⟨d', hserve, hholds⟩

/-- The longest lifetime that fits. -/
theorem tokens_issued_for_longest_lifetime :
    let settings : AuthSettings := { lifetime := 2 ^ 63 - 1 }
    let site := FirstLogin.site (2 ^ 63 - 1)
    settings.tokenSettings (List.replicate 32 7) = .ok site.services.tokens.settings ∧
      ∃ token s', site.serve FirstLogin.request FirstLogin.around FirstLogin.store =
        (.json 201 (.object [("user_id", .string "00000000-0000-0000-0000-00000000000a"),
          ("token", .string token)]), s') := by
  intro settings site
  have haccepted : settings.tokenSettings (List.replicate 32 7) =
      .ok site.services.tokens.settings := by
    decide
  obtain ⟨hissues, -⟩ := tokens_issued_iff_lifetime_fits haccepted
  obtain ⟨-, hlogin⟩ := hissues (by decide)
  obtain ⟨token, -, s', hserve, -⟩ := hlogin rfl (FirstLogin.logsIn _)
  have hid : FirstLogin.alice.id.toText = "00000000-0000-0000-0000-00000000000a" := by
    decide +kernel
  refine ⟨haccepted, token, s', ?_⟩
  rw [← hid]
  exact hserve

/-- A lifetime of one second more is accepted. The login is refused as a bad request, and yet its
time has been recorded. -/
theorem login_recorded_and_refused :
    let settings : AuthSettings := { lifetime := 2 ^ 63 }
    let site := FirstLogin.site (2 ^ 63)
    settings.tokenSettings (List.replicate 32 7) = .ok site.services.tokens.settings ∧
      ∃ s', site.serve FirstLogin.request FirstLogin.around FirstLogin.store =
          (lifetimeRefused, s') ∧ lifetimeRefused.status = 400 ∧
        FirstLogin.store.users.map User.lastLogin = [none] ∧
        s'.users.map User.lastLogin = [some FirstLogin.now] := by
  intro settings site
  obtain ⟨m, s', hserve, rfl, -⟩ := Site.serve_login (FirstLogin.logsIn (2 ^ 63))
  have hfits : ¬ site.services.tokens.settings.Fits := by decide
  exact ⟨by decide, _, hserve.trans (by rw [if_neg hfits]), rfl, by decide +kernel,
    by decide +kernel⟩

end AccountServer
