import Mathlib
import AccountServer.Proofs.Server.Dispatch
import AccountServer.Proofs.Service.Passwords

/-!
# Nobody learns of the others

What a client without the rights of an admin can tell from the answers. Two stores that have the
same record of a user look the same to him: his requests are answered alike, and come to the same
for his record, whoever else is there. And a login that fails is answered in one way, be it the name
or the password that is wrong.

The two stores may be of different kinds, if they make the same of the times that the clock shows.
-/

namespace AccountServer

open RecordStore
open Plan (Answers)

/-- The credentials are nobody's: there is no such name, or the password is wrong. -/
def Accounts.Rejects (accounts : Accounts) (s : MemoryStore) (c : LoginCredentials) : Prop :=
  ∀ u ∈ s.users, u.username = c.username →
    accounts.hasher.verify c.password u.passwordHash = .error .mismatch

/-! ## One's own record -/

/-- All that is known beforehand is the record of this user. -/
def User.Knows (me : User) (l : Lookup) (answer : Except StoreError User) : Prop :=
  l = .byId me.id ∧ answer = .ok me

theorem User.answers_knows {σ : Type} [AccountStore σ] [RecordStore σ] {d : σ} {s : MemoryStore}
    {me : User} (hd : Holds d s) (hme : s.get? me.id = some me) : Answers me.Knows d := by
  rintro _ _ ⟨rfl, rfl⟩ around
  rw [RecordStore.lookup hd, Lookup.answer, MemoryStore.get_eq_ok_iff.mpr hme]

/-- The times that two stores keep in the same way. -/
def KeepAlike (σ₁ σ₂ : Type) [AccountStore σ₁] [AccountStore σ₂] [RecordStore σ₁] [RecordStore σ₂]
    (t : Instant) : Prop :=
  Keeps σ₁ t ∧ Keeps σ₂ t ∧ kept σ₁ t = kept σ₂ t

variable {σ₁ σ₂ : Type} [AccountStore σ₁] [AccountStore σ₂] [RecordStore σ₁] [RecordStore σ₂]
  {d₁ : σ₁} {d₂ : σ₂} {s₁ s₂ : MemoryStore}

theorem timesAll_keepAlike {me : User} (hd₁ : Holds d₁ s₁) (hd₂ : Holds d₂ s₂)
    (hme₁ : s₁.get? me.id = some me) (hme₂ : s₂.get? me.id = some me) :
    me.TimesAll (KeepAlike σ₁ σ₂) := by
  have h₁ := RecordStore.times hd₁ me (MemoryStore.mem_users_of_get? hme₁)
  have h₂ := RecordStore.times hd₂ me (MemoryStore.mem_users_of_get? hme₂)
  refine (h₁.and h₂).mono ?_
  rintro t ⟨⟨hkeeps₁, hsame₁⟩, hkeeps₂, hsame₂⟩
  exact ⟨hkeeps₁, hkeeps₂, hsame₁.trans hsame₂.symm⟩

namespace Site

variable {site : Site} {r : Request} {resource : Resource Endpoint} {parameters : List (List Char)}

/-- What only depends on the record of a user comes to the same over two stores that have it. -/
theorem handle_alike {me : User} {around : Nat → Surroundings}
    (hforeseen : (site.handle r resource parameters).Foreseen me.Knows (KeepAlike σ₁ σ₂)
      (Write.Concerns me (KeepAlike σ₁ σ₂) False))
    (hclock : ∀ n, KeepAlike σ₁ σ₂ (around n).now) (hd₁ : Holds d₁ s₁) (hd₂ : Holds d₂ s₂)
    (hme₁ : s₁.get? me.id = some me) (hme₂ : s₂.get? me.id = some me) :
    ((site.handle r resource parameters).run around d₁).1 =
        ((site.handle r resource parameters).run around d₂).1 ∧
      ∀ later, ownRecord me later ((site.handle r resource parameters).run around d₁).2 =
        ownRecord me later ((site.handle r resource parameters).run around d₂).2 := by
  have hanswers₁ := User.answers_knows hd₁ hme₁
  have hanswers₂ := User.answers_knows hd₂ hme₂
  rcases hforeseen.run hclock with ⟨result, hresult⟩ | ⟨w, n, k, hw, hk⟩
  · rw [hresult hanswers₁, hresult hanswers₂]
    exact ⟨rfl, fun later => by rw [ownRecord_of_get? hd₁ hme₁, ownRecord_of_get? hd₂ hme₂]⟩
  · -- Both come to the same write, and what comes of it is settled by the record and the clock.
    obtain ⟨answer, own, houtcome⟩ := hw.exists_outcome (kept σ₁) (hclock n)
    have hkeeps₁ : KeepsAs σ₁ (KeepAlike σ₁ σ₂) (kept σ₁) := fun t ht => ⟨ht.1, rfl⟩
    have hkeeps₂ : KeepsAs σ₂ (KeepAlike σ₁ σ₂) (kept σ₁) := fun t ht => ⟨ht.2.1, ht.2.2.symm⟩
    obtain ⟨hanswer₁, hown₁⟩ := houtcome hkeeps₁ hd₁ hme₁
    obtain ⟨hanswer₂, hown₂⟩ := houtcome hkeeps₂ hd₂ hme₂
    rw [hk hanswers₁, hk hanswers₂]
    exact ⟨by rw [hanswer₁, hanswer₂], fun later => by rw [hown₁, hown₂]⟩

/-- So it is with whole requests, but for logins and changes of one's own identity. -/
theorem serve_alike (hrouter : site.router = accountRouter) {me : User}
    {around : Nat → Surroundings} (hme : me.role ≠ .admin) (hnamed : r.Names me)
    (hlogin : ¬ r.IsLogin) (hidentity : ¬ r.ChangesIdentity me.id)
    (hclock : ∀ n, KeepAlike σ₁ σ₂ (around n).now) (hd₁ : Holds d₁ s₁) (hd₂ : Holds d₂ s₂)
    (hme₁ : s₁.get? me.id = some me) (hme₂ : s₂.get? me.id = some me) :
    (site.serve r around d₁).1 = (site.serve r around d₂).1 ∧
      ∀ later, ownRecord me later (site.serve r around d₁).2 =
        ownRecord me later (site.serve r around d₂).2 := by
  cases hfind : site.router.find? r.path with
  | none =>
    rw [serve_of_not_find hfind, serve_of_not_find hfind]
    exact ⟨rfl, fun later => by rw [ownRecord_of_get? hd₁ hme₁, ownRecord_of_get? hd₂ hme₂]⟩
  | some found =>
    obtain ⟨resource, parameters⟩ := found
    have hfound := hrouter ▸ hfind
    have hforeseen : (site.handle r resource parameters).Foreseen me.Knows (KeepAlike σ₁ σ₂)
        (Write.Concerns me (KeepAlike σ₁ σ₂) False) := by
      refine handle_foreseen (fun h => hlogin (isLogin_of_handler? hfound h)) hnamed hme
        ⟨rfl, rfl⟩ (timesAll_keepAlike hd₁ hd₂ hme₁ hme₂) ?_
      -- Whoever changes his own identity asks for a name, so that is left out.
      intro hupdate value text hparameters htext hid
      obtain ⟨hmethod, value', hvalues, hpath⟩ := path_of_updateUser hfound hupdate
      obtain rfl : value' = value := List.singleton_inj.mp (hvalues.symm.trans hparameters)
      exact absurd ⟨hmethod, _, text, hpath, htext, Operation.userId_eq_ok hid⟩ hidentity
    obtain ⟨hresult, hown⟩ := handle_alike hforeseen hclock hd₁ hd₂ hme₁ hme₂
    rw [serve_of_find hfind, serve_of_find hfind]
    exact ⟨congrArg (answered r resource) hresult, hown⟩

end Site

/-! ## Failed logins -/

theorem Accounts.run_login_of_rejects {accounts : Accounts} {c : LoginCredentials}
    (h : accounts.Rejects s₁ c) (hd : Holds d₁ s₁) (around : Nat → Surroundings) :
    (accounts.login c.username c.password).run around d₁ = (.error .badCredentials, d₁) := by
  rw [login_eq]
  refine (Plan.run_look (.byName c.username) _ around d₁).trans ?_
  rw [RecordStore.lookup hd]
  rcases Lookup.answer_eq (wellKept hd) (.byName c.username) with
    ⟨u, hu, hname, hanswer⟩ | ⟨-, hanswer⟩
  · simp only [hanswer, verifyPassword, h u hu hname]
    rfl
  · rw [hanswer]
    rfl

/-- A login that is rejected is answered like any other that is, and it leaves no trace. -/
theorem Site.serve_of_rejects {site : Site} (hrouter : site.router = accountRouter) {r : Request}
    (hlogin : r.IsLogin) {c : LoginCredentials} (hbody : r.json LoginCredentials.decode = .ok c)
    (h : site.services.accounts.Rejects s₁ c) (hd : Holds d₁ s₁) (around : Nat → Surroundings) :
    site.serve r around d₁ = (AccountError.badCredentials.response, d₁) := by
  have haccount : (Handling.account (site.services.accounts.login c.username c.password)).run
      around d₁ = (.error AccountError.badCredentials.response, d₁) := by
    rw [Handling.run_account, Accounts.run_login_of_rejects h hd]
    rfl
  rw [serve_of_open (leadsTo_of_isLogin hrouter hlogin) rfl, answer_login hbody,
    Plan.run_bind_error site.services.issue haccount]
  rfl

/-! ## Requests to the account service -/

/-- Requests without the rights of an admin tell nothing of other accounts.

Over two stores with the same record of a user who is no admin, a request with a token that names
him has the same response and leaves the same record of his, unless it is a login or the change of
his own identity. And two logins that fail, for want of the name or of the right password, have the
same response over whatever stores, which stay as they are. -/
theorem Site.requests_hide_other_accounts {services : Services} {site : Site}
    (hsite : Site.ofAccounts services = .ok site) (hd₁ : Holds d₁ s₁) (hd₂ : Holds d₂ s₂) :
    (∀ (me : User) (r : Request) (around : Nat → Surroundings), me.role ≠ .admin →
      s₁.get? me.id = some me → s₂.get? me.id = some me → r.Names me → ¬ r.IsLogin →
      ¬ r.ChangesIdentity me.id → (∀ n, KeepAlike σ₁ σ₂ (around n).now) →
        (site.serve r around d₁).1 = (site.serve r around d₂).1 ∧
          ∀ later, ownRecord me later (site.serve r around d₁).2 =
            ownRecord me later (site.serve r around d₂).2) ∧
    ∀ (r₁ r₂ : Request) (c₁ c₂ : LoginCredentials) (around₁ around₂ : Nat → Surroundings),
      r₁.IsLogin → r₂.IsLogin → r₁.json LoginCredentials.decode = .ok c₁ →
      r₂.json LoginCredentials.decode = .ok c₂ → services.accounts.Rejects s₁ c₁ →
      services.accounts.Rejects s₂ c₂ →
        (site.serve r₁ around₁ d₁).1 = (site.serve r₂ around₂ d₂).1 ∧
          (site.serve r₁ around₁ d₁).2 = d₁ ∧ (site.serve r₂ around₂ d₂).2 = d₂ := by
  obtain ⟨rfl, hrouter⟩ := of_ofAccounts hsite
  constructor
  · intro me r around hme hme₁ hme₂ hnamed hlogin hidentity hclock
    exact serve_alike hrouter hme hnamed hlogin hidentity hclock hd₁ hd₂ hme₁ hme₂
  · intro r₁ r₂ c₁ c₂ around₁ around₂ hlogin₁ hlogin₂ hbody₁ hbody₂ hrejects₁ hrejects₂
    rw [serve_of_rejects hrouter hlogin₁ hbody₁ hrejects₁ hd₁,
      serve_of_rejects hrouter hlogin₂ hbody₂ hrejects₂ hd₂]
    exact ⟨rfl, rfl, rfl⟩

/-- A user looks for somebody who is there in one of two stores, and then tries the names. -/
theorem Site.requests_hide_other_accounts_from_alice :
    let services : Services := ⟨⟨.marking⟩, { settings := ⟨List.replicate 32 7, 3600⟩ }⟩
    let around (id : Nat) : Nat → Surroundings := fun _ =>
      ⟨⟨5, 0, by decide⟩, fun _ => ⟨BitVec.ofNat 128 id⟩, [], 0⟩
    let registration : StoreStep := ⟨.create (.draft "alice" "$one" .normal), around 10 0⟩
    let s₁ := AccountStore.run MemoryStore.empty
      [registration, ⟨.create (.draft "bob" "$two" .normal), around 1 0⟩]
    let s₂ := AccountStore.run MemoryStore.empty [registration]
    let alice : User := { User.draft "alice" "$one" .normal none ⟨5, 0, by decide⟩ with id := ⟨10⟩ }
    let site : Site := { services, router := accountRouter }
    let search : Request :=
      { method := "GET"
        target := "/users/00000000-0000-0000-0000-000000000001"
        authorization := some ("Bearer " ++ services.tokens.tokenAt alice 0) }
    let login (body : String) : Request :=
      { method := "POST", target := "/login", contentType := some "application/json", body }
    let loginAsBob := login "\x7b\"username\":\"bob\",\"password\":\"one\"\x7d"
    let loginAsEve := login "\x7b\"username\":\"eve\",\"password\":\"one\"\x7d"
    (site.serve search (around 0) s₁).1 = (site.serve search (around 0) s₂).1 ∧
      (site.serve loginAsBob (around 0) s₁).1 = (site.serve loginAsEve (around 0) s₂).1 := by
  intro services around registration s₁ s₂ alice site search login loginAsBob loginAsEve
  have hsite : ofAccounts services = .ok site := ofAccounts_eq services
  have hd₁ : Holds s₁ s₁ := MemoryStore.holds_run _
  have hd₂ : Holds s₂ s₂ := MemoryStore.holds_run _
  obtain ⟨hown, hlogins⟩ := requests_hide_other_accounts hsite hd₁ hd₂
  have hnamed : search.Names alice :=
    ⟨_, _, Request.bearer?_of_sign rfl, Token.unverified_sign (Token.holds_claimsFor alice
      (by decide) services.tokens.settings.lifetime), rfl⟩
  have hidentity : ¬ search.ChangesIdentity alice.id := by
    rintro ⟨hmethod, -⟩
    exact absurd hmethod (by decide)
  have hclock : ∀ n, KeepAlike MemoryStore MemoryStore (around 0 n).now :=
    fun _ => ⟨trivial, trivial, rfl⟩
  have hbob : loginAsBob.json LoginCredentials.decode = .ok ⟨"bob", "one"⟩ := by cbv
  have heve : loginAsEve.json LoginCredentials.decode = .ok ⟨"eve", "one"⟩ := by cbv
  have hrejects₁ : services.accounts.Rejects s₁ ⟨"bob", "one"⟩ := by
    unfold Accounts.Rejects
    decide +kernel
  have hrejects₂ : services.accounts.Rejects s₂ ⟨"eve", "one"⟩ := by
    unfold Accounts.Rejects
    decide +kernel
  obtain ⟨hsearch, -⟩ := hown alice search (around 0) (by decide) (by decide +kernel)
    (by decide +kernel) hnamed (by decide) hidentity hclock
  obtain ⟨hfailed, -⟩ := hlogins loginAsBob loginAsEve _ _ (around 0) (around 0) (by decide)
    (by decide) hbob heve hrejects₁ hrejects₂
  exact ⟨hsearch, hfailed⟩

end AccountServer
