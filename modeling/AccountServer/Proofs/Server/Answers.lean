import AccountServer.Proofs.Service.OwnAccess
import AccountServer.Proofs.Service.Tokens
import AccountServer.Server.Site

/-!
# Answers to callers without the rights of an admin

From the actions on accounts (`OwnAccess`) to whole requests. If the token of a request names a user
who is no admin, then the request comes to a foreseen plan, be the token good or not: his record is
the only one that is looked up, and he is the only one whom a write concerns (`handle_foreseen`). A
login looks up one name, and what it writes is the time of the login (`login_foreseen`).
-/

namespace AccountServer

open Plan (Foreseen Outside)

variable {K : Lookup → Except StoreError User → Prop} {T : Instant → Prop} {W : Write → Prop}
  {ε ε' α β γ : Type}

/-! ## Pieces of a request -/

theorem Plan.bind_assoc (p : Plan ε α) (f : α → Plan ε β) (g : β → Plan ε γ) :
    (p >>= f) >>= g = p >>= fun a => f a >>= g := by
  induction p with
  | done r => cases r <;> rfl
  | ask q next ih => exact congrArg (Plan.ask q) (funext ih)

namespace Handling

theorem run_account {σ : Type} [AccountStore σ] (action : Action α) (around : Nat → Surroundings)
    (d : σ) :
    (account action).run around d =
      let done := action.run around d
      (done.1.mapError AccountError.response, done.2) := by
  rw [account, Plan.mapError, Plan.run_mapResult]

theorem account_foreseen {action : Action α} {f : α → Handling β} (h : action.Foreseen K T W)
    (hf : ∀ a, (f a).Outside) : (account action >>= f).Foreseen K T W :=
  (h.mapResult _).bind hf

end Handling

theorem Inquiry.user_foreseen {q : Inquiry} {me : User} (hcaller : ∀ u, q.caller = some u → u = me)
    {f : User → Handling α} (h : (f me).Foreseen K T W) : (q.user >>= f).Foreseen K T W := by
  unfold Inquiry.user
  cases hq : q.caller with
  | none => exact .done _
  | some u =>
    obtain rfl := hcaller u hq
    exact h

/-- The parameter of a path is there if there is just one value and its escapes make a text. -/
theorem Inquiry.parameters_of_parameter {q : Inquiry} {text : String}
    (h : q.parameter = .done (.ok text)) :
    ∃ value, q.parameters = [value] ∧ Text.percentText? value = some text := by
  unfold Inquiry.parameter at h
  split at h
  · cases h
  · next value hvalues =>
    cases h
    cases hparameters : q.parameters with
    | nil =>
      rw [hparameters] at hvalues
      cases hvalues
    | cons first rest =>
      rw [hparameters, List.mapM_cons] at hvalues
      obtain ⟨text', hfirst, hmore⟩ := Option.bind_eq_some_iff.mp hvalues
      obtain ⟨texts, hrest, heq⟩ := Option.bind_eq_some_iff.mp hmore
      cases heq
      refine ⟨first, ?_, hfirst⟩
      cases rest with
      | nil => rfl
      | cons second rest =>
        rw [List.mapM_cons] at hrest
        obtain ⟨_, -, hrest⟩ := Option.bind_eq_some_iff.mp hrest
        obtain ⟨_, -, hrest⟩ := Option.bind_eq_some_iff.mp hrest
        cases hrest
  · cases h

theorem Tokens.issue_outside (t : Tokens) (u : User) : (t.issue u).Outside :=
  .asks .clock _ rfl fun _ => .done _

theorem Services.issue_outside (s : Services) (u : User) : (s.issue u).Outside :=
  ((s.tokens.issue_outside u).mapResult _).bind fun _ => .done _

theorem Services.echo_outside (q : Inquiry) : (echo q).Outside := by
  unfold echo Inquiry.body
  cases q.request.json EchoRequest.decode with
  | error e => exact .done _
  | ok request =>
    show (if request.message.isEmpty then throw _ else pure _ : Handling Response).Outside
    split
    · exact .done _
    · exact .done _

/-! ## Callers -/

/-- What is done about a token once the store has answered to its subject. -/
def Tokens.judging (t : Tokens) (token : String) : Except StoreError User → Action User
  | .error _ => .done (.error (.invalidToken .unknownSubject))
  | .ok u => .ask .clock fun now => .done (t.judge token now.seconds (.ok u))

/-- The plan that finds the user of a token. -/
theorem Tokens.authenticate_eq (t : Tokens) {token : String} {claims : Claims}
    (h : Token.unverified token = .ok claims) :
    t.authenticate token = .look (.byId claims.subject) (t.judging token) := by
  unfold authenticate checkWith
  rw [h]
  refine congrArg (Plan.ask (.store (.get claims.subject))) (funext fun answer => ?_)
  cases answer with
  | error e => rfl
  | ok u =>
    refine congrArg (Plan.ask .clock) (funext fun now => ?_)
    show (Plan.ofExcept ((Token.verify t.mac (Token.signingKey t.settings.secret u) now.seconds
      token).mapError AccountError.invalidToken) >>= fun _ => pure u) = _
    rw [judge]
    cases Token.verify t.mac (Token.signingKey t.settings.secret u) now.seconds token <;> rfl

/-- The only one whom a token that names a user can be taken for is this user. -/
theorem Tokens.authenticate_foreseen {t : Tokens} {token : String} {claims : Claims} {me : User}
    (hclaims : Token.unverified token = .ok claims) (known : K (.byId claims.subject) (.ok me))
    {g : Except AccountError User → Except ε α} {f : α → Plan ε β}
    (h : ∀ r, (∀ u, r = .ok u → u = me) → (Plan.done (g r) >>= f).Foreseen K T W) :
    ((t.authenticate token).mapResult g >>= f).Foreseen K T W := by
  rw [t.authenticate_eq hclaims, Plan.mapResult_look, Plan.bind_look]
  refine .looks _ _ (.ok me) known <| .asks .clock _ rfl fun now _ => h _ fun u hu => ?_
  obtain ⟨hanswer, -⟩ := judge_eq_ok_iff.mp hu
  exact (Except.ok.inj hanswer).symm

/-- The token of the request names this user, be it good or not. -/
def Request.Names (r : Request) (me : User) : Prop :=
  ∃ token claims, r.bearer? = some token ∧ Token.unverified token = .ok claims ∧
    claims.subject = me.id

/-- Whoever presents a token is looked up by the identifier in it. -/
theorem Services.caller_foreseen {s : Services} {guard : Guard} {r : Request} {me : User}
    (hnamed : r.Names me) (known : K (.byId me.id) (.ok me)) {f : Option User → Handling α}
    (h : ∀ caller, (∀ u, caller = some u → u = me) → (f caller).Foreseen K T W) :
    (s.caller guard r >>= f).Foreseen K T W := by
  obtain ⟨token, claims, hbearer, hclaims, hsubject⟩ := hnamed
  rw [← hsubject] at known
  unfold Services.caller
  rw [hbearer]
  cases guard with
  | none => exact h none nofun
  | optional =>
    show (((s.tokens.authenticate token).mapResult .ok >>= fun result =>
      (pure result.toOption : Handling (Option User))) >>= f).Foreseen K T W
    rw [Plan.bind_assoc]
    refine Tokens.authenticate_foreseen hclaims known fun result hresult => h _ fun u hu => ?_
    cases result with
    | ok v => exact hresult u (congrArg Except.ok (Option.some.inj hu))
    | error e => cases hu
  | required =>
    show (((s.tokens.authenticate token).mapResult (·.mapError AccountError.response) >>= fun u =>
      (pure (some u) : Handling (Option User))) >>= f).Foreseen K T W
    rw [Plan.bind_assoc]
    refine Tokens.authenticate_foreseen hclaims known fun result hresult => ?_
    cases result with
    | ok v => exact h (some v) fun u hu => hresult u (congrArg Except.ok (Option.some.inj hu))
    | error e => exact .done _

/-! ## Endpoints -/

/-- Nobody in particular is answered without a question to the store. -/
theorem Services.answer_outside {s : Services} {hello : HelloSettings} {e : Endpoint} {q : Inquiry}
    (he : e ≠ .login) (hcaller : q.caller = none) : (s.answer hello e q).Outside := by
  unfold Services.answer Inquiry.user
  rw [hcaller]
  cases e with
  | health | version | nice | rude => exact .done _
  | either => exact .asks .random _ rfl fun _ => .done _
  | login => exact absurd rfl he
  | echo => exact echo_outside q
  | logout | renewToken | listUsers | createUser | getUser | updateUser | deleteUser
  | updatePassword | secret => exact .done _

/-- What is answered to a user who is no admin, or to nobody in particular. -/
theorem Services.answer_foreseen {s : Services} {hello : HelloSettings} {e : Endpoint} {q : Inquiry}
    {me : User} {renames : Prop} (he : e ≠ .login) (hme : me.role ≠ .admin)
    (hcaller : ∀ u, q.caller = some u → u = me) (known : K (.byId me.id) (.ok me))
    (htimes : me.TimesAll T)
    (hnames : e = .updateUser → ∀ id, q.parameter = .done (.ok id) →
      Validation.userId id = .ok me.id →
      renames ∧ ∀ username, ∃ answer, K (.byName username) answer) :
    (s.answer hello e q).Foreseen K T (Write.Concerns me T renames) := by
  unfold Services.answer
  cases e with
  | health | version | nice | rude => exact .done _
  | either => exact .asks .random _ rfl fun _ _ => .done _
  | login => exact absurd rfl he
  | logout =>
    refine Inquiry.user_foreseen hcaller <| .ofExcept fun id _ => ?_
    exact Handling.account_foreseen
      (Accounts.logoutBy_foreseen hme known htimes id) fun _ => .done _
  | renewToken => exact Inquiry.user_foreseen hcaller <| .of_outside (s.issue_outside me)
  | listUsers =>
    refine Inquiry.user_foreseen hcaller <| .ofExcept fun query _ => ?_
    exact Handling.account_foreseen (Accounts.listUsersBy_foreseen hme query) fun _ => .done _
  | createUser =>
    refine Inquiry.user_foreseen hcaller <| .ofExcept fun user _ => ?_
    exact Handling.account_foreseen (Accounts.createUserBy_foreseen hme _ user) fun _ => .done _
  | getUser =>
    refine Inquiry.user_foreseen hcaller <| .ofExcept fun id _ => ?_
    exact Handling.account_foreseen (Accounts.getUserBy_foreseen hme known id) fun _ => .done _
  | updateUser =>
    refine Inquiry.user_foreseen hcaller <| .ofExcept fun id hid => .ofExcept fun change _ => ?_
    -- A change of identity may ask for a name, the answer to which has to be known.
    have hnames := hnames rfl id (congrArg Plan.done hid)
    exact Handling.account_foreseen
      (Accounts.updateUserBy_foreseen hme known htimes id change hnames) fun _ => .done _
  | deleteUser =>
    refine Inquiry.user_foreseen hcaller <| .ofExcept fun id _ => ?_
    exact Handling.account_foreseen (Accounts.deleteUserBy_foreseen hme id) fun _ => .done _
  | updatePassword =>
    refine Inquiry.user_foreseen hcaller <| .ofExcept fun id _ => .ofExcept fun change _ => ?_
    exact Handling.account_foreseen
      (Accounts.updatePasswordBy_foreseen hme known htimes _ id change) fun _ => .done _
  | echo => exact .of_outside (echo_outside q)
  | secret => exact Inquiry.user_foreseen hcaller (.done _)

/-! ## Requests -/

theorem Accounts.login_foreseen {accounts : Accounts} {username password : String}
    {answer : Except StoreError User} (known : K (.byName username) answer)
    (allowed : ∀ u now, answer = .ok u → accounts.hasher.verify password u.passwordHash = .ok () →
      T now → W (.update u.id { u with lastLogin := some now })) :
    (accounts.login username password).Foreseen K T W := by
  refine .looks (.byName username) _ answer known ?_
  cases answer with
  | error e => cases e <;> exact .done _
  | ok u =>
    show (accounts.verifyPassword password u.passwordHash >>= _).Foreseen K T W
    unfold Accounts.verifyPassword
    split
    · next hverify =>
      exact .clock fun now hnow => .demanded (allowed u now rfl hverify hnow)
    · exact .done _
    · exact .done _

namespace Site

variable {site : Site} {r : Request} {resource : Resource Endpoint} {parameters : List (List Char)}

/-- The response to a request whose handling has come to an end. -/
def answered (r : Request) (resource : Resource Endpoint) : Except Response Response → Response
  | .ok response | .error response => sent r resource response

theorem serve_of_find {σ : Type} [AccountStore σ]
    (hfind : site.router.find? r.path = some (resource, parameters)) (around : Nat → Surroundings)
    (d : σ) :
    site.serve r around d =
      (answered r resource ((site.handle r resource parameters).run around d).1,
        ((site.handle r resource parameters).run around d).2) := by
  unfold serve respond
  rw [hfind]
  dsimp only
  rw [Plan.run_mapResult]
  cases ((site.handle r resource parameters).run around d).1 <;> rfl

/-- A path that leads nowhere is not found, and the store is not asked. -/
theorem serve_of_not_find {σ : Type} [AccountStore σ] (hfind : site.router.find? r.path = none)
    (around : Nat → Surroundings) (d : σ) : site.serve r around d = (.bare 404, d) := by
  unfold serve respond
  rw [hfind]
  rfl

/-- A request that is no login, whose token names a user who is no admin. -/
theorem handle_foreseen {me : User} {renames : Prop}
    (hlogin : resource.handler? r.method ≠ some .login) (hnamed : r.Names me)
    (hme : me.role ≠ .admin) (known : K (.byId me.id) (.ok me)) (htimes : me.TimesAll T)
    (hnames : resource.handler? r.method = some .updateUser →
      ∀ value text, parameters = [value] → Text.percentText? value = some text →
        Validation.userId text = .ok me.id →
        renames ∧ ∀ username, ∃ answer, K (.byName username) answer) :
    (site.handle r resource parameters).Foreseen K T (Write.Concerns me T renames) := by
  unfold handle
  cases hendpoint : resource.handler? r.method with
  | none => exact Services.caller_foreseen hnamed known fun _ _ => .done _
  | some endpoint =>
    refine Services.caller_foreseen hnamed known fun caller hcaller => ?_
    refine Services.answer_foreseen ?_ hme hcaller known htimes ?_
    · rintro rfl
      exact hlogin hendpoint
    · rintro rfl text htext hid
      obtain ⟨value, hparameters, hvalue⟩ := Inquiry.parameters_of_parameter htext
      exact hnames hendpoint value text hparameters hvalue hid

/-- A login whose body can be read. -/
theorem login_foreseen (hlogin : resource.handler? r.method = some .login) {c : LoginCredentials}
    (hbody : r.json LoginCredentials.decode = .ok c) {answer : Except StoreError User}
    (known : K (.byName c.username) answer)
    (allowed : ∀ u now, answer = .ok u →
      site.services.accounts.hasher.verify c.password u.passwordHash = .ok () →
      T now → W (.update u.id { u with lastLogin := some now })) :
    (site.handle r resource parameters).Foreseen K T W := by
  unfold handle
  rw [hlogin]
  show (Handling.part (r.json LoginCredentials.decode) >>= _).Foreseen K T W
  rw [hbody]
  exact Handling.account_foreseen
    (Accounts.login_foreseen known allowed) site.services.issue_outside

end Site

end AccountServer
