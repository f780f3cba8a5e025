import AccountServer.Proofs.Server.Privileges

/-!
# Requests that lead to an endpoint

A request leads to an endpoint if the router of the site finds it under path and method, wherever
the routes of its component are mounted. Then the response is what the endpoint answers, be it early
or at the end.

* Where nothing has to be known about the caller, the endpoint is asked at once (`serve_of_open`).
* Where there has to be a token, and the request presents a good one, the endpoint is asked by its
  user (`serve_of_presents`).
-/

namespace AccountServer.Site

/-- The request comes to this endpoint with these parameters, and it wants more than the headers. -/
structure LeadsTo (site : Site) (r : Request) (e : Endpoint) (parameters : List (List Char)) :
    Prop where
  found : ∃ resource, site.router.find? r.path = some (resource, parameters) ∧
    resource.handler? r.method = some e
  body : r.method ≠ "HEAD"

/-- The response that a request came to. -/
def response : Except Response Response → Response
  | .ok response | .error response => response

variable {σ : Type} [AccountStore σ] {site : Site} {r : Request} {e : Endpoint}
  {parameters : List (List Char)} {around : Nat → Surroundings} {d : σ}

theorem serve_of_leadsTo (h : site.LeadsTo r e parameters) (around : Nat → Surroundings) (d : σ) :
    site.serve r around d =
      let done := (site.services.caller e.guard r >>= fun caller =>
        site.services.answer site.hello e ⟨r, parameters, caller⟩).run around d
      (response done.1, done.2) := by
  obtain ⟨resource, hfind, hhandler⟩ := h.found
  have hanswered (result : Except Response Response) :
      answered r resource result = response result := by
    cases result <;> simp [answered, sent, response, hhandler, h.body]
  rw [serve_of_find hfind, hanswered]
  unfold handle
  rw [hhandler]

/-- An endpoint without a guard is answered to anybody. -/
theorem serve_of_open (h : site.LeadsTo r e parameters) (hguard : e.guard = .none)
    (around : Nat → Surroundings) (d : σ) :
    site.serve r around d =
      let done := (site.services.answer site.hello e ⟨r, parameters, none⟩).run around d
      (response done.1, done.2) := by
  rw [serve_of_leadsTo h, hguard]
  rfl

theorem run_caller_of_presents {services : Services} {caller : User}
    (hcaller : services.Presents r around d caller) :
    (services.caller .required r).run around d = (.ok (some caller), d) := by
  obtain ⟨token, hbearer, haccepts⟩ := hcaller
  have haccount : (Handling.account (services.tokens.authenticate token)).run around d =
      (.ok caller, d) := by
    rw [Handling.account, Plan.mapError, Plan.run_mapResult, haccepts]
    rfl
  obtain ⟨m, hm⟩ := Plan.run_bind_ok (fun u => (pure (some u) : Handling (Option User))) haccount
  unfold Services.caller
  rw [hbearer]
  exact hm

/-- Finding out who calls takes some questions, after which the endpoint is asked. -/
theorem serve_of_presents (h : site.LeadsTo r e parameters) (hguard : e.guard = .required)
    {caller : User} (hcaller : site.services.Presents r around d caller) :
    ∃ m, site.serve r around d =
      let done := (site.services.answer site.hello e ⟨r, parameters, some caller⟩).run
        (fun n => around (n + m)) d
      (response done.1, done.2) := by
  obtain ⟨m, hm⟩ := Plan.run_bind_ok
    (fun caller => site.services.answer site.hello e ⟨r, parameters, caller⟩)
    (run_caller_of_presents hcaller)
  exact ⟨m, by rw [serve_of_leadsTo h, hguard, hm]⟩

/-! ## The account service -/

/-- A login with a good body asks the accounts and then issues a token. -/
theorem answer_login {services : Services} {c : LoginCredentials} {caller : Option User}
    (hbody : r.json LoginCredentials.decode = .ok c) (hello : HelloSettings) :
    services.answer hello .login ⟨r, parameters, caller⟩ =
      (Handling.account (services.accounts.login c.username c.password) >>= services.issue) := by
  show (Handling.part (r.json LoginCredentials.decode) >>= _ : Handling Response) = _
  rw [hbody]
  rfl

theorem leadsTo_of_isLogin (hrouter : site.router = accountRouter) (h : r.IsLogin) :
    site.LeadsTo r .login [] := by
  obtain ⟨resource, hfind, hhandler⟩ := exists_handler_of_isLogin h
  refine ⟨⟨resource, hrouter ▸ hfind, hhandler⟩, ?_⟩
  rw [h.1]
  decide

theorem leadsTo_listUsers (hrouter : site.router = accountRouter) (hmethod : r.method = "GET")
    (hpath : r.path = "/users".toList) : site.LeadsTo r .listUsers [] := by
  have hfind : accountRouter.find? "/users".toList =
      some (⟨"/users".toList, "/users".toList.map .letter,
        [(.get, .listUsers), (.post, .createUser)]⟩, []) := by
    cbv
  refine ⟨⟨_, by rw [hrouter, hpath, hfind], ?_⟩, ?_⟩
  · rw [hmethod]
    decide
  · rw [hmethod]
    decide

end AccountServer.Site
