import Mathlib.Data.List.Basic
import AccountServer.Proofs.Token.Roundtrip
import AccountServer.Server.Site

/-!
# What a request says

A token that the server has issued goes through the header of a request unchanged
(`bearer?_of_sign`). Which endpoint of the account service a request means is told from method and
path: a router finds a resource only if its pattern matches the path (`find?_eq_some`), and finds it
if no other one does (`find?_of_only`). The account service has just the resources of
`accountRouter`.
-/

namespace AccountServer

/-! ## Tokens in headers -/

/-- Characters that a header may have, without blanks. -/
def IsVisible (c : Char) : Prop := 0x20 < c.toNat ∧ c.toNat < 0x7F

theorem IsVisible.isBlank_eq_false {c : Char} (h : IsVisible c) : Text.isBlank c = false := by
  obtain ⟨hlow, hhigh⟩ := h
  simp only [Text.isBlank, Bool.or_eq_false_iff, Bool.and_eq_false_iff, decide_eq_false_iff_not,
    beq_eq_false_iff_ne]
  omega

theorem Crypto.Base64.isVisible_of_mem_encode {bytes : Bytes} {c : Char}
    (h : c ∈ encode .forUrl bytes) : IsVisible c := by
  have hchar : ∀ d < 64, 0x20 < (Alphabet.forUrl.char d).toNat ∧
      (Alphabet.forUrl.char d).toNat < 0x7F := by
    decide
  obtain ⟨d, hd, rfl⟩ := List.mem_map.mp h
  exact hchar d (digits_lt bytes d hd)

theorem Token.isVisible_of_mem_sign {mac : Mac} {key : Crypto.Bytes} {claims : Claims} {c : Char}
    (h : c ∈ (sign mac key claims).toList) : IsVisible c := by
  simp only [sign, String.toList_ofList, List.append_assoc, List.cons_append, List.mem_append,
    List.mem_cons] at h
  rcases h with h | rfl | h | rfl | h
  · exact Crypto.Base64.isVisible_of_mem_encode h
  · exact ⟨by decide, by decide⟩
  · exact Crypto.Base64.isVisible_of_mem_encode h
  · exact ⟨by decide, by decide⟩
  · exact Crypto.Base64.isVisible_of_mem_encode h

theorem Request.bearer?_of_visible {r : Request} {token : String}
    (hheader : r.authorization = some ("Bearer " ++ token))
    (hvisible : ∀ c ∈ token.toList, IsVisible c) : r.bearer? = some token := by
  -- A token begins with no blank, so that none of it is trimmed.
  have hblank : Text.trimStart token.toList = token.toList := by
    unfold Text.trimStart
    cases hcs : token.toList with
    | nil => rfl
    | cons c cs =>
      have hc : Text.isBlank c = false :=
        (hvisible c (by rw [hcs]; exact List.mem_cons_self)).isBlank_eq_false
      rw [List.dropWhile_cons, hc]
      rfl
  have hchars : ("Bearer " ++ token).toList = "Bearer ".toList ++ token.toList :=
    String.toList_append
  have hall : ("Bearer ".toList ++ token.toList).all
      (fun c => c == '\t' || (0x20 ≤ c.toNat && c.toNat < 0x7F)) = true := by
    rw [List.all_append, Bool.and_eq_true]
    refine ⟨by decide, List.all_eq_true.mpr fun c hc => ?_⟩
    obtain ⟨hlow, hhigh⟩ := hvisible c hc
    simp [hhigh, Nat.le_of_lt hlow]
  have hscheme : Text.lowerAscii (String.ofList ("Bearer ".toList.take 6)) = "bearer" := by
    refine String.toList_injective ?_
    rw [Text.lowerAscii, String.toList_map, String.toList_ofList]
    decide
  have htake : ("Bearer ".toList ++ token.toList).take 6 = "Bearer ".toList.take 6 := rfl
  have hdrop : ("Bearer ".toList ++ token.toList).drop 6 = ' ' :: token.toList := rfl
  unfold bearer?
  rw [hheader]
  dsimp only [bind, Option.bind]
  rw [hchars, hall, htake, hscheme, hdrop, if_pos (by decide)]
  show some (String.ofList (Text.trimStart token.toList)) = some token
  rw [hblank, String.ofList_toList]

/-- A token that has been issued is presented as it is. -/
theorem Request.bearer?_of_sign {r : Request} {mac : Token.Mac} {key : Crypto.Bytes}
    {claims : Claims} (hheader : r.authorization = some ("Bearer " ++ Token.sign mac key claims)) :
    r.bearer? = some (Token.sign mac key claims) :=
  bearer?_of_visible hheader fun _ => Token.isVisible_of_mem_sign

/-! ## Patterns -/

namespace PathPattern

/-- A pattern that begins with letters matches a path that begins with them. -/
theorem match?_letters_append {cs : List Char} {pattern : PathPattern} {path : List Char}
    {values : List (List Char)} (h : match? (cs.map .letter ++ pattern) path = some values) :
    ∃ rest, path = cs ++ rest ∧ match? pattern rest = some values := by
  induction cs generalizing path with
  | nil => exact ⟨path, rfl, h⟩
  | cons c cs ih =>
    cases path with
    | nil => cases h
    | cons d path =>
      rw [List.map_cons, List.cons_append, match?] at h
      by_cases hc : c = d
      · rw [if_pos hc] at h
        obtain ⟨rest, rfl, hrest⟩ := ih h
        exact ⟨rest, by rw [hc, List.cons_append], hrest⟩
      · rw [if_neg hc] at h
        cases h

theorem match?_nil {path : List Char} {values : List (List Char)}
    (h : match? [] path = some values) : path = [] ∧ values = [] := by
  cases path with
  | nil =>
    cases h
    exact ⟨rfl, rfl⟩
  | cons c path => cases h

/-- A parameter at the end of a pattern takes all that is left of the path. -/
theorem match?_parameter {name path : List Char} {values : List (List Char)}
    (h : match? [.parameter name] path = some values) : values = [path] := by
  rw [match?] at h
  split at h
  · cases h
  · obtain ⟨rest, hrest, rfl⟩ := Option.map_eq_some_iff.mp h
    obtain ⟨hend, rfl⟩ := match?_nil hrest
    have hlength := List.drop_eq_nil_iff.mp hend
    have hbegins := List.takeWhile_prefix (l := path) (· != '/')
    rw [hbegins.eq_of_length_le hlength]

end PathPattern

/-! ## Routers -/

theorem Resource.handler?_eq_some {H : Type} {resource : Resource H} {method : String} {handler : H}
    (h : resource.handler? method = some handler) :
    ∃ m, (m, handler) ∈ resource.handlers ∧ method ∈ m.names := by
  obtain ⟨⟨m, _⟩, hfind, rfl⟩ := Option.map_eq_some_iff.mp h
  exact ⟨m, List.mem_of_find?_eq_some hfind, by simpa using List.find?_some hfind⟩

/-- What is found is a resource of the router that matches the path. -/
theorem Router.find?_eq_some {H : Type} {router : Router H} {path : List Char}
    {resource : Resource H} {values : List (List Char)}
    (h : router.find? path = some (resource, values)) :
    resource ∈ router.resources ∧ resource.pattern.match? path = some values := by
  revert resource values
  refine List.foldlRecOn (motive := fun best : Option (Resource H × List (List Char)) =>
    ∀ {resource values}, best = some (resource, values) →
      resource ∈ router.resources ∧ resource.pattern.match? path = some values)
    router.resources _ ?_ ?_
  · intro resource values hnone
    cases hnone
  · -- A resource that matches takes the place of the best one so far, or leaves it there.
    intro best hbest r hr resource values heq
    split at heq
    · exact hbest heq
    · next values' hmatch =>
      cases heq
      exact ⟨hr, hmatch⟩
    · next values' other others hmatch =>
      split at heq
      · cases heq
        exact ⟨hr, hmatch⟩
      · exact hbest heq

/-- The router of the account service, a resource for each of its routes. -/
def accountRouter : Router Endpoint :=
  ⟨Endpoint.accountRoutes.map fun (path, handlers) =>
    ⟨path.toList, (PathPattern.parse? path.toList).getD [], handlers⟩⟩

theorem ofRoutes_accountRoutes :
    Router.ofRoutes Endpoint.accountRoutes = .ok accountRouter := by
  cbv

theorem pattern_userResource :
    (PathPattern.parse? "/users/:id".toList).getD [] =
      "/users/".toList.map .letter ++ [.parameter "id".toList] := by
  cbv

namespace Request

/-- The request asks for a login. -/
def IsLogin (r : Request) : Prop := r.method = "POST" ∧ r.path = "/login".toList

instance (r : Request) : Decidable r.IsLogin :=
  inferInstanceAs (Decidable (r.method = "POST" ∧ r.path = "/login".toList))

/-- The request asks for a change of identity of the user with this identifier, in whatever form it
is written in the path. -/
def ChangesIdentity (r : Request) (id : Uuid) : Prop :=
  r.method = "PUT" ∧ ∃ value text, r.path = "/users/".toList ++ value ∧
    Text.percentText? value = some text ∧ Uuid.parse? text = some id

end Request

namespace Site

variable {services : Services} {site : Site}

theorem ofAccounts_eq (services : Services) :
    ofAccounts services = .ok { services, router := accountRouter } := by
  unfold ofAccounts
  rw [ofRoutes_accountRoutes]
  rfl

theorem of_ofAccounts (h : ofAccounts services = .ok site) :
    services = site.services ∧ site.router = accountRouter := by
  rw [ofAccounts_eq] at h
  cases h
  exact ⟨rfl, rfl⟩

/-- A handler that is found belongs to a route, whose path is read as a pattern that matches. -/
theorem exists_route {path : List Char} {resource : Resource Endpoint} {values : List (List Char)}
    (hfind : accountRouter.find? path = some (resource, values)) {method : String} {e : Endpoint}
    (hhandler : resource.handler? method = some e) :
    ∃ route handlers m, (route, handlers) ∈ Endpoint.accountRoutes ∧ (m, e) ∈ handlers ∧
      method ∈ m.names ∧
      ((PathPattern.parse? route.toList).getD []).match? path = some values := by
  obtain ⟨hmem, hmatch⟩ := Router.find?_eq_some hfind
  obtain ⟨⟨route, handlers⟩, hroute, rfl⟩ := List.mem_map.mp hmem
  obtain ⟨m, hm, hmethod⟩ := Resource.handler?_eq_some hhandler
  exact ⟨route, handlers, m, hroute, hm, hmethod, hmatch⟩

/-- Only a request to log in comes to the login. -/
theorem isLogin_of_handler? {r : Request} {resource : Resource Endpoint}
    {values : List (List Char)} (hfind : accountRouter.find? r.path = some (resource, values))
    (hhandler : resource.handler? r.method = some .login) : r.IsLogin := by
  -- Logins have one route, whose pattern is the text of its path.
  have honly : ∀ route ∈ Endpoint.accountRoutes, ∀ h ∈ route.2, h.2 = .login →
      route.1 = "/login" ∧ h.1 = .post := by
    decide
  obtain ⟨route, handlers, m, hroute, hm, hmethod, hmatch⟩ := exists_route hfind hhandler
  obtain ⟨rfl, rfl⟩ := honly _ hroute _ hm rfl
  have hpattern : (PathPattern.parse? "/login".toList).getD [] =
      "/login".toList.map .letter ++ [] := by
    cbv
  rw [hpattern] at hmatch
  obtain ⟨rest, hpath, hend⟩ := PathPattern.match?_letters_append hmatch
  obtain ⟨rfl, -⟩ := PathPattern.match?_nil hend
  exact ⟨by simpa [Method.names, Method.name] using hmethod, by rw [hpath, List.append_nil]⟩

theorem path_of_updateUser {r : Request} {resource : Resource Endpoint}
    {values : List (List Char)} (hfind : accountRouter.find? r.path = some (resource, values))
    (hhandler : resource.handler? r.method = some .updateUser) :
    r.method = "PUT" ∧ ∃ value, values = [value] ∧ r.path = "/users/".toList ++ value := by
  have honly : ∀ route ∈ Endpoint.accountRoutes, ∀ h ∈ route.2, h.2 = .updateUser →
      route.1 = "/users/:id" ∧ h.1 = .put := by
    decide
  obtain ⟨route, handlers, m, hroute, hm, hmethod, hmatch⟩ := exists_route hfind hhandler
  obtain ⟨rfl, rfl⟩ := honly _ hroute _ hm rfl
  rw [pattern_userResource] at hmatch
  obtain ⟨value, hpath, hend⟩ := PathPattern.match?_letters_append hmatch
  exact ⟨by simpa [Method.names, Method.name] using hmethod, value,
    PathPattern.match?_parameter hend, hpath⟩

/-- A request for a login finds the handler for it. -/
theorem exists_handler_of_isLogin {r : Request} (h : r.IsLogin) :
    ∃ resource, accountRouter.find? r.path = some (resource, []) ∧
      resource.handler? r.method = some .login := by
  have hfind : accountRouter.find? "/login".toList =
      some (⟨"/login".toList, "/login".toList.map .letter, [(.post, .login)]⟩, []) := by
    cbv
  rw [h.1, h.2]
  exact ⟨_, hfind, by decide⟩

end Site

end AccountServer
