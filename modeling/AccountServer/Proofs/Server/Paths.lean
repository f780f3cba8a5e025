import AccountServer.Proofs.Config.Base
import AccountServer.Proofs.Http.Mount
import AccountServer.Server.Site

/-!
# Paths of components

The last letter of a path is the same below any mount point, unless it is the root
(`Route.last_under`). No path of the account service ends as one of the greetings does, nor does any
of them end as the state of health (`Component.last_ne_last`, `Component.last_ne`). So wherever
components are mounted, only the echo component can get in the way of another one, because its path
is its base (`not_clash_of_ne`), and none gets in the way of the state of health
(`not_clash_health`).
-/

namespace AccountServer

open PathPattern

/-! ## Last letters -/

namespace Route

/-- The last letter of the path, if it is a pattern and does not end with a parameter. -/
def last (a : Route) : Option (Option Char) := (shape? a.path).bind List.getLast?

theorem Clash.last_eq {a b : Route} : a.Clash b → a.last = b.last
  | .inl heq => congrArg last heq
  | .inr ⟨_, s, ha, hb⟩ => by rw [last, last, ha, hb]

/-- A route without parameters is the only one that it clashes with. -/
theorem Clash.eq_of_letters {a b : Route} (hletters : shape? a.path = some (a.path.map some)) :
    a.Clash b → a = b
  | .inl heq => heq
  | .inr ⟨hne, s, ha, hb⟩ => by
    rw [hletters] at ha
    rw [← ha] at hb
    exact absurd (eq_of_shape? hb).symm hne

/-- Below a mount point, all but the root end as they did. -/
theorem last_under {base : String} {a : Route} (hbase : IsPath base.toList)
    (hroot : a.path.head? = some '/') (hlast : a.last ≠ some (some '/')) :
    (a.under base).last = a.last := by
  obtain ⟨b, hb⟩ := exists_shape?_iff.mpr hbase
  unfold last at *
  show (shape? (mounted base a.path)).bind List.getLast? = _
  rw [shape?_mounted hb hroot]
  cases hs : shape? a.path with
  | none => rfl
  | some s =>
    have hne : s ≠ [some '/'] := by
      rintro rfl
      exact hlast (by rw [hs]; rfl)
    rw [Option.map_some, Option.bind_some, Option.bind_some, shapeUnder]
    simp only [hne, if_false]
    split
    · rfl
    · exact List.getLast?_append_of_ne_nil _ (shape_ne_nil hroot hs)

end Route

/-! ## Routes of components -/

/-- A table of routes that can be put together makes a well-formed router with these routes. -/
theorem Router.exists_ofRoutes {H : Type} {routes : List (String × List (Method × H))}
    {expected : List Route} (hroutes : ∀ r ∈ routes, r.1.toList.head? = some '/' ∧ r.2 ≠ [])
    (h : (ofRoutes routes).map Router.routes = .ok expected) :
    ∃ router, ofRoutes routes = .ok router ∧ router.WellFormed ∧ router.routes = expected := by
  obtain ⟨router, hok, hexpected⟩ := map_eq_ok_iff.mp h
  have hadding := Adding.foldlM fun r hr => adding_add (hroutes r hr).1 (hroutes r hr).2
  exact ⟨router, hok, (hadding.result wellFormed_empty hok).1, hexpected⟩

namespace Component

/-- The routes that a component serves. -/
def served (c : Component) : List Route :=
  c.routes.flatMap fun (path, handlers) => Route.ofHandlers path.toList handlers

theorem exists_router (c : Component) :
    ∃ router, Router.ofRoutes c.routes = .ok router ∧ router.WellFormed ∧
      router.routes = c.served := by
  refine Router.exists_ofRoutes ?_ ?_
  · cases c <;> decide
  · cases c <;> cbv

theorem rooted (c : Component) : ∀ a ∈ c.served, a.path.head? = some '/' := by
  obtain ⟨router, -, hwell, hroutes⟩ := c.exists_router
  exact fun a ha => hwell.rooted_route (hroutes ▸ ha)

theorem served_ne_nil (c : Component) : c.served ≠ [] := by
  cases c <;> decide

/-- How the paths of a component end. -/
def endings : Component → List (Option (Option Char))
  | .auth => [some (some 'n'), some (some 'o'), some none, some (some 's'), some (some 's'),
      some (some 's'), some none, some none, some none, some (some 'd')]
  | .echo => [some (some '/')]
  | .hello => [some (some 'e'), some (some 'e'), some (some 'm'), some (some 't')]

theorem map_last_served (c : Component) : c.served.map Route.last = c.endings := by
  cases c <;> cbv

theorem last_mem_endings {c : Component} {a : Route} (h : a ∈ c.served) : a.last ∈ c.endings :=
  c.map_last_served ▸ List.mem_map_of_mem h

/-- Only the echo component serves its root, and none ends as the state of health does. -/
theorem last_ne {c : Component} {a : Route} (hc : c ≠ .echo) (h : a ∈ c.served) :
    a.last ≠ some (some '/') ∧ a.last ≠ some (some 'h') := by
  have hall : ∀ c : Component, c ≠ .echo →
      ∀ x ∈ c.endings, x ≠ some (some '/') ∧ x ≠ some (some 'h') := by
    rintro (_ | _ | _) <;> decide
  exact hall c hc _ (last_mem_endings h)

/-- The other components end differently. -/
theorem last_ne_last {c d : Component} {a b : Route} (hcd : c ≠ d) (hc : c ≠ .echo)
    (hd : d ≠ .echo) (ha : a ∈ c.served) (hb : b ∈ d.served) : a.last ≠ b.last := by
  have hapart : ∀ c d : Component, c ≠ d → c ≠ .echo → d ≠ .echo →
      ∀ x ∈ c.endings, ∀ y ∈ d.endings, x ≠ y := by
    rintro (_ | _ | _) (_ | _ | _) <;> decide
  exact hapart c d hcd hc hd _ (last_mem_endings ha) _ (last_mem_endings hb)

end Component

/-! ## Mounted components -/

theorem isMount_normalizeBase (base : String) : IsMount (normalizeBase base) :=
  ⟨head?_normalizeBase base, getLast?_normalizeBase_eq_slash_iff.mp⟩

/-- Every base that a component gets is fit to be mounted under. -/
theorem isMount_baseFor (api : ApiConfig) (c : Component) : IsMount (api.baseFor c.name) := by
  unfold ApiConfig.baseFor
  split
  · exact isMount_normalizeBase _
  · cases c <;> exact ⟨by decide, fun h => absurd h (by decide)⟩

theorem Route.under_of_mem_echo {base : String} {a : Route} (h : a ∈ Component.echo.served) :
    a.under base = ⟨base.toList, .post⟩ := by
  obtain rfl : a = ⟨['/'], .post⟩ := by simpa using (show a ∈ [(⟨['/'], .post⟩ : Route)] from h)
  unfold Route.under mounted
  split
  · next hbase => rw [hbase]; rfl
  · rfl

/-- Two components come into conflict only if one of them is the echo component. -/
theorem not_clash_of_ne {c d : Component} {base other : String} {a b : Route} (hcd : c ≠ d)
    (hc : c ≠ .echo) (hd : d ≠ .echo) (ha : a ∈ c.served) (hb : b ∈ d.served)
    (hbase : IsPath base.toList) (hother : IsPath other.toList) :
    ¬ (a.under base).Clash (b.under other) := by
  intro hclash
  refine Component.last_ne_last hcd hc hd ha hb ?_
  rw [← Route.last_under hbase (c.rooted a ha) (Component.last_ne hc ha).1,
    ← Route.last_under hother (d.rooted b hb) (Component.last_ne hd hb).1]
  exact hclash.last_eq

theorem exists_own : ∃ own, Router.ofRoutes Endpoint.serverRoutes = .ok own ∧ own.WellFormed ∧
    own.routes = [⟨"/health".toList, .get⟩] :=
  Router.exists_ofRoutes (by decide) (by cbv)

/-- No component gets in the way of the state of health. -/
theorem not_clash_health {c : Component} {a : Route} (ha : a ∈ c.served) {base server : String}
    (hmount : IsMount base) (hbase : IsPath base.toList) (hserver : IsPath server.toList) :
    ¬ (⟨"/health".toList, .get⟩ : Route).Clash ((a.under base).under server) := by
  intro hclash
  have heq := hclash.eq_of_letters (by cbv)
  by_cases hc : c = .echo
  · subst hc
    rw [Route.under_of_mem_echo ha] at heq
    exact absurd (congrArg Route.method heq) (by simp [Route.under])
  · obtain ⟨hroot, hhealth⟩ := Component.last_ne hc ha
    have hlast := Route.last_under hbase (c.rooted a ha) hroot
    have hlast' := Route.last_under hserver (head?_mounted hmount (c.rooted a ha)) (by rwa [hlast])
    refine hhealth ?_
    rw [← hlast, ← hlast', ← heq]
    cbv

end AccountServer
