import Mathlib.Data.List.Nodup
import AccountServer.Http.Router
import AccountServer.Proofs.Except
import AccountServer.Proofs.Http.Pattern

/-!
# Routers that are put together

A router is well-formed if its paths are patterns of different shapes. `Added` says all that comes
of adding handlers for a path to such a router. From it follows what every way of putting routers
together comes to: it succeeds if all paths are patterns and no two routes clash, and then there are
the routes of both.
-/

namespace AccountServer

open PathPattern

/-! ## Routes -/

/-- A path that is asked with a method. -/
structure Route where
  path : List Char
  method : Method
  deriving DecidableEq

/-- The routes of a path with its handlers. -/
def Route.ofHandlers {H : Type} (path : List Char) (handlers : List (Method × H)) : List Route :=
  handlers.map fun h => ⟨path, h.1⟩

/-- Two routes that no router has both: they are the same, or the paths are different and match the
same. -/
def Route.Clash (a b : Route) : Prop :=
  a = b ∨ a.path ≠ b.path ∧ ∃ s, shape? a.path = some s ∧ shape? b.path = some s

theorem Route.Clash.symm {a b : Route} : a.Clash b → b.Clash a
  | .inl heq => .inl heq.symm
  | .inr ⟨hne, s, ha, hb⟩ => .inr ⟨hne.symm, s, hb, ha⟩

/-- A resource has a route for each method that it handles. -/
theorem Route.mem_ofHandlers {H : Type} {path : List Char} {handlers : List (Method × H)}
    {a : Route} :
    a ∈ ofHandlers path handlers ↔ a.path = path ∧ ∃ h ∈ handlers, h.1 = a.method := by
  constructor
  · intro h
    obtain ⟨k, hk, rfl⟩ := List.mem_map.mp h
    exact ⟨rfl, k, hk, rfl⟩
  · rintro ⟨rfl, k, hk, hmethod⟩
    exact List.mem_map.mpr ⟨k, hk, by rw [hmethod]⟩

namespace Router

variable {H : Type} {router router' : Router H} {path : List Char} {handlers : List (Method × H)}

/-- The routes that a router serves. -/
def routes (router : Router H) : List Route :=
  router.resources.flatMap fun r => Route.ofHandlers r.path r.handlers

theorem mem_routes {a : Route} :
    a ∈ router.routes ↔ ∃ r ∈ router.resources, a ∈ Route.ofHandlers r.path r.handlers :=
  List.mem_flatMap

/-- The paths are patterns of different shapes, which begin with a slash, and each is served. -/
structure WellFormed (router : Router H) : Prop where
  rooted : ∀ r ∈ router.resources, r.path.head? = some '/'
  pattern : ∀ r ∈ router.resources, parse? r.path = some r.pattern
  served : ∀ r ∈ router.resources, r.handlers ≠ []
  distinct : (router.resources.map fun r => shape r.pattern).Nodup

theorem wellFormed_empty : (empty : Router H).WellFormed where
  rooted := List.forall_mem_nil _
  pattern := List.forall_mem_nil _
  served := List.forall_mem_nil _
  distinct := List.nodup_nil

theorem WellFormed.shape? (h : router.WellFormed) {r : Resource H} (hr : r ∈ router.resources) :
    shape? r.path = some (shape r.pattern) := by
  rw [PathPattern.shape?, h.pattern r hr, Option.map_some]

/-- A well-formed router has one resource of a shape at most. -/
theorem WellFormed.eq_of_shape (h : router.WellFormed) {r s : Resource H}
    (hr : r ∈ router.resources) (hs : s ∈ router.resources)
    (heq : shape r.pattern = shape s.pattern) : r = s :=
  List.inj_on_of_nodup_map h.distinct hr hs heq

theorem WellFormed.eq_of_path (h : router.WellFormed) {r s : Resource H}
    (hr : r ∈ router.resources) (hs : s ∈ router.resources) (heq : r.path = s.path) : r = s := by
  refine h.eq_of_shape hr hs (Option.some.inj ?_)
  rw [← h.shape? hr, ← h.shape? hs, heq]

/-! ## Adding handlers -/

/-- What comes of adding handlers for a path: it has more of them, none of which it had, or it is
new, and so is its shape. -/
inductive Added (router : Router H) (path : List Char) (handlers : List (Method × H))
    (router' : Router H) : Prop where
  | more (before after : List (Resource H)) (r : Resource H)
      (resources : router.resources = before ++ r :: after) (same : r.path = path)
      (apart : ∀ h ∈ handlers, ∀ k ∈ r.handlers, k.1 ≠ h.1)
      (result : router' = ⟨before ++ { r with handlers := r.handlers ++ handlers } :: after⟩)
  | new (pattern : PathPattern) (read : parse? path = some pattern)
      (other : ∀ r ∈ router.resources, r.path ≠ path ∧ shape r.pattern ≠ shape pattern)
      (result : router' = ⟨router.resources ++ [⟨path, pattern, handlers⟩]⟩)

/-- A resource takes further methods unless it has one of them already. -/
theorem extend_eq_ok_iff {r r' : Resource H} :
    r.extend handlers = .ok r' ↔
      (∀ h ∈ handlers, ∀ k ∈ r.handlers, k.1 ≠ h.1) ∧
        r' = { r with handlers := r.handlers ++ handlers } := by
  unfold Resource.extend
  split
  · next m handler hfind =>
    have hany := List.find?_some hfind
    obtain ⟨k, hk, heq⟩ := List.any_eq_true.mp hany
    refine ⟨nofun, fun ⟨hapart, _⟩ => ?_⟩
    exact absurd (of_decide_eq_true heq) (hapart _ (List.mem_of_find?_eq_some hfind) k hk)
  · next hfind =>
    have hapart : ∀ h ∈ handlers, ∀ k ∈ r.handlers, k.1 ≠ h.1 := fun h hh k hk heq =>
      List.find?_eq_none.mp hfind h hh (List.any_eq_true.mpr ⟨k, hk, decide_eq_true heq⟩)
    constructor
    · intro hok
      exact ⟨hapart, (Except.ok.inj hok).symm⟩
    · rintro ⟨-, rfl⟩
      rfl

theorem modify_eq {f : Resource H → Except RouteFault (Resource H)} {r : Resource H}
    {after : List (Resource H)} (same : r.path = path) : ∀ {before : List (Resource H)},
    (∀ s ∈ before, s.path ≠ path) →
      modify path f (before ++ r :: after) = (f r).map (before ++ · :: after)
  | [], _ => by
    rw [List.nil_append, modify, if_pos same]
    cases f r <;> rfl
  | s :: before, hbefore => by
    obtain ⟨hs, hbefore⟩ := List.forall_mem_cons.mp hbefore
    rw [List.cons_append, modify, if_neg hs, modify_eq same hbefore]
    cases f r <;> rfl

/-- A path that is there gets further methods, and the other resources stay where they are. -/
theorem add_of_path {before after : List (Resource H)} {r : Resource H}
    (resources : router.resources = before ++ r :: after) (same : r.path = path)
    (hbefore : ∀ s ∈ before, s.path ≠ path) :
    router.add path handlers =
      (r.extend handlers).map fun r' => ⟨before ++ r' :: after⟩ := by
  have hany : (router.resources.any fun r => r.path = path) = true := by
    rw [resources]
    simp [same]
  rw [add, if_pos hany, resources, modify_eq same hbefore]
  cases r.extend handlers <;> rfl

theorem add_of_new (hnew : ∀ r ∈ router.resources, r.path ≠ path) :
    router.add path handlers =
      match parse? path with
      | none => .error (.malformed path)
      | some pattern =>
        match router.resources.find? fun r => r.pattern.sameShape pattern with
        | some r => .error (.conflict path r.path)
        | none => .ok ⟨router.resources ++ [⟨path, pattern, handlers⟩]⟩ := by
  have hany : ¬ (router.resources.any fun r => r.path = path) = true := by
    simpa using hnew
  rw [add]
  exact if_neg hany

/-- The first resource of a path, with those before and after it. -/
theorem exists_first (h : ∃ r ∈ router.resources, r.path = path) :
    ∃ before r after, router.resources = before ++ r :: after ∧ r.path = path ∧
      ∀ s ∈ before, s.path ≠ path := by
  obtain ⟨r, hr, same⟩ := h
  have hfind : (router.resources.find? fun r => r.path = path).isSome = true :=
    List.find?_isSome.mpr ⟨r, hr, decide_eq_true same⟩
  obtain ⟨first, hfirst⟩ := Option.isSome_iff_exists.mp hfind
  obtain ⟨hpath, before, after, hresources, hbefore⟩ := List.find?_eq_some_iff_append.mp hfirst
  exact ⟨before, first, after, hresources, of_decide_eq_true hpath,
    fun s hs heq => by simpa [heq] using hbefore s hs⟩

/-- All that adding handlers can come to. -/
theorem added_of_add (h : router.add path handlers = .ok router') :
    router.Added path handlers router' := by
  by_cases hpath : ∃ r ∈ router.resources, r.path = path
  · obtain ⟨before, r, after, hresources, same, hbefore⟩ := exists_first hpath
    rw [add_of_path hresources same hbefore] at h
    obtain ⟨r', hr', rfl⟩ := map_eq_ok_iff.mp h
    obtain ⟨hapart, rfl⟩ := extend_eq_ok_iff.mp hr'
    exact .more before after r hresources same hapart rfl
  · have hnew : ∀ r ∈ router.resources, r.path ≠ path := fun r hr heq => hpath ⟨r, hr, heq⟩
    rw [add_of_new hnew] at h
    split at h
    · contradiction
    · next pattern hread =>
      split at h
      · contradiction
      · next hfind =>
        refine .new pattern hread (fun r hr => ⟨hnew r hr, fun hshape => ?_⟩) (Except.ok.inj h).symm
        exact List.find?_eq_none.mp hfind r hr (sameShape_iff.mpr hshape)

/-- A resource has a route, because it is served. -/
theorem WellFormed.exists_route (h : router.WellFormed) {r : Resource H}
    (hr : r ∈ router.resources) : ∃ a ∈ router.routes, a.path = r.path := by
  obtain ⟨k, hk⟩ := List.exists_mem_of_ne_nil _ (h.served r hr)
  exact ⟨⟨r.path, k.1⟩, mem_routes.mpr ⟨r, hr, Route.mem_ofHandlers.mpr ⟨rfl, k, hk, rfl⟩⟩, rfl⟩

/-- Handlers can be added if the path is a pattern and no route clashes. -/
theorem exists_add (h : router.WellFormed) (hpath : IsPath path)
    (hclash : ∀ a ∈ router.routes, ∀ b ∈ Route.ofHandlers path handlers, ¬ a.Clash b)
    (hne : handlers ≠ []) : ∃ router', router.add path handlers = .ok router' := by
  by_cases hold : ∃ r ∈ router.resources, r.path = path
  · obtain ⟨before, r, after, hresources, same, hbefore⟩ := exists_first hold
    have hr : r ∈ router.resources := by
      rw [hresources]
      simp
    have hapart : ∀ h ∈ handlers, ∀ k ∈ r.handlers, k.1 ≠ h.1 := by
      intro l hl k hk heq
      refine hclash ⟨path, l.1⟩ ?_ ⟨path, l.1⟩ ?_ (Or.inl rfl)
      · exact mem_routes.mpr ⟨r, hr, Route.mem_ofHandlers.mpr ⟨same.symm, k, hk, heq⟩⟩
      · exact Route.mem_ofHandlers.mpr ⟨rfl, l, hl, rfl⟩
    rw [add_of_path hresources same hbefore, extend_eq_ok_iff.mpr ⟨hapart, rfl⟩]
    exact ⟨_, rfl⟩
  · have hnew : ∀ r ∈ router.resources, r.path ≠ path := fun r hr heq => hold ⟨r, hr, heq⟩
    obtain ⟨pattern, hread⟩ := Option.isSome_iff_exists.mp (isSome_parse?_iff.mpr hpath)
    have hfind : (router.resources.find? fun r => r.pattern.sameShape pattern) = none := by
      refine List.find?_eq_none.mpr fun r hr hshape => ?_
      obtain ⟨a, ha, hroute⟩ := h.exists_route hr
      obtain ⟨l, hl⟩ := List.exists_mem_of_ne_nil _ hne
      refine hclash a ha ⟨path, l.1⟩ (Route.mem_ofHandlers.mpr ⟨rfl, l, hl, rfl⟩) (Or.inr ⟨?_, ?_⟩)
      · rw [hroute]
        exact hnew r hr
      · refine ⟨shape pattern, ?_, by rw [shape?, hread, Option.map_some]⟩
        rw [hroute, h.shape? hr, sameShape_iff.mp hshape]
    rw [add_of_new hnew, hread]
    simp only [hfind]
    exact ⟨_, rfl⟩

namespace Added

variable (h : router.Added path handlers router')

include h

theorem mem_routes_iff {a : Route} :
    a ∈ router'.routes ↔ a ∈ router.routes ∨ a ∈ Route.ofHandlers path handlers := by
  cases h with
  | more before after r resources same apart result =>
    have hroutes : Route.ofHandlers r.path (r.handlers ++ handlers) =
        Route.ofHandlers r.path r.handlers ++ Route.ofHandlers path handlers := by
      rw [same]
      exact List.map_append
    simp only [routes, result, resources, List.flatMap_append, List.flatMap_cons, hroutes,
      List.mem_append]
    tauto
  | new pattern read other result =>
    simp [routes, result, List.flatMap_append]

theorem wellFormed (hwell : router.WellFormed) (hroot : path.head? = some '/')
    (hne : handlers ≠ []) : router'.WellFormed := by
  cases h with
  | more before after r resources same apart result =>
    obtain ⟨rooted, pattern, served, distinct⟩ := hwell
    rw [resources] at rooted pattern served distinct
    simp only [List.forall_mem_append, List.forall_mem_cons] at rooted pattern served
    rw [result]
    constructor
    · simpa only [List.forall_mem_append, List.forall_mem_cons] using rooted
    · simpa only [List.forall_mem_append, List.forall_mem_cons] using pattern
    · simp only [List.forall_mem_append, List.forall_mem_cons]
      exact ⟨served.1, by simp [hne], served.2.2⟩
    · simpa using distinct
  | new pattern read other result =>
    rw [result]
    constructor
    · simpa only [List.forall_mem_append, List.forall_mem_singleton] using ⟨hwell.rooted, hroot⟩
    · simpa only [List.forall_mem_append, List.forall_mem_singleton] using ⟨hwell.pattern, read⟩
    · simpa only [List.forall_mem_append, List.forall_mem_singleton] using ⟨hwell.served, hne⟩
    · rw [List.map_append, List.map_singleton, List.nodup_append]
      refine ⟨hwell.distinct, List.nodup_singleton _, ?_⟩
      simpa using fun r hr => (other r hr).2

theorem isPath (hwell : router.WellFormed) : IsPath path := by
  rw [← isSome_parse?_iff]
  cases h with
  | more before after r resources same apart result =>
    rw [← same, hwell.pattern r (by simp [resources])]
    rfl
  | new pattern read other result =>
    rw [read]
    rfl

theorem not_clash (hwell : router.WellFormed) :
    ∀ a ∈ router.routes, ∀ b ∈ Route.ofHandlers path handlers, ¬ a.Clash b := by
  intro a ha b hb hclash
  obtain ⟨s, hs, hamem⟩ := mem_routes.mp ha
  obtain ⟨hapath, k, hk, hamethod⟩ := Route.mem_ofHandlers.mp hamem
  obtain ⟨hbpath, l, hl, hbmethod⟩ := Route.mem_ofHandlers.mp hb
  cases h with
  | more before after r resources same apart result =>
    have hr : r ∈ router.resources := by simp [resources]
    rcases hclash with rfl | ⟨hne, x, hax, hbx⟩
    · obtain rfl := hwell.eq_of_path hs hr (by rw [← hapath, hbpath, same])
      exact apart l hl k hk (hamethod.trans hbmethod.symm)
    · -- A path of the same shape is the same path.
      rw [hapath, hwell.shape? hs] at hax
      rw [hbpath, ← same, hwell.shape? hr] at hbx
      obtain rfl := hwell.eq_of_shape hs hr (Option.some.inj (hax.trans hbx.symm))
      exact hne (by rw [hapath, hbpath, same])
  | new pattern read other result =>
    obtain ⟨hpath, hshape⟩ := other s hs
    rcases hclash with rfl | ⟨-, x, hax, hbx⟩
    · exact hpath (hapath.symm.trans hbpath)
    · rw [hapath, hwell.shape? hs] at hax
      rw [hbpath, shape?, read, Option.map_some] at hbx
      exact hshape (Option.some.inj (hax.trans hbx.symm))

end Added

/-! ## Steps -/

/-- A step that adds the routes `new` to a router: it succeeds just if the routes are `fit` for it
and clash with none that the router has. -/
structure Adding (step : Router H → Except RouteFault (Router H)) (new : List Route)
    (fit : Prop) : Prop where
  succeeds {router : Router H} (h : router.WellFormed) :
    (∃ router', step router = .ok router') ↔ fit ∧ ∀ a ∈ router.routes, ∀ b ∈ new, ¬ a.Clash b
  result {router router' : Router H} (h : router.WellFormed) (hok : step router = .ok router') :
    router'.WellFormed ∧ ∀ a, a ∈ router'.routes ↔ a ∈ router.routes ∨ a ∈ new

theorem Adding.of_iff {step : Router H → Except RouteFault (Router H)} {new : List Route}
    {fit fit' : Prop} (h : Adding step new fit) (hfit : fit ↔ fit') : Adding step new fit' :=
  propext hfit ▸ h

/-- A router as it is, with no routes more. -/
theorem adding_ok : Adding (fun router : Router H => .ok router) [] True where
  succeeds {router} _ := iff_of_true ⟨router, rfl⟩ ⟨trivial, fun _ _ => List.forall_mem_nil _⟩
  result h hok := by
    cases hok
    exact ⟨h, fun a => by simp⟩

/-- Adding handlers adds their routes, as long as the path can be read. -/
theorem adding_add (hroot : path.head? = some '/') (hne : handlers ≠ []) :
    Adding (fun router : Router H => router.add path handlers) (Route.ofHandlers path handlers)
      (IsPath path) where
  succeeds h := by
    constructor
    · rintro ⟨router', hadd⟩
      have hadded := added_of_add hadd
      exact ⟨hadded.isPath h, hadded.not_clash h⟩
    · rintro ⟨hpath, hclash⟩
      exact exists_add h hpath hclash hne
  result h hok :=
    ⟨(added_of_add hok).wellFormed h hroot hne, fun _ => (added_of_add hok).mem_routes_iff⟩

/-- Steps one after the other add the routes of all. Those of one must not clash with those of
another. -/
theorem Adding.foldlM {α : Type} {step : Router H → α → Except RouteFault (Router H)}
    {new : α → List Route} {fit : α → Prop} : ∀ {xs : List α},
    (∀ x ∈ xs, Adding (step · x) (new x) (fit x)) →
      Adding (fun router => xs.foldlM step router) (xs.flatMap new)
        ((∀ x ∈ xs, fit x) ∧ xs.Pairwise fun x y => ∀ a ∈ new x, ∀ b ∈ new y, ¬ a.Clash b)
  | [], _ => adding_ok.of_iff (by simp)
  | x :: xs, hsteps => by
    obtain ⟨hx, hxs⟩ := List.forall_mem_cons.mp hsteps
    have ih := Adding.foldlM hxs
    constructor
    · intro router h
      simp only [List.foldlM_cons, bind_eq_ok_iff, List.forall_mem_cons, List.pairwise_cons,
        List.flatMap_cons, List.forall_mem_append]
      constructor
      · -- What the later steps do not clash with are the routes that were there and those of the
        -- first.
        rintro ⟨router', first, hfirst, hrest⟩
        obtain ⟨hfit, hclash⟩ := (hx.succeeds h).mp ⟨first, hfirst⟩
        obtain ⟨hwell, hroutes⟩ := hx.result h hfirst
        obtain ⟨⟨hfits, hapart⟩, hclashes⟩ := (ih.succeeds hwell).mp ⟨router', hrest⟩
        simp only [hroutes, List.mem_flatMap, forall_exists_index, and_imp] at hclashes
        refine ⟨⟨⟨hfit, hfits⟩, fun y hy a ha b hb => hclashes a (Or.inr ha) b y hy hb, hapart⟩,
          fun a ha => ⟨hclash a ha, fun b hb => ?_⟩⟩
        obtain ⟨y, hy, hb⟩ := List.mem_flatMap.mp hb
        exact hclashes a (Or.inl ha) b y hy hb
      · rintro ⟨⟨⟨hfit, hfits⟩, hapart, haparts⟩, hclash⟩
        obtain ⟨first, hfirst⟩ := (hx.succeeds h).mpr ⟨hfit, fun a ha => (hclash a ha).1⟩
        obtain ⟨hwell, hroutes⟩ := hx.result h hfirst
        obtain ⟨router', hrest⟩ := (ih.succeeds hwell).mpr ⟨⟨hfits, haparts⟩, fun a ha b hb => by
          rcases (hroutes a).mp ha with ha | ha
          · exact (hclash a ha).2 b hb
          · obtain ⟨y, hy, hb⟩ := List.mem_flatMap.mp hb
            exact hapart y hy a ha b hb⟩
        exact ⟨router', first, hfirst, hrest⟩
    · intro router router' h hok
      rw [List.foldlM_cons, bind_eq_ok_iff] at hok
      obtain ⟨first, hfirst, hrest⟩ := hok
      obtain ⟨hwell, hroutes⟩ := hx.result h hfirst
      obtain ⟨hwell', hroutes'⟩ := ih.result hwell hrest
      exact ⟨hwell', fun a => by
        rw [hroutes', hroutes, List.flatMap_cons, List.mem_append, or_assoc]⟩

end Router

end AccountServer
