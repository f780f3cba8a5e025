import Mathlib.Data.List.Nodup
import Mathlib.Data.List.Pairwise
import Mathlib.Data.String.Basic
import AccountServer.Proofs.Server.Paths
import AccountServer.Server.Startup
import AccountServer.Store.Memory

/-!
# When a site can be put together

Components are set up in the order of their names, until the first one that is not `Ready`. Apart
from that, only their paths matter: `place` mounts a component without a look at its settings, and
`foldlM_mountApi` says what setting up and mounting come to together.

Whether the paths fit together is a question about routes (`Router.Adding`): the base of every
component has to be a pattern, and what the echo component serves must not be a route of another one
(`exists_placed_iff`). With that, the base of the server has to be a pattern too
(`exists_mount_iff`).

* `Mounts`: a component is come to, and where it is mounted.
* `Aborts` names all reasons why the paths do not fit together.
* `assemble_cases`: all that putting a site together can come to.
* `assemble_aborts_iff`: it fails in the router for these reasons, and for no others.
-/

namespace AccountServer

open PathPattern

/-! ## Setting up and mounting -/

theorem ComponentRegistry.name_of_get? {registry : ComponentRegistry} {name : String}
    {c : Component} (h : registry.get? name = some c) : c.name = name := by
  simpa using List.find?_some h

namespace Site

variable {registry : ComponentRegistry} {config : Config}

/-- The component that a section enables, if there is one. -/
def component? (registry : ComponentRegistry) (entry : String × ApiConfig) : Option Component :=
  if entry.2.enabled then registry.get? entry.1 else none

/-- The component can be set up if it is enabled: it is there, and its settings are in order. -/
def Ready (registry : ComponentRegistry) (entry : String × ApiConfig) : Prop :=
  entry.2.enabled = true → (registry.get? entry.1).isSome = true ∧
    (registry.get? entry.1 = some .hello → (helloSettings entry.2).isOk = true)

instance (entry : String × ApiConfig) : Decidable (Ready registry entry) :=
  inferInstanceAs (Decidable (_ → _))

/-- Mounts a component, whatever its settings. -/
def place (registry : ComponentRegistry) (router : Router Endpoint) (entry : String × ApiConfig) :
    Except RouteFault (Router Endpoint) :=
  match component? registry entry with
  | none => .ok router
  | some c => Router.ofRoutes c.routes >>= router.mount (entry.2.baseFor entry.1)

theorem routing_bind {α β : Type} (x : Except RouteFault α) (f : α → Except RouteFault β) :
    routing (x >>= f) = routing x >>= fun a => routing (f a) := by
  cases x <;> rfl

theorem exists_setUp {api : ApiConfig} {c : Component}
    (h : c = .hello → (helloSettings api).isOk = true) (hello : HelloSettings) :
    ∃ hello', setUp hello api c = .ok hello' := by
  cases c with
  | auth | echo => exact ⟨hello, rfl⟩
  | hello =>
    have hok := h rfl
    unfold setUp
    cases hread : helloSettings api with
    | ok settings => exact ⟨settings, rfl⟩
    | error e =>
      rw [hread] at hok
      contradiction

theorem mountApi_of_disabled {entry : String × ApiConfig} (h : entry.2.enabled = false)
    (state : HelloSettings × Router Endpoint) : mountApi registry state entry = .ok state := by
  simp only [mountApi, h, Bool.not_false, if_true]
  rfl

theorem mountApi_of_unknown {entry : String × ApiConfig} (henabled : entry.2.enabled = true)
    (h : registry.get? entry.1 = none) (state : HelloSettings × Router Endpoint) :
    mountApi registry state entry = .error (.component (.unknown entry.1)) := by
  simp only [mountApi, henabled, h]
  rfl

/-- First the component is set up, then it is mounted. -/
theorem mountApi_of_get? {name : String} {api : ApiConfig} {c : Component}
    (henabled : api.enabled = true) (hc : registry.get? name = some c) (hello : HelloSettings)
    (router : Router Endpoint) :
    mountApi registry (hello, router) (name, api) =
      setUp hello api c >>= fun hello =>
        (routing (place registry router (name, api))).map fun router => (hello, router) := by
  simp only [place, component?, henabled, hc, if_true, routing_bind]
  simp only [mountApi, henabled, hc]
  cases setUp hello api c with
  | error e => rfl
  | ok hello' =>
    cases Router.ofRoutes c.routes with
    | error fault => rfl
    | ok routes => exact bind_ok_eq_map _ _

theorem mountApi_of_ready {entry : String × ApiConfig} (h : Ready registry entry)
    (hello : HelloSettings) (router : Router Endpoint) :
    ∃ hello', mountApi registry (hello, router) entry =
      (routing (place registry router entry)).map fun router => (hello', router) := by
  obtain ⟨name, api⟩ := entry
  cases henabled : api.enabled with
  | false =>
    refine ⟨hello, ?_⟩
    rw [mountApi_of_disabled henabled, place, component?, henabled]
    rfl
  | true =>
    obtain ⟨hknown, hsettings⟩ := h henabled
    obtain ⟨c, hc⟩ := Option.isSome_iff_exists.mp hknown
    obtain ⟨hello', hsetUp⟩ := exists_setUp (fun heq => hsettings (heq ▸ hc)) hello
    refine ⟨hello', ?_⟩
    rw [mountApi_of_get? henabled hc, hsetUp, ok_bind]

theorem mountApi_of_not_ready {entry : String × ApiConfig} (h : ¬ Ready registry entry)
    (state : HelloSettings × Router Endpoint) :
    ∃ e, mountApi registry state entry = .error (.component e) := by
  obtain ⟨name, api⟩ := entry
  obtain ⟨hello, router⟩ := state
  obtain ⟨henabled, hbad⟩ := Classical.not_imp.mp h
  cases hc : registry.get? name with
  | none => exact ⟨.unknown name, mountApi_of_unknown henabled hc (hello, router)⟩
  | some c =>
    rw [mountApi_of_get? henabled hc]
    simp only [hc, Option.isSome_some, true_and, Option.some.injEq, Classical.not_imp] at hbad
    obtain ⟨rfl, hsettings⟩ := hbad
    unfold setUp
    cases hread : helloSettings api with
    | ok settings => exact absurd (by rw [hread]; rfl) hsettings
    | error e => exact ⟨.config e, rfl⟩

/-- The entries that are come to, which are those before the first that is not ready. -/
def reached (registry : ComponentRegistry) (entries : List (String × ApiConfig)) :
    List (String × ApiConfig) :=
  entries.takeWhile fun entry => Ready registry entry

theorem reached_cons_of_ready {entry : String × ApiConfig} {entries : List (String × ApiConfig)}
    (h : Ready registry entry) :
    reached registry (entry :: entries) = entry :: reached registry entries :=
  List.takeWhile_cons_of_pos (decide_eq_true h)

theorem reached_cons_of_not_ready {entry : String × ApiConfig}
    {entries : List (String × ApiConfig)} (h : ¬ Ready registry entry) :
    reached registry (entry :: entries) = [] :=
  List.takeWhile_cons_of_neg (by simpa using h)

/-- What comes of setting up and mounting: the paths that are come to have to fit together, and then
everything has to be ready. -/
theorem foldlM_mountApi : ∀ (entries : List (String × ApiConfig)) (hello : HelloSettings)
    (router : Router Endpoint),
    let done := entries.foldlM (mountApi registry) (hello, router)
    (∀ fault, (reached registry entries).foldlM (place registry) router = .error fault →
      done = .error (.route fault)) ∧
    ∀ router', (reached registry entries).foldlM (place registry) router = .ok router' →
      if ∀ entry ∈ entries, Ready registry entry then ∃ hello', done = .ok (hello', router')
      else ∃ e, done = .error (.component e)
  | [], hello, router => by
    refine ⟨nofun, fun router' hok => ?_⟩
    cases hok
    exact ⟨hello, rfl⟩
  | entry :: entries, hello, router => by
    by_cases hready : Ready registry entry
    · obtain ⟨hello', hmount⟩ := mountApi_of_ready hready hello router
      simp only [reached_cons_of_ready hready, List.foldlM_cons, hmount, List.forall_mem_cons,
        hready, true_and]
      cases place registry router entry with
      | error fault =>
        refine ⟨fun fault' herror => ?_, nofun⟩
        cases herror
        rfl
      | ok router₁ => exact foldlM_mountApi entries hello' router₁
    · obtain ⟨e, hmount⟩ := mountApi_of_not_ready hready (hello, router)
      simp only [reached_cons_of_not_ready hready, List.foldlM_cons, hmount, List.forall_mem_cons,
        hready, false_and, if_false]
      exact ⟨nofun, fun _ _ => ⟨e, rfl⟩⟩

/-! ## Fitting together -/

/-- The routes that an entry asks for. -/
def wanted (registry : ComponentRegistry) (entry : String × ApiConfig) : List Route :=
  match component? registry entry with
  | none => []
  | some c => c.served.map (Route.under (entry.2.baseFor entry.1))

theorem name_of_component? {entry : String × ApiConfig} {c : Component}
    (h : component? registry entry = some c) : entry.1 = c.name := by
  unfold component? at h
  split at h
  · exact (ComponentRegistry.name_of_get? h).symm
  · contradiction

theorem adding_place (entry : String × ApiConfig) :
    Router.Adding (place registry · entry) (wanted registry entry)
      (∀ c, component? registry entry = some c → IsPath (entry.2.baseFor entry.1).toList) := by
  unfold place wanted
  cases hc : component? registry entry with
  | none => exact Router.adding_ok.of_iff (by simp)
  | some c =>
    obtain ⟨other, hother, hwell, hroutes⟩ := c.exists_router
    have hmount : IsMount (entry.2.baseFor entry.1) :=
      name_of_component? hc ▸ isMount_baseFor entry.2 c
    have hadding := Router.adding_mount (H := Endpoint) hmount hwell
    rw [hroutes] at hadding
    simp only [hother]
    refine hadding.of_iff ⟨?_, ?_⟩
    · rintro ⟨-, hpath⟩ _ -
      exact hpath c.served_ne_nil
    · intro hpath
      exact ⟨(hpath c rfl).not_mem_asterisk, fun _ => hpath c rfl⟩

/-- The entries in the order of their names. -/
def ordered (config : Config) : List (String × ApiConfig) :=
  config.apis.mergeSort fun a b => a.1 ≤ b.1

theorem perm_ordered : (ordered config).Perm config.apis := List.mergeSort_perm _ _

theorem reached_ordered (hready : ∀ entry ∈ config.apis, Ready registry entry) :
    reached registry (ordered config) = ordered config :=
  List.takeWhile_eq_self_iff.mpr fun entry hentry =>
    decide_eq_true (hready entry (perm_ordered.mem_iff.mp hentry))

/-- A component is come to, and is mounted at a base. -/
def Mounts (registry : ComponentRegistry) (config : Config) (c : Component) (base : String) :
    Prop :=
  ∃ api, (c.name, api) ∈ config.apis ∧ component? registry (c.name, api) = some c ∧
    base = api.baseFor c.name ∧ ∀ entry ∈ config.apis, entry.1 ≤ c.name → Ready registry entry

/-- Names differ, so an entry is come to if all are ready whose names are not after its own. -/
theorem mem_reached_iff : ∀ {entries : List (String × ApiConfig)},
    entries.Pairwise (fun a b => a.1 ≤ b.1) → (entries.map Prod.fst).Nodup →
    ∀ {entry}, entry ∈ reached registry entries ↔
      entry ∈ entries ∧ ∀ other ∈ entries, other.1 ≤ entry.1 → Ready registry other
  | [], _, _, entry => by simp [reached]
  | first :: entries, hsorted, hnodup, entry => by
    obtain ⟨hfirst, hsorted⟩ := List.pairwise_cons.mp hsorted
    obtain ⟨hnew, hnodup⟩ := List.nodup_cons.mp hnodup
    have ih : entry ∈ reached _ entries ↔ _ := mem_reached_iff hsorted hnodup
    by_cases hready : Ready registry first
    · simp only [reached_cons_of_ready hready, List.mem_cons, ih, forall_eq_or_imp]
      constructor
      · rintro (rfl | ⟨hmem, hall⟩)
        · refine ⟨Or.inl rfl, fun _ => hready, fun other hother hle => ?_⟩
          have heq : other.1 = entry.1 := le_antisymm hle (hfirst other hother)
          exact absurd (List.mem_map.mpr ⟨other, hother, heq⟩) hnew
        · exact ⟨Or.inr hmem, fun _ => hready, hall⟩
      · rintro ⟨rfl | hmem, -, hall⟩
        · exact Or.inl rfl
        · exact Or.inr ⟨hmem, hall⟩
    · simp only [reached_cons_of_not_ready hready, List.mem_cons, forall_eq_or_imp]
      refine iff_of_false List.not_mem_nil ?_
      rintro ⟨rfl | hmem, hall, -⟩
      · exact hready (hall le_rfl)
      · exact hready (hall (hfirst entry hmem))

theorem pairwise_ordered : (ordered config).Pairwise fun a b => a.1 ≤ b.1 := by
  have h : (ordered config).Pairwise fun a b => decide (a.1 ≤ b.1) = true := by
    refine List.pairwise_mergeSort (fun a b c hab hbc => ?_) (fun a b => ?_) config.apis
    · exact decide_eq_true (le_trans (of_decide_eq_true hab) (of_decide_eq_true hbc))
    · simpa using le_total a.1 b.1
  exact h.imp of_decide_eq_true

/-- What is mounted are the components of the entries that are come to. -/
theorem mounts_iff (hnames : (config.apis.map Prod.fst).Nodup) {c : Component} {base : String} :
    Mounts registry config c base ↔ ∃ entry ∈ reached registry (ordered config),
      component? registry entry = some c ∧ base = entry.2.baseFor entry.1 := by
  have hnodup : ((ordered config).map Prod.fst).Nodup := (perm_ordered.map _).nodup_iff.mpr hnames
  simp only [mem_reached_iff pairwise_ordered hnodup, perm_ordered.mem_iff]
  constructor
  · rintro ⟨api, hmem, hc, hbase, hready⟩
    exact ⟨(c.name, api), ⟨hmem, hready⟩, hc, hbase⟩
  · rintro ⟨⟨name, api⟩, ⟨hmem, hready⟩, hc, hbase⟩
    obtain rfl : name = c.name := name_of_component? hc
    exact ⟨api, hmem, hc, hbase, hready⟩

/-- The mounted components, without the rest. -/
def placed (registry : ComponentRegistry) (config : Config) :
    Except RouteFault (Router Endpoint) :=
  (reached registry (ordered config)).foldlM (place registry) .empty

/-- The base of the server has an asterisk, or it has a malformed parameter and something is to be
mounted there. -/
def BadServerBase (config : Config) : Prop :=
  '*' ∈ (normalizeBase config.server.base).toList ∨
    (∃ entry ∈ config.apis, entry.2.enabled = true) ∧
      ¬ IsPath (normalizeBase config.server.base).toList

/-- Why the paths of a site do not fit together. -/
inductive Aborts (registry : ComponentRegistry) (config : Config) : Prop where
  /-- The base of a component has an asterisk or a malformed parameter. -/
  | base {c : Component} {base : String} (mounts : Mounts registry config c base)
      (bad : ¬ IsPath base.toList)
  /-- The base of the echo component is a path of another component, or matches the same. -/
  | clash {c : Component} {base echo : String} (echoes : Mounts registry config .echo echo)
      (mounts : Mounts registry config c base) (other : c ≠ .echo) {a : Route}
      (serves : a ∈ c.served) (clash : (a.under base).Clash ⟨echo.toList, .post⟩)
  /-- Every component is ready, but the base of the server is no place for them. -/
  | server (ready : ∀ entry ∈ config.apis, Ready registry entry) (bad : BadServerBase config)

/-- Two entries do not get in each other's way. -/
def Apart (registry : ComponentRegistry) (entry other : String × ApiConfig) : Prop :=
  ∀ a ∈ wanted registry entry, ∀ b ∈ wanted registry other, ¬ a.Clash b

instance : Std.Symm (Apart registry) where
  symm _ _ h a ha b hb hclash := h b hb a ha hclash.symm

theorem apart_iff {entry other : String × ApiConfig} :
    Apart registry entry other ↔ ∀ c d, component? registry entry = some c →
      component? registry other = some d → ∀ a ∈ c.served, ∀ b ∈ d.served,
        ¬ (a.under (entry.2.baseFor entry.1)).Clash (b.under (other.2.baseFor other.1)) := by
  unfold Apart wanted
  cases component? registry entry <;> cases component? registry other <;> simp

theorem mem_wanted_iff {entry : String × ApiConfig} {a : Route} :
    a ∈ wanted registry entry ↔
      ∃ c, component? registry entry = some c ∧
        ∃ b ∈ c.served, b.under (entry.2.baseFor entry.1) = a := by
  unfold wanted
  cases component? registry entry <;> simp

theorem adding_reached (entries : List (String × ApiConfig)) :
    Router.Adding (fun router => (reached registry entries).foldlM (place registry) router)
      ((reached registry entries).flatMap (wanted registry))
      ((∀ entry ∈ reached registry entries, ∀ c, component? registry entry = some c →
          IsPath (entry.2.baseFor entry.1).toList) ∧
        (reached registry entries).Pairwise (Apart registry)) :=
  Router.Adding.foldlM fun entry _ => adding_place entry

/-- The components fit together if all bases are patterns and none of the routes is what the echo
component serves. -/
theorem exists_placed_iff (hnames : (config.apis.map Prod.fst).Nodup) :
    (∃ router, placed registry config = .ok router) ↔
      (∀ c base, Mounts registry config c base → IsPath base.toList) ∧
        ∀ c base echo, Mounts registry config .echo echo → Mounts registry config c base →
          c ≠ .echo → ∀ a ∈ c.served, ¬ (a.under base).Clash ⟨echo.toList, .post⟩ := by
  have hnodup : ((reached registry (ordered config)).map Prod.fst).Nodup :=
    ((perm_ordered.map _).nodup_iff.mpr hnames).sublist
      ((List.takeWhile_sublist _).map Prod.fst)
  have hecho : (⟨['/'], .post⟩ : Route) ∈ Component.echo.served := by decide
  rw [placed, (adding_reached _).succeeds Router.wellFormed_empty]
  constructor
  · rintro ⟨⟨hpaths, hapart⟩, -⟩
    refine ⟨fun c base hmounts => ?_, fun c base echo hechoes hmounts hne a ha hclash => ?_⟩
    · obtain ⟨entry, hentry, hc, rfl⟩ := (mounts_iff hnames).mp hmounts
      exact hpaths entry hentry c hc
    · obtain ⟨entry, hentry, hc, rfl⟩ := (mounts_iff hnames).mp hmounts
      obtain ⟨entry', hentry', hc', rfl⟩ := (mounts_iff hnames).mp hechoes
      -- Two entries of different components are different entries.
      have hother : entry ≠ entry' := by
        rintro rfl
        exact hne (Option.some.inj (hc.symm.trans hc'))
      refine apart_iff.mp (hapart.forall hentry hentry' hother) c _ hc hc' a ha _ hecho ?_
      rwa [Route.under_of_mem_echo hecho]
  · rintro ⟨hpaths, hclash⟩
    refine ⟨⟨fun entry hentry c hc => ?_, ?_⟩, fun _ h => absurd h List.not_mem_nil⟩
    · exact hpaths c _ ((mounts_iff hnames).mpr ⟨entry, hentry, hc, rfl⟩)
    · refine (hnodup.of_map _).pairwise_of_forall_ne fun entry hentry other hother hne => ?_
      refine apart_iff.mpr fun c d hc hd a ha b hb => ?_
      have hc' := (mounts_iff hnames).mpr ⟨entry, hentry, hc, rfl⟩
      have hd' := (mounts_iff hnames).mpr ⟨other, hother, hd, rfl⟩
      have hcd : c ≠ d := by
        rintro rfl
        refine hne (List.inj_on_of_nodup_map hnodup hentry hother ?_)
        rw [name_of_component? hc, name_of_component? hd]
      -- Only the echo has a route that is all base, so the other components stay apart by their
      -- endings.
      by_cases hcecho : c = .echo
      · subst hcecho
        rw [Route.under_of_mem_echo ha]
        exact fun h => hclash d _ _ hc' hd' hcd.symm b hb h.symm
      · by_cases hdecho : d = .echo
        · subst hdecho
          rw [Route.under_of_mem_echo hb]
          exact hclash c _ _ hd' hc' hcd a ha
        · exact not_clash_of_ne hcd hcecho hdecho ha hb (hpaths c _ hc') (hpaths d _ hd')

/-! ## The whole -/

/-- With everything ready, something is mounted if something is enabled. -/
theorem routes_ne_nil_iff (hready : ∀ entry ∈ config.apis, Ready registry entry)
    {router : Router Endpoint} (hrouter : placed registry config = .ok router) :
    router.routes ≠ [] ↔ ∃ entry ∈ config.apis, entry.2.enabled = true := by
  obtain ⟨-, hroutes⟩ := (adding_reached _).result Router.wellFormed_empty hrouter
  have hempty : ∀ a, a ∉ (Router.empty : Router Endpoint).routes := fun _ => List.not_mem_nil
  simp only [hempty, false_or, List.mem_flatMap, reached_ordered hready] at hroutes
  constructor
  · intro hne
    obtain ⟨a, ha⟩ := List.exists_mem_of_ne_nil _ hne
    obtain ⟨entry, hentry, ha⟩ := (hroutes a).mp ha
    obtain ⟨c, hc, -⟩ := mem_wanted_iff.mp ha
    refine ⟨entry, perm_ordered.mem_iff.mp hentry, ?_⟩
    unfold component? at hc
    split at hc
    · next henabled => exact henabled
    · contradiction
  · rintro ⟨entry, hentry, henabled⟩
    obtain ⟨c, hc⟩ := Option.isSome_iff_exists.mp (hready entry hentry henabled).1
    obtain ⟨a, ha⟩ := List.exists_mem_of_ne_nil _ c.served_ne_nil
    refine List.ne_nil_of_mem ((hroutes (a.under (entry.2.baseFor entry.1))).mpr
      ⟨entry, perm_ordered.mem_iff.mpr hentry, ?_⟩)
    exact mem_wanted_iff.mpr ⟨c, by rw [component?, if_pos henabled, hc], a, ha, rfl⟩

/-- The components can be mounted under the base of the server. -/
theorem exists_mount_iff (hready : ∀ entry ∈ config.apis, Ready registry entry)
    {own router : Router Endpoint} (hrouter : placed registry config = .ok router)
    (hown : own.WellFormed) (hroutes : own.routes = [⟨"/health".toList, .get⟩]) :
    (∃ app, own.mount (normalizeBase config.server.base) router = .ok app) ↔
      ¬ BadServerBase config := by
  obtain ⟨⟨hpaths, -⟩, -⟩ :=
    ((adding_reached _).succeeds Router.wellFormed_empty).mp ⟨router, hrouter⟩
  obtain ⟨hwell, hplaced⟩ := (adding_reached _).result Router.wellFormed_empty hrouter
  rw [(Router.adding_mount (isMount_normalizeBase _) hwell).succeeds hown, hroutes,
    List.forall_mem_singleton, routes_ne_nil_iff hready hrouter]
  constructor
  · rintro ⟨⟨hasterisk, hpath⟩, -⟩ (h | ⟨hany, h⟩)
    · exact hasterisk h
    · exact h (hpath hany)
  · intro h
    have hpath : (∃ entry ∈ config.apis, entry.2.enabled = true) →
        IsPath (normalizeBase config.server.base).toList := fun hany =>
      Classical.byContradiction fun hbad => h (Or.inr ⟨hany, hbad⟩)
    refine ⟨⟨fun hmem => h (Or.inl hmem), hpath⟩, fun b hb => ?_⟩
    obtain ⟨a, ha, rfl⟩ := List.mem_map.mp hb
    have hserver := hpath ((routes_ne_nil_iff hready hrouter).mp (List.ne_nil_of_mem ha))
    obtain ⟨entry, hentry, ha⟩ := List.mem_flatMap.mp (((hplaced a).mp ha).resolve_left nofun)
    obtain ⟨c, hc, a, hserved, rfl⟩ := mem_wanted_iff.mp ha
    have hmount : IsMount (entry.2.baseFor entry.1) :=
      name_of_component? hc ▸ isMount_baseFor entry.2 c
    exact not_clash_health hserved hmount (hpaths entry hentry c hc) hserver

theorem assemble_of_error {fault : AssemblyFault} {services : Services}
    (h : (ordered config).foldlM (mountApi registry) ({}, .empty) = .error fault) :
    assemble registry config services = .error fault := by
  unfold ordered at h
  simp only [assemble, h]
  rfl

/-- With the components set up and mounted, what is left is the base of the server. -/
theorem assemble_of_ok (services : Services) {hello : HelloSettings} {router own : Router Endpoint}
    (h : (ordered config).foldlM (mountApi registry) ({}, .empty) = .ok (hello, router))
    (hown : Router.ofRoutes Endpoint.serverRoutes = .ok own) :
    assemble registry config services =
      (routing (own.mount (normalizeBase config.server.base) router)).map fun app =>
        ⟨services, hello, app, config.server.delayMillis⟩ := by
  unfold ordered at h
  have hrouting : routing (.ok own : Except RouteFault (Router Endpoint)) = .ok own := rfl
  simp only [assemble, h, hown, hrouting, ok_bind]
  exact bind_ok_eq_map _ _

/-- All that putting a site together can come to: the components do not fit together, one is not
ready, they do not fit under the base of the server, or there is a site. -/
theorem assemble_cases (registry : ComponentRegistry) (config : Config) (services : Services) :
    let done := assemble registry config services
    (¬ ∃ router, placed registry config = .ok router) ∧ (∃ fault, done = .error (.route fault)) ∨
    (∃ router, placed registry config = .ok router) ∧
      ((¬ ∀ entry ∈ config.apis, Ready registry entry) ∧ (∃ e, done = .error (.component e)) ∨
      (∀ entry ∈ config.apis, Ready registry entry) ∧
        (BadServerBase config ∧ (∃ fault, done = .error (.route fault)) ∨
        ¬ BadServerBase config ∧ ∃ site, done = .ok site)) := by
  intro done
  obtain ⟨hfault, hdone⟩ := foldlM_mountApi (ordered config) {} .empty
  simp only [perm_ordered.mem_iff] at hdone
  cases hplaced : placed registry config with
  | error fault => exact Or.inl ⟨nofun, fault, assemble_of_error (hfault fault hplaced)⟩
  | ok router =>
    refine Or.inr ⟨⟨router, rfl⟩, ?_⟩
    have hdone := hdone router hplaced
    by_cases hready : ∀ entry ∈ config.apis, Ready registry entry
    · rw [if_pos hready] at hdone
      obtain ⟨hello, hstate⟩ := hdone
      obtain ⟨own, hown, hwell, hroutes⟩ := exists_own
      have hmount := exists_mount_iff hready hplaced hwell hroutes
      have hassemble := assemble_of_ok services hstate hown
      refine Or.inr ⟨hready, ?_⟩
      cases happ : own.mount (normalizeBase config.server.base) router with
      | error fault =>
        rw [happ] at hmount hassemble
        exact Or.inl ⟨not_not.mp (hmount.not.mp nofun), fault, hassemble⟩
      | ok app =>
        rw [happ] at hassemble
        exact Or.inr ⟨hmount.mp ⟨app, happ⟩, _, hassemble⟩
    · rw [if_neg hready] at hdone
      obtain ⟨e, hstate⟩ := hdone
      exact Or.inl ⟨hready, e, assemble_of_error hstate⟩

/-- The site fails in the router if the components do, or if they do not fit under the base of the
server. -/
theorem aborts_iff (hnames : (config.apis.map Prod.fst).Nodup) :
    Aborts registry config ↔ (¬ ∃ router, placed registry config = .ok router) ∨
      (∀ entry ∈ config.apis, Ready registry entry) ∧ BadServerBase config := by
  rw [exists_placed_iff hnames]
  constructor
  · rintro (⟨hmounts, hbad⟩ | ⟨hechoes, hmounts, hother, hserves, hclash⟩ | ⟨hready, hbad⟩)
    · exact Or.inl fun h => hbad (h.1 _ _ hmounts)
    · exact Or.inl fun h => h.2 _ _ _ hechoes hmounts hother _ hserves hclash
    · exact Or.inr ⟨hready, hbad⟩
  · rintro (hnot | ⟨hready, hbad⟩)
    · by_contra haborts
      refine hnot ⟨fun c base hmounts => ?_, fun c base echo hechoes hmounts hother a ha h => ?_⟩
      · exact Classical.byContradiction fun hbad => haborts (.base hmounts hbad)
      · exact haborts (.clash hechoes hmounts hother ha h)
    · exact .server hready hbad

/-- **When a site can be put together.** Whatever is written in the sections, of which no two have
one name, putting a site together fails in the router exactly if the paths do not fit together, and
it succeeds exactly if they do and every component is ready. In all other cases a component is
missing or refuses its settings. -/
theorem assemble_aborts_iff (hnames : (config.apis.map Prod.fst).Nodup) (services : Services) :
    ((∃ fault, assemble registry config services = .error (.route fault)) ↔
      Aborts registry config) ∧
    ((∃ site, assemble registry config services = .ok site) ↔
      (∀ entry ∈ config.apis, Ready registry entry) ∧ ¬ Aborts registry config) := by
  rw [aborts_iff hnames]
  rcases assemble_cases registry config services with ⟨hplaced, fault, h⟩ |
    ⟨hplaced, ⟨hready, e, h⟩ | ⟨hready, ⟨hbad, fault, h⟩ | ⟨hgood, site, h⟩⟩⟩
  · simp [h, hplaced]
  · simp only [h, hplaced, hready]
    simp
  · simp only [h, hplaced, hbad]
    simpa using hready
  · simp only [h, hplaced, hgood]
    simpa using hready

/-- The account service has its logins where the echo component is to be. -/
theorem assemble_fails_for_echo_at_login :
    let config : Config :=
      { apis := [("auth", { base := some "/" }), ("echo", { base := some "/login" })] }
    let services : Services := ⟨⟨.argon2 {}⟩, { settings := ⟨List.replicate 32 7, 3600⟩ }⟩
    (config.apis.map Prod.fst).Nodup ∧ Aborts .full config ∧
      ∃ fault, assemble .full config services = .error (.route fault) := by
  intro config services
  have hnames : (config.apis.map Prod.fst).Nodup := by decide
  have hready : ∀ entry ∈ config.apis, Ready .full entry := by decide
  have hauth : Mounts .full config .auth "/" :=
    ⟨_, List.mem_cons_self, rfl, rfl, fun entry hentry _ => hready entry hentry⟩
  have hecho : Mounts .full config .echo "/login" :=
    ⟨_, List.mem_cons_of_mem _ List.mem_cons_self, rfl, rfl,
      fun entry hentry _ => hready entry hentry⟩
  have haborts : Aborts .full config :=
    .clash hecho hauth nofun (a := ⟨"/login".toList, .post⟩) (by decide) (Or.inl rfl)
  exact ⟨hnames, haborts, (assemble_aborts_iff hnames services).1.mpr haborts⟩

/-- A checked configuration, with the services that it starts, whose echo component is to be mounted
below an asterisk. -/
theorem assemble_fails_for_asterisk :
    let api : ApiConfig := { base := some "/*" }
    let config : Config := { apis := [("echo", api)] }
    let built := Startup.build config .empty MemoryStore.empty (.argon2 {}) (List.replicate 48 7)
      fun _ => ⟨⟨0, 0, by decide⟩, fun _ => ⟨0⟩, [], 0⟩
    config.validate = .ok () ∧ ∃ services, built.1 = .ok services ∧
      assemble .full config services = .error (.route (.asterisk "/*".toList)) := by
  intro api config built
  have hbase : api.baseFor "echo" = "/*" := by decide +kernel
  have hplace : place .full .empty ("echo", api) = .error (.asterisk "/*".toList) := by
    obtain ⟨routes, hroutes, -⟩ := Component.echo.exists_router
    show Router.ofRoutes Component.echo.routes >>= Router.empty.mount (api.baseFor "echo") = _
    rw [hroutes, hbase]
    rfl
  have hmount : mountApi .full ({}, .empty) ("echo", api) =
      .error (.route (.asterisk "/*".toList)) := by
    rw [mountApi_of_get? rfl rfl, hplace]
    rfl
  have hordered : ordered config = [("echo", api)] := List.mergeSort_singleton _
  refine ⟨rfl, _, rfl, assemble_of_error ?_⟩
  rw [hordered, List.foldlM_cons, hmount]
  rfl

end Site

end AccountServer
