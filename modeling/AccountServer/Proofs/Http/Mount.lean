import AccountServer.Proofs.Http.Router

/-!
# Routers below mount points

A mount point is a path that does not end with a slash, or the root. What is mounted there keeps its
shape apart: two routes clash below a mount point just if they clash without it
(`clash_under_iff`), so that a router that is well-formed stays so. What can go wrong is that the
mount point is no pattern itself, or that a route clashes with one that was there before
(`adding_mount`).
-/

namespace AccountServer

open PathPattern

/-- A path that other paths can be put behind: the root, or one without a slash at its end. -/
structure IsMount (base : String) : Prop where
  rooted : base.toList.head? = some '/'
  ended : base.toList.getLast? = some '/' → base = "/"

/-- Where a path comes to lie below a mount point. -/
def mounted (base : String) (path : List Char) : List Char :=
  if base = "/" then path else if path = ['/'] then base.toList else base.toList ++ path

/-- A route below a mount point. -/
def Route.under (base : String) (a : Route) : Route := ⟨mounted base a.path, a.method⟩

theorem shape?_root : shape? ['/'] = some [some '/'] := by
  rw [shape?, parse?_letter (by decide) (by decide), parse?_nil]
  rfl

theorem atSlash_of_head? {path : List Char} (h : path.head? = some '/') : AtSlash path :=
  fun _ hc => (Option.some.inj (h.symm.trans hc)).symm

theorem shape_ne_nil {path : List Char} (hroot : path.head? = some '/') {s : List (Option Char)}
    (h : shape? path = some s) : s ≠ [] := by
  rintro rfl
  have hnil : path = [] := eq_of_shape? h
  rw [hnil] at hroot
  contradiction

section Mount

variable {base : String} {path other : List Char}

theorem head?_mounted (h : IsMount base) (hroot : path.head? = some '/') :
    (mounted base path).head? = some '/' := by
  unfold mounted
  split
  · exact hroot
  · split
    · exact h.rooted
    · rw [List.head?_append, h.rooted, Option.some_or]

/-- Different paths stay different below a base. -/
theorem mounted_injective (hpath : path.head? = some '/') (hother : other.head? = some '/')
    (heq : mounted base path = mounted base other) : path = other := by
  have hne {p : List Char} (hp : p.head? = some '/') : p ≠ [] := by
    rintro rfl
    contradiction
  unfold mounted at heq
  split at heq
  · exact heq
  · split at heq <;> split at heq
    · next h h' => rw [h, h']
    · exact absurd (List.self_eq_append_right.mp heq) (hne hother)
    · exact absurd (List.append_right_eq_self.mp heq) (hne hpath)
    · exact List.append_cancel_left heq

/-- Below a mount point of the shape `b`, a shape is continued. -/
def shapeUnder (base : String) (b s : List (Option Char)) : List (Option Char) :=
  if base = "/" then s else if s = [some '/'] then b else b ++ s

/-- The shape of a mounted path is the shape of the base in front of that of the path. -/
theorem shape?_mounted {b : List (Option Char)} (hbase : shape? base.toList = some b)
    (hroot : path.head? = some '/') :
    shape? (mounted base path) = (shape? path).map (shapeUnder base b) := by
  unfold mounted
  split
  · next hmount =>
    have hid : shapeUnder base b = id := funext fun s => if_pos hmount
    rw [hid, Option.map_id, id]
  · next hmount =>
    split
    · next hpath => rw [hpath, shape?_root, hbase]; simp [shapeUnder, hmount]
    · next hpath =>
      rw [shape?_append (atSlash_of_head? hroot), hbase, Option.bind_some]
      cases hs : shape? path with
      | none => rfl
      | some s =>
        have hne : s ≠ [some '/'] := by
          rintro rfl
          exact hpath (eq_of_shape? hs)
        simp [shapeUnder, hmount, hne]

/-- Different shapes stay different below a base. -/
theorem shapeUnder_injective {b s t : List (Option Char)} (hs : s ≠ []) (ht : t ≠ [])
    (heq : shapeUnder base b s = shapeUnder base b t) : s = t := by
  unfold shapeUnder at heq
  split at heq
  · exact heq
  · split at heq <;> split at heq
    · next h h' => rw [h, h']
    · exact absurd (List.self_eq_append_right.mp heq) ht
    · exact absurd (List.append_right_eq_self.mp heq) hs
    · exact List.append_cancel_left heq

theorem isPath_root : IsPath ['/'] := exists_shape?_iff.mp ⟨_, shape?_root⟩

/-- What is a pattern stays one below a mount point that is one. -/
theorem isPath_mounted_iff (hroot : path.head? = some '/') (hpath : IsPath path) :
    IsPath (mounted base path) ↔ IsPath base.toList := by
  unfold mounted
  split
  · next hmount =>
    rw [hmount]
    exact iff_of_true hpath isPath_root
  · split
    · exact Iff.rfl
    · obtain ⟨s, hs⟩ := exists_shape?_iff.mpr hpath
      rw [← exists_shape?_iff, ← exists_shape?_iff, shape?_append (atSlash_of_head? hroot), hs]
      cases shape? base.toList <;> simp

/-- A mount point keeps routes apart that do not clash, and no others. -/
theorem clash_under_iff {a b : Route} (hbase : IsPath base.toList) (ha : a.path.head? = some '/')
    (hb : b.path.head? = some '/') : (a.under base).Clash (b.under base) ↔ a.Clash b := by
  have hpath : mounted base a.path = mounted base b.path ↔ a.path = b.path :=
    ⟨mounted_injective ha hb, congrArg _⟩
  have hroute : a.under base = b.under base ↔ a = b := by
    obtain ⟨path, method⟩ := a
    obtain ⟨path', method'⟩ := b
    simp only [Route.under, Route.mk.injEq, hpath]
  have hshape :
      (∃ s, shape? (mounted base a.path) = some s ∧ shape? (mounted base b.path) = some s) ↔
        ∃ s, shape? a.path = some s ∧ shape? b.path = some s := by
    obtain ⟨x, hx⟩ := exists_shape?_iff.mpr hbase
    rw [shape?_mounted hx ha, shape?_mounted hx hb]
    constructor
    · rintro ⟨s, hsa, hsb⟩
      obtain ⟨t, hta, rfl⟩ := Option.map_eq_some_iff.mp hsa
      obtain ⟨t', htb, heq⟩ := Option.map_eq_some_iff.mp hsb
      obtain rfl := shapeUnder_injective (shape_ne_nil hb htb) (shape_ne_nil ha hta) heq
      exact ⟨t', hta, htb⟩
    · rintro ⟨s, hsa, hsb⟩
      exact ⟨_, by rw [hsa, Option.map_some], by rw [hsb, Option.map_some]⟩
  show (a.under base = b.under base ∨ mounted base a.path ≠ mounted base b.path ∧ _) ↔ _
  rw [hroute, ne_eq, hpath]
  exact or_congr_right (and_congr_right fun _ => hshape)

end Mount

/-! ## Mounting -/

namespace Router

variable {H : Type} {router other router' : Router H} {base : String}

theorem below_eq_mounted (h : IsMount base) (hroot : base ≠ "/") (path : List Char) :
    below base.toList path = mounted base path := by
  have hlast : base.toList.getLast? ≠ some '/' := fun hlast => hroot (h.ended hlast)
  rw [below, if_neg hlast, mounted, if_neg hroot]

/-- A base with an asterisk is refused before any route is looked at; otherwise the routes are added
one by one. -/
theorem mount_eq (h : IsMount base) :
    router.mount base other =
      if base ≠ "/" ∧ '*' ∈ base.toList then .error (.asterisk base.toList)
      else other.resources.foldlM (fun router r => router.add (mounted base r.path) r.handlers)
        router := by
  unfold mount
  by_cases hroot : base = "/"
  · simp only [hroot, mounted, if_true, ne_eq, not_true_eq_false, false_and, if_false]
    rfl
  · have hbelow : ∀ path, below base.toList path = mounted base path := below_eq_mounted h hroot
    simp only [hroot, if_false, nest, List.contains_iff_mem, ne_eq, not_false_eq_true, true_and,
      hbelow]

/-- The routes of a mounted resource are its own routes, mounted. -/
theorem ofHandlers_mounted (path : List Char) (handlers : List (Method × H)) :
    Route.ofHandlers (mounted base path) handlers =
      (Route.ofHandlers path handlers).map (Route.under base) := by
  simp [Route.ofHandlers, Route.under, Function.comp_def]

theorem WellFormed.isPath (h : router.WellFormed) {r : Resource H} (hr : r ∈ router.resources) :
    IsPath r.path :=
  exists_shape?_iff.mp ⟨_, h.shape? hr⟩

theorem WellFormed.rooted_route (h : router.WellFormed) {a : Route} (ha : a ∈ router.routes) :
    a.path.head? = some '/' := by
  obtain ⟨r, hr, ha⟩ := mem_routes.mp ha
  obtain ⟨hpath, -⟩ := Route.mem_ofHandlers.mp ha
  rw [hpath]
  exact h.rooted r hr

theorem WellFormed.routes_ne_nil_iff (h : router.WellFormed) :
    router.routes ≠ [] ↔ ∃ r, r ∈ router.resources := by
  constructor
  · intro hne
    obtain ⟨a, ha⟩ := List.exists_mem_of_ne_nil _ hne
    obtain ⟨r, hr, -⟩ := mem_routes.mp ha
    exact ⟨r, hr⟩
  · rintro ⟨r, hr⟩
    obtain ⟨a, ha, -⟩ := h.exists_route hr
    exact List.ne_nil_of_mem ha

/-- The routes of two resources do not clash, and below a mount point they still do not. -/
theorem WellFormed.pairwise_apart (h : router.WellFormed) (hbase : IsPath base.toList) :
    router.resources.Pairwise fun r s =>
      ∀ a ∈ Route.ofHandlers (mounted base r.path) r.handlers,
        ∀ b ∈ Route.ofHandlers (mounted base s.path) s.handlers, ¬ a.Clash b := by
  refine (List.pairwise_map.mp h.distinct).imp_of_mem fun {r s} hr hs hne => ?_
  simp only [ofHandlers_mounted, List.forall_mem_map]
  intro a ha b hb
  obtain ⟨hapath, -⟩ := Route.mem_ofHandlers.mp ha
  obtain ⟨hbpath, -⟩ := Route.mem_ofHandlers.mp hb
  rw [clash_under_iff hbase (hapath ▸ h.rooted r hr) (hbpath ▸ h.rooted s hs)]
  rintro (rfl | ⟨-, x, hax, hbx⟩)
  · exact hne (by rw [h.eq_of_path hr hs (hapath.symm.trans hbpath)])
  · rw [hapath, h.shape? hr] at hax
    rw [hbpath, h.shape? hs] at hbx
    exact hne (Option.some.inj (hax.trans hbx.symm))

theorem flatMap_mounted :
    (other.resources.flatMap fun r => Route.ofHandlers (mounted base r.path) r.handlers) =
      other.routes.map (Route.under base) := by
  simp only [routes, ofHandlers_mounted, List.map_flatMap]

/-- Mounting adds the routes of the other router below the mount point. For that, the mount point
must not have an asterisk, and it must be a pattern if anything is to be put there. -/
theorem adding_mount (h : IsMount base) (hother : other.WellFormed) :
    Adding (fun router : Router H => router.mount base other) (other.routes.map (Route.under base))
      ('*' ∉ base.toList ∧ (other.routes ≠ [] → IsPath base.toList)) := by
  by_cases hasterisk : base ≠ "/" ∧ '*' ∈ base.toList
  · have hfail (router : Router H) :
        router.mount base other = .error (.asterisk base.toList) := by
      rw [mount_eq h, if_pos hasterisk]
    constructor
    · intro router _
      rw [hfail]
      exact iff_of_false nofun fun hfit => hfit.1.1 hasterisk.2
    · intro router router' _ hok
      rw [hfail] at hok
      contradiction
  · -- Otherwise a mount adds the resources one by one, and so what holds of a fold holds of it.
    have hmount : (fun router : Router H => router.mount base other) = fun router =>
        other.resources.foldlM (fun router r => router.add (mounted base r.path) r.handlers)
          router :=
      funext fun router => by rw [mount_eq h, if_neg hasterisk]
    have hsteps : ∀ r ∈ other.resources, Adding
        (fun router : Router H => router.add (mounted base r.path) r.handlers)
        (Route.ofHandlers (mounted base r.path) r.handlers) (IsPath (mounted base r.path)) :=
      fun r hr => adding_add (head?_mounted h (hother.rooted r hr)) (hother.served r hr)
    have hfit : ((∀ r ∈ other.resources, IsPath (mounted base r.path)) ∧
        other.resources.Pairwise fun r s =>
          ∀ a ∈ Route.ofHandlers (mounted base r.path) r.handlers,
            ∀ b ∈ Route.ofHandlers (mounted base s.path) s.handlers, ¬ a.Clash b) ↔
        '*' ∉ base.toList ∧ (other.routes ≠ [] → IsPath base.toList) := by
      rw [hother.routes_ne_nil_iff]
      constructor
      · rintro ⟨hpaths, -⟩
        have hbase : (∃ r, r ∈ other.resources) → IsPath base.toList := fun ⟨r, hr⟩ =>
          (isPath_mounted_iff (hother.rooted r hr) (hother.isPath hr)).mp (hpaths r hr)
        refine ⟨fun hmem => hasterisk ⟨?_, hmem⟩, hbase⟩
        rintro rfl
        simp at hmem
      · rintro ⟨-, hbase⟩
        refine ⟨fun r hr => ?_, ?_⟩
        · rw [isPath_mounted_iff (hother.rooted r hr) (hother.isPath hr)]
          exact hbase ⟨r, hr⟩
        · by_cases hany : ∃ r, r ∈ other.resources
          · exact hother.pairwise_apart (hbase hany)
          · -- Without resources the base is not looked at.
            rw [List.eq_nil_iff_forall_not_mem.mpr fun r hr => hany ⟨r, hr⟩]
            exact List.Pairwise.nil
    rw [hmount, ← flatMap_mounted]
    exact (Adding.foldlM hsteps).of_iff hfit

end Router

end AccountServer
