import PathRouter.Proofs.Table.Registration
import PathRouter.Registry

/-!
# Loading is registering

A route of a configuration stands for an entry, whose handler is what the factory of the named type
makes of the configuration (`Registry.Makes`).  Loading a configuration does nothing but register
these entries by hand, in their order, and freeze the table; it succeeds when there are not too many
routes, no path is too long, every handler can be made and every path compiles
(`Registry.load_refines_registration`).

The steps follow the loader: making one handler, loading one route, loading a list of routes into a
table that may already hold some (`Registry.loadRoutes_eq_ok_iff`), and freezing.
-/

namespace PathRouter.Registry

variable {H : Type}

/-- The entry has the method and the path of the route, and its handler is what the factory of the
named type makes of the configuration. -/
structure Makes (r : Registry H) (c : RouteConfig) (e : RouteEntry H) : Prop where
  method : e.method = c.method
  pattern : e.pattern = c.path
  handler : ∃ factory, r.factories.get? c.handler.typeUrl = some factory ∧
    factory c.handler.config = .ok e.handler

/-- Everything is right with a route: its path is not too long and compiles, and its handler can be
made. -/
structure CanLoad (r : Registry H) (c : RouteConfig) : Prop where
  short : c.path.length ≤ maxPatternLength
  handler : ∃ factory h, r.factories.get? c.handler.typeUrl = some factory ∧
    factory c.handler.config = .ok h
  path : ∃ p, Pattern.compile c.path = .ok p

/-! ### One route -/

/-- A handler is made by the factory of its type. -/
lemma makeHandler_eq_ok_iff {r : Registry H} {c : TypedConfig} {h : H} :
    r.makeHandler c = .ok h ↔
      ∃ factory, r.factories.get? c.typeUrl = some factory ∧ factory c.config = .ok h := by
  unfold makeHandler
  cases r.factories.get? c.typeUrl with
  | none => simp
  | some factory => cases hmade : factory c.config <;> simp [hmade]

/-- A route stands for an entry when its handler can be made. -/
lemma exists_makes_iff {r : Registry H} {c : RouteConfig} :
    (∃ e, r.Makes c e) ↔ ∃ factory h, r.factories.get? c.handler.typeUrl = some factory ∧
      factory c.handler.config = .ok h := by
  constructor
  · rintro ⟨e, -, -, factory, hfactory, hmade⟩
    exact ⟨factory, e.handler, hfactory, hmade⟩
  · rintro ⟨factory, h, hfactory, hmade⟩
    exact ⟨⟨c.method, c.path, h⟩, rfl, rfl, factory, hfactory, hmade⟩

/-- A route is loaded by registering its entry, unless its path is too long. -/
lemma loadRoute_eq_ok_iff {r : Registry H} {t t' : RouteTable H} {c : RouteConfig} :
    r.loadRoute t c = .ok t' ↔ c.path.length ≤ maxPatternLength ∧
      ∃ e, r.Makes c e ∧ t.register e.method e.pattern e.handler = .ok t' := by
  unfold loadRoute
  by_cases hlong : maxPatternLength < c.path.length
  · rw [if_pos hlong]
    simp [Nat.not_le.mpr hlong]
  · rw [if_neg hlong]
    constructor
    · intro h
      split at h
      · simp at h
      · rename_i handler hmade
        exact ⟨Nat.not_lt.mp hlong, ⟨c.method, c.path, handler⟩,
          ⟨rfl, rfl, makeHandler_eq_ok_iff.mp hmade⟩, h⟩
    · rintro ⟨-, ⟨method, pattern, handler⟩, ⟨rfl, rfl, hmade⟩, h⟩
      rw [makeHandler_eq_ok_iff.mpr hmade]
      exact h

/-! ### All routes -/

/-- The first route is loaded before the others. -/
lemma fst_loadRoutes_cons {r : Registry H} {t : RouteTable H} {c : RouteConfig}
    {cs : List RouteConfig} :
    (r.loadRoutes t (c :: cs)).1 = (r.loadRoute t c).bind fun t' => (r.loadRoutes t' cs).1 := by
  rw [loadRoutes]
  cases r.loadRoute t c <;> rfl

/-- Routes are loaded by registering their entries in order. -/
theorem loadRoutes_eq_ok_iff {r : Registry H} {t t' : RouteTable H} {cs : List RouteConfig} :
    (r.loadRoutes t cs).1 = .ok t' ↔ (∀ c ∈ cs, c.path.length ≤ maxPatternLength) ∧
      ∃ es, List.Forall₂ r.Makes cs es ∧ t.registerAll es = .ok t' := by
  induction cs generalizing t with
  | nil => simp [loadRoutes, RouteTable.registerAll]
  | cons c cs ih =>
    rw [fst_loadRoutes_cons, List.forall_mem_cons]
    constructor
    · intro h
      cases hstep : r.loadRoute t c with
      | error e => simp [hstep, Except.bind] at h
      | ok t₁ =>
        rw [hstep] at h
        obtain ⟨hshort, e, he, hregister⟩ := loadRoute_eq_ok_iff.mp hstep
        obtain ⟨hrest, es, hes, hall⟩ := ih.mp h
        refine ⟨⟨hshort, hrest⟩, e :: es, .cons he hes, ?_⟩
        rw [RouteTable.registerAll, hregister]
        exact hall
    · rintro ⟨⟨hshort, hrest⟩, all, hall, hregistered⟩
      obtain ⟨e, es, he, hes, rfl⟩ := List.forall₂_cons_left_iff.mp hall
      rw [RouteTable.registerAll] at hregistered
      split at hregistered
      · simp at hregistered
      · rename_i t₁ hregister
        rw [loadRoute_eq_ok_iff.mpr ⟨hshort, e, he, hregister⟩]
        exact ih.mpr ⟨hrest, es, hes, hregistered⟩

/-- A loaded table is frozen after its entries are registered. -/
theorem load_eq_ok_iff {r : Registry H} {c : RouteTableConfig} {t : RouteTable H} :
    (r.load c).1 = .ok t ↔ c.routes.length ≤ maxRoutes ∧
      (∀ rc ∈ c.routes, rc.path.length ≤ maxPatternLength) ∧
      ∃ es u, List.Forall₂ r.Makes c.routes es ∧ (∅ : RouteTable H).registerAll es = .ok u ∧
        t = u.freeze := by
  unfold load
  by_cases hmany : maxRoutes < c.routes.length
  · rw [if_pos hmany]
    simp [Nat.not_le.mpr hmany]
  · have hroutes : ∀ u, (r.loadRoutes ∅ c.routes).1 = .ok u ↔
        (∀ rc ∈ c.routes, rc.path.length ≤ maxPatternLength) ∧
          ∃ es, List.Forall₂ r.Makes c.routes es ∧ (∅ : RouteTable H).registerAll es = .ok u :=
      fun u => loadRoutes_eq_ok_iff
    rw [if_neg hmany]
    constructor
    · intro h
      cases hload : r.loadRoutes ∅ c.routes with
      | mk result log =>
        cases result with
        | error e => simp [hload] at h
        | ok u =>
          obtain ⟨hshort, es, hes, hall⟩ := (hroutes u).mp (congrArg Prod.fst hload)
          have ht : u.freeze = t := by simpa [hload] using h
          exact ⟨Nat.not_lt.mp hmany, hshort, es, u, hes, hall, ht.symm⟩
    · rintro ⟨-, hshort, es, u, hes, hall, rfl⟩
      have hfst := (hroutes u).mpr ⟨hshort, es, hes, hall⟩
      cases hload : r.loadRoutes ∅ c.routes with
      | mk result log =>
        obtain rfl : result = .ok u := by simpa [hload] using hfst
        rfl

/-- The entries have the paths of the routes as their patterns. -/
lemma map_pattern_of_makes {r : Registry H} {cs : List RouteConfig} {es : List (RouteEntry H)}
    (h : List.Forall₂ r.Makes cs es) : es.map RouteEntry.pattern = cs.map RouteConfig.path := by
  induction h with
  | nil => rfl
  | cons he _ ih => rw [List.map_cons, List.map_cons, he.pattern, ih]

/-- Entries can be made and registered when everything is right with the routes. -/
lemma exists_registerAll_makes_iff {r : Registry H} {cs : List RouteConfig} :
    ((∀ c ∈ cs, c.path.length ≤ maxPatternLength) ∧ ∃ es u, List.Forall₂ r.Makes cs es ∧
      (∅ : RouteTable H).registerAll es = .ok u) ↔ ∀ c ∈ cs, r.CanLoad c := by
  have hopen : (∅ : RouteTable H).frozen = false := rfl
  have hcompile : ∀ es : List (RouteEntry H), List.Forall₂ r.Makes cs es →
      ((∃ u, (∅ : RouteTable H).registerAll es = .ok u) ↔
        ∀ c ∈ cs, ∃ p, Pattern.compile c.path = .ok p) := by
    intro es hes
    have hpatterns : (∀ e ∈ es, ∃ p, Pattern.compile e.pattern = .ok p) ↔
        ∀ source ∈ es.map RouteEntry.pattern, ∃ p, Pattern.compile source = .ok p := by simp
    rw [RouteTable.exists_registerAll_iff hopen, hpatterns, map_pattern_of_makes hes]
    simp
  constructor
  · rintro ⟨hshort, es, u, hes, hu⟩ c hc
    exact ⟨hshort c hc, exists_makes_iff.mp (exists_forall₂_iff.mp ⟨es, hes⟩ c hc),
      (hcompile es hes).mp ⟨u, hu⟩ c hc⟩
  · intro h
    obtain ⟨es, hes⟩ := exists_forall₂_iff.mpr fun c hc => exists_makes_iff.mpr (h c hc).handler
    obtain ⟨u, hu⟩ := (hcompile es hes).mpr fun c hc => (h c hc).path
    exact ⟨fun c hc => (h c hc).short, es, u, hes, hu⟩

/-- **Loading refines registration by hand.**  A configuration is loaded exactly when there are not
too many routes and everything is right with each.  The table is then the one in which the entries
of the routes were registered in order, and that was frozen: it has the same routes, answers and
dispatches alike, and takes no more routes. -/
theorem load_refines_registration (r : Registry H) (c : RouteTableConfig) :
    ((∃ t, (r.load c).1 = .ok t) ↔
      c.routes.length ≤ maxRoutes ∧ ∀ rc ∈ c.routes, r.CanLoad rc) ∧
    ∀ t, (r.load c).1 = .ok t →
      ∃ es u, List.Forall₂ r.Makes c.routes es ∧ (∅ : RouteTable H).registerAll es = .ok u ∧
        t.frozen = true ∧ t.size = c.routes.length ∧ t.size = u.size ∧ t.routes = u.routes ∧
        (∀ method path : Value, t.lookup? method path = u.freeze.lookup? method path ∧
          ∀ (α : Type) (invoke : H → Params → α) (missed : α),
            t.dispatch invoke missed method path = u.freeze.dispatch invoke missed method path) ∧
        ∀ (method pattern : String) (h : H),
          t.register method pattern h = .error (.frozen method pattern) ∧
            u.freeze.register method pattern h = .error (.frozen method pattern) := by
  constructor
  · simp only [load_eq_ok_iff]
    rw [← exists_registerAll_makes_iff]
    constructor
    · rintro ⟨t, hfew, hshort, es, u, hes, hu, -⟩
      exact ⟨hfew, hshort, es, u, hes, hu⟩
    · rintro ⟨hfew, hshort, es, u, hes, hu⟩
      exact ⟨u.freeze, hfew, hshort, es, u, hes, hu, rfl⟩
  · intro t ht
    obtain ⟨-, -, es, u, hes, hu, rfl⟩ := load_eq_ok_iff.mp ht
    have hsize : u.freeze.size = c.routes.length :=
      (RouteTable.compiles_of_registerAll hu).length_eq.symm.trans hes.length_eq.symm
    exact ⟨es, u, hes, hu, rfl, hsize, rfl, rfl, fun method path => ⟨rfl, fun _ _ _ => rfl⟩,
      fun method pattern h => ⟨rfl, rfl⟩⟩

/-- Two pages of users are loaded; a route whose factory refuses its configuration is not. -/
theorem load_refines_registration_user :
    let r : Registry Nat := ((RegistryBuilder.empty.handler "app.User" fun _ => .ok 1).handler
      "app.Broken" fun _ => .error (.failed "broken")).build
    let byId : RouteConfig := ⟨"GET", "/user/:id(int)", ⟨"app.User", []⟩⟩
    let byName : RouteConfig := ⟨"GET", "/user/:name(string)", ⟨"app.User", []⟩⟩
    let broken : RouteConfig := ⟨"GET", "/broken", ⟨"app.Broken", []⟩⟩
    (∃ t, (r.load ⟨[byId, byName]⟩).1 = .ok t ∧ t.size = 2 ∧ t.frozen = true ∧
      ∀ h, t.register "GET" "/late/:x" h = .error (.frozen "GET" "/late/:x")) ∧
    ¬∃ t, (r.load ⟨[byId, broken]⟩).1 = .ok t := by
  intro r byId byName broken
  constructor
  · obtain ⟨hloads, htable⟩ := load_refines_registration r ⟨[byId, byName]⟩
    have hid : r.CanLoad byId :=
      ⟨by decide, ⟨_, 1, rfl, rfl⟩,
        ⟨"/user/:id(int)", [.literal "user", .param "id" .int]⟩, by decide +kernel⟩
    have hname : r.CanLoad byName :=
      ⟨by decide, ⟨_, 1, rfl, rfl⟩,
        ⟨"/user/:name(string)", [.literal "user", .param "name" .string]⟩, by decide +kernel⟩
    have hall : ∀ rc ∈ [byId, byName], r.CanLoad rc := by
      simp only [List.forall_mem_cons]
      exact ⟨hid, hname, by simp⟩
    obtain ⟨t, ht⟩ := hloads.mpr ⟨by decide, hall⟩
    obtain ⟨es, u, -, -, hfrozen, hsize, -, -, -, hlate⟩ := htable t ht
    exact ⟨t, ht, hsize, hfrozen, fun h => (hlate _ _ h).1⟩
  · obtain ⟨hloads, -⟩ := load_refines_registration r ⟨[byId, broken]⟩
    intro hloaded
    obtain ⟨factory, h, hfactory, hmade⟩ := ((hloads.mp hloaded).2 broken (by simp)).handler
    obtain rfl : (fun _ => .error (.failed "broken")) = factory := Option.some_inj.mp hfactory
    exact absurd hmade (by simp)

end PathRouter.Registry
