import PathRouter.Proofs.Follows
import PathRouter.Proofs.Registry.Failures

/-!
# Records of loading

Loading a configuration records each route when it is registered, and a table when all are.  The log
of a load that fails therefore shows the routes before the first one that cannot be loaded, and no
table (`Registry.Logs`, `Registry.logs_iff`).  It is what loading these routes alone would write,
without the last record (`Registry.load_before_failure`).

Routes that can be loaded are registered one after the other, whatever stands behind them
(`Registry.loadRoutes_append`).  With nothing behind them this is a load that succeeds, and with a
route that cannot be loaded one that fails.
-/

namespace PathRouter

variable {H : Type}

/-! ### Registrations -/

/-- The record of a route that is registered. -/
def Route.record (r : Route H) : LogRecord := .registered r.method r.pattern

namespace LogRecord

/-- The record tells, for debugging, that a table registered a route with this method under this
pattern.  It shows the pattern as it was compiled. -/
structure TellsRoute (record : LogRecord) (method pattern : String) : Prop where
  source : record.source = .table
  level : record.level = .debug
  content : ∃ p, Pattern.compile pattern = .ok p ∧ record = .registered method p

/-- The record tells, for debugging, that a table has no route for a request. -/
structure TellsMiss (record : LogRecord) (method path : Value) : Prop where
  source : record.source = .table
  level : record.level = .debug
  content : record = .noRoute method path

/-- The record tells that a registry loaded a table with this number of routes. -/
structure TellsTable (record : LogRecord) (size : Nat) : Prop where
  source : record.source = .registry
  level : record.level = .info
  content : record = .loaded size

/-- Whether the record tells of a registration. -/
def isRegistration : LogRecord → Bool
  | registered _ _ => true
  | _ => false

/-- Only one record tells this. -/
lemma TellsRoute.unique {record record' : LogRecord} {method pattern : String}
    (h : record.TellsRoute method pattern) (h' : record'.TellsRoute method pattern) :
    record = record' := by
  obtain ⟨p, hp, rfl⟩ := h.content
  obtain ⟨q, hq, rfl⟩ := h'.content
  rw [Except.ok.inj (hp.symm.trans hq)]

end LogRecord

/-- The record of a route tells of the entry that it was. -/
lemma RouteEntry.Compiles.tells {e : RouteEntry H} {r : Route H} (h : e.Compiles r) :
    r.record.TellsRoute e.method e.pattern where
  source := rfl
  level := rfl
  content := ⟨r.pattern, h.2.1, by rw [Route.record, h.1]⟩

/-- The last record of a table is that of its last route. -/
lemma RouteTable.lastRegistered_append (t : RouteTable H) (r : Route H) :
    ({ t with routes := t.routes ++ [r] } : RouteTable H).lastRegistered = [r.record] := by
  simp [lastRegistered, Route.record]

/-- The records of routes are records of registrations. -/
lemma filter_isRegistration_map_record (rs : List (Route H)) :
    (rs.map Route.record).filter LogRecord.isRegistration = rs.map Route.record := by
  refine List.filter_eq_self.mpr fun record hrecord => ?_
  obtain ⟨r, -, rfl⟩ := List.mem_map.mp hrecord
  rfl

namespace Registry

/-! ### Routes -/

/-- The record tells of the route of a configuration. -/
def Tells (c : RouteConfig) (record : LogRecord) : Prop := record.TellsRoute c.method c.path

lemma rightUnique_tells : Relator.RightUnique Tells := fun _ _ _ h h' => h.unique h'

variable {r : Registry H} {t : RouteTable H}

/-- A route that can be loaded is appended to an open table, and its record tells of it. -/
lemma CanLoad.exists_route {c : RouteConfig} (h : r.CanLoad c) (hopen : t.frozen = false) :
    ∃ route : Route H, Tells c route.record ∧
      r.loadRoute t c = .ok { t with routes := t.routes ++ [route] } := by
  obtain ⟨t', ht'⟩ := h.loadRoute_eq_ok hopen
  obtain ⟨-, e, he, hregister⟩ := loadRoute_eq_ok_iff.mp ht'
  obtain ⟨-, route, hcompiles, rfl⟩ := (RouteTable.register_eq_ok_iff e).mp hregister
  have htells := hcompiles.tells
  rw [he.method, he.pattern] at htells
  exact ⟨route, htells, ht'⟩

/-- Routes that can be loaded are registered and recorded before those behind them. -/
theorem loadRoutes_append {cs : List RouteConfig} (h : ∀ c ∈ cs, r.CanLoad c)
    (hopen : t.frozen = false) (rest : List RouteConfig) :
    ∃ routes : List (Route H), List.Forall₂ Tells cs (routes.map Route.record) ∧
      let u : RouteTable H := { t with routes := t.routes ++ routes }
      r.loadRoutes t (cs ++ rest) =
        ((r.loadRoutes u rest).1, routes.map Route.record ++ (r.loadRoutes u rest).2) := by
  induction cs generalizing t with
  | nil => exact ⟨[], .nil, by simp⟩
  | cons c cs ih =>
    rw [List.forall_mem_cons] at h
    obtain ⟨route, htells, hload⟩ := h.1.exists_route hopen
    -- The table that the other routes are registered in has this one already.
    obtain ⟨routes, hroutes, hrest⟩ :=
      ih (t := { t with routes := t.routes ++ [route] }) h.2 hopen
    refine ⟨route :: routes, .cons htells hroutes, ?_⟩
    rw [List.cons_append, loadRoutes, hload]
    dsimp only
    rw [hrest, t.lastRegistered_append route]
    simp

/-! ### Configurations -/

variable {c : RouteTableConfig}

/-- A configuration whose routes can be loaded is loaded into a table of these routes. -/
lemma load_of_canLoad (hfew : c.routes.length ≤ maxRoutes) (hall : ∀ rc ∈ c.routes, r.CanLoad rc) :
    ∃ routes : List (Route H), List.Forall₂ Tells c.routes (routes.map Route.record) ∧
      r.load c = (.ok ⟨routes, true⟩, routes.map Route.record ++ [.loaded routes.length]) := by
  have hopen : (∅ : RouteTable H).frozen = false := rfl
  obtain ⟨routes, hroutes, hload⟩ := loadRoutes_append hall hopen []
  rw [List.append_nil] at hload
  refine ⟨routes, hroutes, ?_⟩
  rw [load, if_neg (Nat.not_lt.mpr hfew), hload]
  simp only [loadRoutes, List.append_nil]
  rfl

/-- A table that is loaded has the routes of which the log tells. -/
lemma log_of_load {t : RouteTable H} (h : (r.load c).1 = .ok t) :
    List.Forall₂ Tells c.routes (t.routes.map Route.record) ∧
      (r.load c).2 = t.routes.map Route.record ++ [.loaded t.size] := by
  obtain ⟨hfew, hshort, es, u, hes, hu, -⟩ := load_eq_ok_iff.mp h
  have hall : ∀ rc ∈ c.routes, r.CanLoad rc :=
    exists_registerAll_makes_iff.mp ⟨hshort, es, u, hes, hu⟩
  obtain ⟨routes, hroutes, hload⟩ := load_of_canLoad hfew hall
  rw [hload] at h ⊢
  obtain rfl := Except.ok.inj h
  exact ⟨hroutes, rfl⟩

/-- Loading the configuration stops when these routes are registered: none of them if there are too
many, and else those before the first one that cannot be loaded. -/
inductive Stops (r : Registry H) (c : RouteTableConfig) : List RouteConfig → Prop where
  /-- There are too many routes. -/
  | tooMany (hmany : maxRoutes < c.routes.length) : r.Stops c []
  /-- A route cannot be loaded. -/
  | failed (hfew : c.routes.length ≤ maxRoutes) {before after : List RouteConfig}
    {rc : RouteConfig} (hsplit : c.routes = before ++ rc :: after)
    (hbefore : ∀ b ∈ before, r.CanLoad b) (hrc : ¬r.CanLoad rc) : r.Stops c before

/-- Loading stops somewhere, or all routes can be loaded. -/
lemma stops_or_canLoad (r : Registry H) (c : RouteTableConfig) :
    (∃ before, r.Stops c before) ∨
      c.routes.length ≤ maxRoutes ∧ ∀ rc ∈ c.routes, r.CanLoad rc := by
  rcases Nat.lt_or_ge maxRoutes c.routes.length with hmany | hfew
  · exact .inl ⟨[], .tooMany hmany⟩
  · rcases forall_or_leftmost fun rc (_ : rc ∈ c.routes) => r.canLoad_or_fails rc with
      hall | ⟨e, before, rc, after, hsplit, hbefore, hrc⟩
    · exact .inr ⟨hfew, hall⟩
    · exact .inl ⟨before, .failed hfew hsplit hbefore (exists_fails_iff.mp ⟨e, hrc⟩)⟩

namespace Stops

variable {before : List RouteConfig}

/-- The routes before the failure can be loaded by themselves. -/
lemma canLoad (h : r.Stops c before) : before.length ≤ maxRoutes ∧ ∀ b ∈ before, r.CanLoad b := by
  cases h with
  | tooMany hmany => simp
  | failed hfew hsplit hbefore hrc =>
    have hshorter : before.length ≤ c.routes.length := by simp [hsplit]
    exact ⟨hshorter.trans hfew, hbefore⟩

/-- The load fails, with the records of the routes before the failure. -/
lemma load_eq (h : r.Stops c before) :
    ∃ (e : RouterError) (routes : List (Route H)),
      List.Forall₂ Tells before (routes.map Route.record) ∧
        r.load c = (.error e, routes.map Route.record) := by
  cases h with
  | tooMany hmany => exact ⟨_, [], .nil, by rw [load, if_pos hmany, List.map_nil]⟩
  | @failed hfew _ after rc hsplit hbefore hrc =>
    have hopen : (∅ : RouteTable H).frozen = false := rfl
    obtain ⟨e, hfails⟩ := exists_fails_iff.mpr hrc
    obtain ⟨routes, hroutes, hload⟩ := loadRoutes_append hbefore hopen (rc :: after)
    refine ⟨e, routes, hroutes, ?_⟩
    rw [load, if_neg (Nat.not_lt.mpr hfew), hsplit, hload]
    simp only [loadRoutes, hfails.loadRoute_eq_error (t := ⟨_, false⟩) rfl, List.append_nil, hopen]

end Stops

/-- Loading fails when it stops somewhere. -/
lemma exists_stops_iff : (∃ before, r.Stops c before) ↔ ∃ e, (r.load c).1 = .error e := by
  constructor
  · rintro ⟨before, hstops⟩
    obtain ⟨e, routes, -, hload⟩ := hstops.load_eq
    exact ⟨e, by rw [hload]⟩
  · rintro ⟨e, he⟩
    refine (r.stops_or_canLoad c).resolve_right ?_
    rintro ⟨hfew, hall⟩
    obtain ⟨routes, -, hload⟩ := load_of_canLoad hfew hall
    rw [hload] at he
    simp at he

/-- The routes before a failure are loaded by themselves with the same records, and one more. -/
theorem load_before_failure {before : List RouteConfig} (h : r.Stops c before) :
    ∃ t : RouteTable H, r.load ⟨before⟩ = (.ok t, (r.load c).2 ++ [.loaded t.size]) := by
  obtain ⟨hfew, hall⟩ := h.canLoad
  obtain ⟨e, routes, hroutes, hload⟩ := h.load_eq
  obtain ⟨routes', hroutes', hload'⟩ := load_of_canLoad (c := ⟨before⟩) hfew hall
  refine ⟨⟨routes', true⟩, ?_⟩
  rw [hload', hload, List.right_unique_forall₂' rightUnique_tells hroutes' hroutes]
  rfl

/-- The records of loading a configuration: those of the routes before the failure, or those of all
routes and then the one of the table. -/
inductive Logs (r : Registry H) (c : RouteTableConfig) : List LogRecord → Prop where
  /-- The load fails. -/
  | failed {before : List RouteConfig} (hstops : r.Stops c before) {log : List LogRecord}
    (hlog : List.Forall₂ Tells before log) : r.Logs c log
  /-- The load succeeds. -/
  | loaded {t : RouteTable H} (hload : (r.load c).1 = .ok t) {log : List LogRecord}
    (hlog : List.Forall₂ Tells c.routes log) {last : LogRecord} (hlast : last.TellsTable t.size) :
    r.Logs c (log ++ [last])

/-- One of these is the log of a load. -/
lemma logs_load (r : Registry H) (c : RouteTableConfig) : r.Logs c (r.load c).2 := by
  rcases r.stops_or_canLoad c with ⟨before, hstops⟩ | ⟨hfew, hall⟩
  · obtain ⟨e, routes, hroutes, hload⟩ := hstops.load_eq
    rw [hload]
    exact .failed hstops hroutes
  · obtain ⟨routes, hroutes, hload⟩ := load_of_canLoad hfew hall
    have hresult : (r.load c).1 = .ok ⟨routes, true⟩ := by rw [hload]
    rw [hload]
    exact .loaded hresult hroutes ⟨rfl, rfl, rfl⟩

/-- The log of a load is the one that is described. -/
theorem logs_iff {log : List LogRecord} : r.Logs c log ↔ (r.load c).2 = log := by
  constructor
  · intro h
    cases h with
    | failed hstops hlog =>
      obtain ⟨e, routes, hroutes, hload⟩ := hstops.load_eq
      rw [hload]
      exact List.right_unique_forall₂' rightUnique_tells hroutes hlog
    | loaded hresult hlog hlast =>
      obtain ⟨hroutes, hsame⟩ := log_of_load hresult
      rw [hsame, hlast.content, List.right_unique_forall₂' rightUnique_tells hroutes hlog]
  · rintro rfl
    exact r.logs_load c

end Registry

end PathRouter
