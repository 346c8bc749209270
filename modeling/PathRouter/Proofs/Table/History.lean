import Mathlib.Tactic.Common
import PathRouter.Proofs.Table.Registration

/-!
# The history of a table

A table changes in two ways only: a route is registered, or the table is frozen.  This file follows
a table through a list of such events, some of which may fail.  The registrations before the first
freeze whose patterns compile make up the table (`RouteTable.afterAll_empty`), so its routes at one
moment are a prefix of those at every later moment (`TableEvent.routes_prefix`).
-/

namespace PathRouter

variable {H : Type}

/-- The route that an entry becomes, if its pattern compiles. -/
def RouteEntry.route? (e : RouteEntry H) : Option (Route H) :=
  match Pattern.compile e.pattern with
  | .ok p => some ⟨e.method, p, e.handler⟩
  | .error _ => none

/-- What a table may be asked to do that can change it. -/
inductive TableEvent (H : Type) where
  /-- An entry is registered. -/
  | register (e : RouteEntry H)
  /-- The table is frozen. -/
  | freeze

namespace TableEvent

/-- Whether the table is frozen. -/
def isFreeze : TableEvent H → Bool
  | register _ => false
  | freeze => true

/-- The route that is registered, if its pattern compiles. -/
def route? : TableEvent H → Option (Route H)
  | register e => e.route?
  | freeze => none

/-- The routes of the registrations before the first freeze, as far as their patterns compile. -/
def routes (evs : List (TableEvent H)) : List (Route H) :=
  (evs.takeWhile fun ev => !ev.isFreeze).filterMap route?

/-- Events that come later only add routes. -/
lemma routes_append (evs more : List (TableEvent H)) :
    routes (evs ++ more) = routes evs ++ if evs.any isFreeze then [] else routes more := by
  induction evs with
  | nil => simp [routes]
  | cons ev evs ih =>
    cases ev with
    | freeze => simp [routes, isFreeze]
    | register e =>
      have hcons : ∀ rest : List (TableEvent H),
          routes (register e :: rest) = e.route?.toList ++ routes rest := by
        intro rest
        cases he : e.route? <;> simp [routes, isFreeze, route?, he]
      rw [List.cons_append, hcons, hcons, ih, List.append_assoc]
      simp [isFreeze]

/-- The routes at one moment are a prefix of those at every later moment. -/
theorem routes_prefix (evs more : List (TableEvent H)) : routes evs <+: routes (evs ++ more) := by
  rw [routes_append]
  exact List.prefix_append _ _

end TableEvent

namespace RouteTable

/-- The table after an event.  A registration that fails leaves it as it is. -/
def after (t : RouteTable H) : TableEvent H → RouteTable H
  | .register e =>
    match t.register e.method e.pattern e.handler with
    | .ok t' => t'
    | .error _ => t
  | .freeze => t.freeze

/-- The table after a list of events. -/
def afterAll (t : RouteTable H) (evs : List (TableEvent H)) : RouteTable H := evs.foldl after t

/-! ### One event -/

/-- A frozen table refuses a registration, whatever its pattern. -/
lemma register_of_frozen {t : RouteTable H} (ht : t.frozen = true) (method pattern : String)
    (handler : H) : t.register method pattern handler = .error (.frozen method pattern) := by
  rw [register, if_pos ht]

/-- In an open table the pattern decides. -/
lemma register_of_open {t : RouteTable H} (ht : t.frozen = false) (method pattern : String)
    (handler : H) : t.register method pattern handler =
      (Pattern.compile pattern).map fun p =>
        { t with routes := t.routes ++ [⟨method, p, handler⟩] } := by
  rw [register, if_neg (by simp [ht])]
  cases Pattern.compile pattern <;> rfl

/-- Nothing changes a frozen table. -/
lemma after_of_frozen {t : RouteTable H} (ht : t.frozen = true) (ev : TableEvent H) :
    t.after ev = t := by
  obtain ⟨routes, frozen⟩ := t
  obtain rfl : frozen = true := ht
  cases ev with
  | register e => rw [after, register_of_frozen rfl]
  | freeze => rfl

/-- An open table takes the route of an entry, if there is one. -/
lemma after_register_of_open {t : RouteTable H} (ht : t.frozen = false) (e : RouteEntry H) :
    t.after (.register e) = { t with routes := t.routes ++ e.route?.toList } := by
  rw [after, register_of_open ht, RouteEntry.route?]
  cases Pattern.compile e.pattern with
  | error error => simp [Except.map]
  | ok p => rfl

/-- What an event does to a table: nothing, unless it freezes the table or registers a route in an
open one. -/
lemma after_cases (t : RouteTable H) (ev : TableEvent H) :
    (t.after ev).routes = t.routes ∨
      ∃ e r, ev = .register e ∧ e.Compiles r ∧ t.frozen = false ∧
        t.after ev = { t with routes := t.routes ++ [r] } := by
  cases ev with
  | freeze => exact .inl rfl
  | register e =>
    cases hregister : t.register e.method e.pattern e.handler with
    | error error =>
      left
      rw [after, hregister]
    | ok u =>
      right
      obtain ⟨hopen, r, hr, hu⟩ := (register_eq_ok_iff e).mp hregister
      refine ⟨e, r, rfl, hr, hopen, ?_⟩
      rw [after, hregister]
      exact hu

/-! ### All events -/

lemma afterAll_append (t : RouteTable H) (evs more : List (TableEvent H)) :
    t.afterAll (evs ++ more) = (t.afterAll evs).afterAll more :=
  List.foldl_append

lemma afterAll_of_frozen {t : RouteTable H} (ht : t.frozen = true) (evs : List (TableEvent H)) :
    t.afterAll evs = t := by
  induction evs with
  | nil => rfl
  | cons ev evs ih =>
    rw [afterAll, List.foldl_cons, after_of_frozen ht]
    exact ih

/-- An open table takes the routes of the registrations before the first freeze. -/
theorem afterAll_of_open {t : RouteTable H} (ht : t.frozen = false) (evs : List (TableEvent H)) :
    t.afterAll evs = ⟨t.routes ++ TableEvent.routes evs, evs.any TableEvent.isFreeze⟩ := by
  induction evs generalizing t with
  | nil =>
    obtain ⟨routes, frozen⟩ := t
    obtain rfl : frozen = false := ht
    simp [afterAll, TableEvent.routes]
  | cons ev evs ih =>
    rw [afterAll, List.foldl_cons, ← afterAll]
    cases ev with
    | freeze =>
      have hfrozen : (t.after .freeze).frozen = true := rfl
      rw [afterAll_of_frozen hfrozen]
      simp [after, freeze, TableEvent.routes, TableEvent.isFreeze]
    | register e =>
      rw [after_register_of_open ht, ih (by exact ht)]
      cases he : e.route? <;>
        simp [TableEvent.routes, TableEvent.isFreeze, TableEvent.route?, he]

/-- Events only add routes. -/
lemma routes_prefix_afterAll (t : RouteTable H) (evs : List (TableEvent H)) :
    t.routes <+: (t.afterAll evs).routes := by
  cases ht : t.frozen with
  | true =>
    have hsame : t.afterAll evs = t := afterAll_of_frozen ht evs
    exact ⟨[], by rw [hsame, List.append_nil]⟩
  | false =>
    rw [afterAll_of_open ht]
    exact List.prefix_append _ _

/-- A table that was empty is made up of the registrations before the first freeze, and it is frozen
when a freeze has occurred. -/
theorem afterAll_empty (evs : List (TableEvent H)) :
    (∅ : RouteTable H).afterAll evs = ⟨TableEvent.routes evs, evs.any TableEvent.isFreeze⟩ := by
  have hopen : (∅ : RouteTable H).frozen = false := rfl
  rw [afterAll_of_open hopen]
  rfl

end RouteTable

end PathRouter
