import PathRouter.Pattern.Basic
import PathRouter.Value.Written

/-!
# Route tables

A table is a list of routes in the order of their registration.  The first route with the method of
a request and a pattern that matches its path answers it.  Routes are only ever appended, and none
is once the table is frozen.
-/

namespace PathRouter

/-- A method, a pattern and what answers the requests that match both. -/
structure Route (H : Type) where
  method : String
  pattern : Pattern
  handler : H
  deriving DecidableEq, Repr

/-- The captured values if the route matches a request. -/
def Route.match? {H : Type} (r : Route H) (method path : String) : Option Params :=
  if r.method = method then r.pattern.match? path else none

/-- A route that is to be registered. -/
structure RouteEntry (H : Type) where
  method : String
  pattern : String
  handler : H

/-- The routes in order, and whether there can be more. -/
structure RouteTable (H : Type) where
  routes : List (Route H)
  frozen : Bool
  deriving Repr

/-- The answer of a table to a request: which route matches first, and what it captures. -/
structure Hit (H : Type) where
  index : Nat
  route : Route H
  params : Params

namespace RouteTable

variable {H : Type}

/-- The table without routes. -/
def empty : RouteTable H := ⟨[], false⟩

instance : EmptyCollection (RouteTable H) := ⟨empty⟩

instance : Inhabited (RouteTable H) := ⟨empty⟩

/-- The number of routes. -/
def size (t : RouteTable H) : Nat := t.routes.length

/-- Appends a route.  A frozen table refuses it before the pattern is looked at. -/
def register (t : RouteTable H) (method pattern : String) (handler : H) :
    Except RouterError (RouteTable H) :=
  if t.frozen then .error (.frozen method pattern)
  else
    match Pattern.compile pattern with
    | .error e => .error e
    | .ok p => .ok { t with routes := t.routes ++ [⟨method, p, handler⟩] }

/-- Registers routes in order, up to the first that fails. -/
def registerAll (t : RouteTable H) : List (RouteEntry H) → Except RouterError (RouteTable H)
  | [] => .ok t
  | e :: es =>
    match t.register e.method e.pattern e.handler with
    | .error error => .error error
    | .ok t => t.registerAll es

/-- Makes the table refuse further routes. -/
def freeze (t : RouteTable H) : RouteTable H := { t with frozen := true }

/-- The first match among routes whose first one has index `i`. -/
def firstHit? (method path : String) : Nat → List (Route H) → Option (Hit H)
  | _, [] => none
  | i, r :: rs =>
    match r.match? method path with
    | some params => some ⟨i, r, params⟩
    | none => firstHit? method path (i + 1) rs

/-- The first route that matches a request. -/
def find? (t : RouteTable H) (method path : String) : Option (Hit H) :=
  firstHit? method path 0 t.routes

/-- The first route that matches a request given as data; only texts match. -/
def lookup? (t : RouteTable H) : Value → Value → Option (Hit H)
  | .text method, .text path => t.find? method path
  | _, _ => none

/-- Hands a request to the handler of the first route that matches, or to nobody. -/
def dispatch {α : Type} (t : RouteTable H) (invoke : H → Params → α) (missed : α)
    (method path : Value) : α :=
  match t.lookup? method path with
  | some hit => invoke hit.route.handler hit.params
  | none => missed

end RouteTable

end PathRouter
