import PathRouter.Config
import PathRouter.Handler
import PathRouter.Log
import PathRouter.Version

/-!
# Registries of handler types

A registry knows handler types by name; each has a factory that makes a handler from a
configuration, or refuses it.  Loading a configuration registers its routes in order in a new table
and freezes it.  The first route that fails ends the loading, and the log keeps what was registered
before it.
-/

namespace PathRouter

/-- Makes a handler from a configuration. -/
abbrev Factory (H : Type) := Value.Entries → Except HandlerError H

/-- The factories by the names of their handler types. -/
structure Registry (H : Type) where
  factories : OrderedMap String (Factory H)

/-- A registry that is still being filled. -/
structure RegistryBuilder (H : Type) where
  factories : OrderedMap String (Factory H)

namespace RegistryBuilder

variable {H : Type}

/-- The builder without factories. -/
def empty : RegistryBuilder H := ⟨∅⟩

/-- Adds a factory; it replaces an earlier one with the same name. -/
def handler (b : RegistryBuilder H) (typeUrl : String) (factory : Factory H) : RegistryBuilder H :=
  ⟨b.factories.put typeUrl factory⟩

/-- Adds factories one after the other. -/
def handlers (b : RegistryBuilder H) (fs : List (String × Factory H)) : RegistryBuilder H :=
  fs.foldl (fun b f => b.handler f.1 f.2) b

/-- The registry with the factories added so far. -/
def build (b : RegistryBuilder H) : Registry H := ⟨b.factories⟩

end RegistryBuilder

namespace Registry

variable {H : Type}

/-- The registry without factories. -/
def empty : Registry H := ⟨∅⟩

/-- The number of handler types. -/
def count (r : Registry H) : Nat := r.factories.size

/-- Whether there is a handler type with this name. -/
def contains (r : Registry H) (typeUrl : String) : Bool := r.factories.contains typeUrl

/-- The names of the handler types in order. -/
def typeUrls (r : Registry H) : List String := sortedTexts r.factories.keys

/-- The handler of a route. -/
def makeHandler (r : Registry H) (c : TypedConfig) : Except RouterError H :=
  match r.factories.get? c.typeUrl with
  | none => .error (.unknownTypeOf c.typeUrl r.factories.keys)
  | some factory =>
    match factory c.config with
    | .error e => .error (.invalidConfig e.message)
    | .ok h => .ok h

/-- Registers one route.  The length of its path is checked first, then the handler is made, and
last the pattern is compiled. -/
def loadRoute (r : Registry H) (t : RouteTable H) (c : RouteConfig) :
    Except RouterError (RouteTable H) :=
  if maxPatternLength < c.path.length then .error (.patternTooLong c.path.length maxPatternLength)
  else
    match r.makeHandler c.handler with
    | .error e => .error e
    | .ok h => t.register c.method c.path h

/-- Registers routes in order, up to the first that fails, with the records of those before. -/
def loadRoutes (r : Registry H) (t : RouteTable H) :
    List RouteConfig → Except RouterError (RouteTable H) × List LogRecord
  | [] => (.ok t, [])
  | c :: cs =>
    match r.loadRoute t c with
    | .error e => (.error e, [])
    | .ok t' =>
      let (result, log) := r.loadRoutes t' cs
      (result, t'.lastRegistered ++ log)

/-- Loads a configuration into a new, frozen table. -/
def load (r : Registry H) (c : RouteTableConfig) :
    Except RouterError (RouteTable H) × List LogRecord :=
  if maxRoutes < c.routes.length then (.error (.tooManyRoutes c.routes.length maxRoutes), [])
  else
    match r.loadRoutes ∅ c.routes with
    | (.error e, log) => (.error e, log)
    | (.ok t, log) => (.ok t.freeze, log ++ [.loaded t.size])

end Registry

end PathRouter
