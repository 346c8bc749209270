import PathRouter.Value.Basic

/-!
# Configurations of route tables

A configuration is read from plain data: a map with a list of routes, each a map with a method, a
path and a handler, which names its type and may carry a map of its own.  Only shapes are checked
here, and the first defect counts; other fields are ignored.
-/

namespace PathRouter

/-- A handler type and what its factory is given. -/
structure TypedConfig where
  typeUrl : String
  config : Value.Entries

/-- One route of a configuration. -/
structure RouteConfig where
  method : String
  path : String
  handler : TypedConfig

/-- The routes of a configuration in order. -/
structure RouteTableConfig where
  routes : List RouteConfig

/-- The fields that a route must have. -/
inductive RouteField where
  | method
  | path
  | handler
  deriving DecidableEq, Repr

/-- The name of a field. -/
def RouteField.name : RouteField → String
  | method => "method"
  | path => "path"
  | handler => "handler"

/-- What is wrong with data that is no configuration; `found` is the name of the type that stands
where another is expected. -/
inductive ConfigError where
  | notMap (found : String)
  | missingRoutes
  | routesNotList (found : String)
  | routeNotMap (found : String)
  | missingField (field : RouteField)
  | methodNotText (found : String)
  | pathNotText (found : String)
  | handlerNotMap (found : String)
  | missingType
  | typeNotText (found : String)
  | configNotMap (found : String)
  deriving DecidableEq, Repr

/-- The message of an error. -/
def ConfigError.message : ConfigError → String
  | notMap t => "expected dict, got " ++ t
  | missingRoutes => "missing required field 'routes'"
  | routesNotList t => "'routes' must be a list, got " ++ t
  | routeNotMap t => "route must be a dict, got " ++ t
  | missingField f => "route missing required field '" ++ f.name ++ "'"
  | methodNotText t => "'method' must be a string, got " ++ t
  | pathNotText t => "'path' must be a string, got " ++ t
  | handlerNotMap t => "handler must be a dict, got " ++ t
  | missingType => "handler missing required field 'type_url'"
  | typeNotText t => "type_url must be a string, got " ++ t
  | configNotMap t => "config must be a dict, got " ++ t

/-- Reads the handler of a route.  Without a map of its own it is given the empty one. -/
def TypedConfig.ofValue : Value → Except ConfigError TypedConfig
  | .map entries =>
    match Value.field? "type_url" entries with
    | none => .error .missingType
    | some (.text typeUrl) =>
      match Value.field? "config" entries with
      | none => .ok ⟨typeUrl, []⟩
      | some (.map config) => .ok ⟨typeUrl, config⟩
      | some v => .error (.configNotMap v.typeName)
    | some v => .error (.typeNotText v.typeName)
  | v => .error (.handlerNotMap v.typeName)

/-- Reads one route.  That a field is missing counts before the type of another. -/
def RouteConfig.ofValue : Value → Except ConfigError RouteConfig
  | .map entries =>
    match Value.field? "method" entries, Value.field? "path" entries,
        Value.field? "handler" entries with
    | none, _, _ => .error (.missingField .method)
    | _, none, _ => .error (.missingField .path)
    | _, _, none => .error (.missingField .handler)
    | some (.text method), some (.text path), some h =>
      match TypedConfig.ofValue h with
      | .error e => .error e
      | .ok handler => .ok ⟨method, path, handler⟩
    | some (.text _), some v, some _ => .error (.pathNotText v.typeName)
    | some v, some _, some _ => .error (.methodNotText v.typeName)
  | v => .error (.routeNotMap v.typeName)

namespace RouteTableConfig

/-- Reads routes in order. -/
def routesOf : List Value → Except ConfigError (List RouteConfig)
  | [] => .ok []
  | v :: vs =>
    match RouteConfig.ofValue v with
    | .error e => .error e
    | .ok r =>
      match routesOf vs with
      | .error e => .error e
      | .ok rs => .ok (r :: rs)

/-- Reads a configuration. -/
def ofValue : Value → Except ConfigError RouteTableConfig
  | .map entries =>
    match Value.field? "routes" entries with
    | none | some .null => .error .missingRoutes
    | some (.list vs) =>
      match routesOf vs with
      | .error e => .error e
      | .ok routes => .ok ⟨routes⟩
    | some v => .error (.routesNotList v.typeName)
  | v => .error (.notMap v.typeName)

end RouteTableConfig

/-! ### Configurations as data -/

/-- A handler as data. -/
def TypedConfig.toValue (h : TypedConfig) : Value :=
  .map [(.text "type_url", .text h.typeUrl), (.text "config", .map h.config)]

/-- A route as data. -/
def RouteConfig.toValue (r : RouteConfig) : Value :=
  .map [(.text "method", .text r.method), (.text "path", .text r.path),
    (.text "handler", r.handler.toValue)]

/-- A configuration as data. -/
def RouteTableConfig.toValue (c : RouteTableConfig) : Value :=
  .map [(.text "routes", .list (c.routes.map RouteConfig.toValue))]

end PathRouter
