import PathRouter.Registry

/-!
# Factories

Any function from configurations to handlers is a factory, and it may refuse a configuration.  Some
factories are ready-made.  A template handler is configured by its template; the others serve to try
a registry out: their handlers reply with fixed values or with what they were given, or there is no
handler at all.
-/

namespace PathRouter

/-- How the handlers of a type are made. -/
inductive FactorySpec where
  /-- By a function of the configuration. -/
  | function (make : Factory Handler)
  /-- The field `template` is the template. -/
  | format
  /-- Handlers that reply with a fixed value. -/
  | constant (v : Value)
  /-- Handlers that reply with their configuration and the parameters. -/
  | echo
  /-- Refuses every configuration. -/
  | failing (error : HandlerError)
  /-- Handlers that reply with one field of their configuration, which must be there. -/
  | require (key : String)

/-- Makes a handler. -/
def FactorySpec.make : FactorySpec → Factory Handler
  | function make, config => make config
  | format, config =>
    match Value.field? "template" config with
    | some (.text template) => .ok (.format template)
    | _ => .error (.badValue "FormatHandler requires a 'template' field (string)")
  | constant v, _ => .ok (.constant v)
  | echo, config => .ok (.echoConfig config)
  | failing e, _ => .error e
  | require key, config =>
    match Value.field? key config with
    | some v => .ok (.constant v)
    | none => .error (.missingKey key)

end PathRouter
