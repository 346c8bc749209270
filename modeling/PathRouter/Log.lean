import PathRouter.Table

/-!
# Log records

Tables and registries tell what they do: which routes were registered, which requests no route
matches, and how many routes a loaded table has.
-/

namespace PathRouter

/-- The parts of the router that write records. -/
inductive LogSource where
  | table
  | registry
  deriving DecidableEq, Repr

/-- How important a record is. -/
inductive LogLevel where
  | debug
  | info
  deriving DecidableEq, Repr

/-- A log record. -/
inductive LogRecord where
  | registered (method : String) (pattern : Pattern)
  | noRoute (method path : Value)
  | loaded (count : Nat)

namespace LogRecord

/-- Who writes a record. -/
def source : LogRecord → LogSource
  | registered _ _ | noRoute _ _ => .table
  | loaded _ => .registry

/-- The level of a record. -/
def level : LogRecord → LogLevel
  | registered _ _ | noRoute _ _ => .debug
  | loaded _ => .info

/-- The text of a record. -/
def message : LogRecord → String
  | registered method pattern =>
    let names := ", ".intercalate pattern.paramNames
    "registered " ++ method ++ " " ++ pattern.source ++
      " (params: " ++ (if names = "" then "-" else names) ++ ")"
  | noRoute method path => "no route for " ++ method.shown ++ " " ++ path.written
  | loaded count => "loaded route table with " ++ toString count ++ " route(s)"

end LogRecord

/-- The record of the last registration in a table. -/
def RouteTable.lastRegistered {H : Type} (t : RouteTable H) : List LogRecord :=
  (t.routes.getLast?.map fun r => .registered r.method r.pattern).toList

end PathRouter
