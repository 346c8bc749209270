import PathRouter.Segment.Parse

/-!
# Errors of the router

Registering a route and loading a table can fail; matching cannot.  Every error is a cause with the
data that belongs to it, and has one message.
-/

namespace PathRouter

/-- What registering a route or loading a table can fail with. -/
inductive RouterError where
  /-- A segment of a pattern starts with a colon but is no parameter. -/
  | invalidSegment (pattern segment : String) (fault : Segment.Fault)
  /-- The table takes no more routes. -/
  | frozen (method pattern : String)
  /-- No handler type has this name; `available` are the names there are, in order. -/
  | unknownType (typeUrl : String) (available : List String)
  /-- A factory refused its configuration. -/
  | invalidConfig (source : String)
  /-- A configuration has too many routes. -/
  | tooManyRoutes (count limit : Int)
  /-- A pattern is too long. -/
  | patternTooLong (length limit : Int)
  /-- Any other failure. -/
  | other (message : String)
  deriving DecidableEq, Repr

/-- Texts in the order of their code points. -/
def sortedTexts (ts : List String) : List String := ts.mergeSort fun a b => decide (a ≤ b)

namespace RouterError

/-- No handler type is called `typeUrl`, only those in `available`, in any order. -/
def unknownTypeOf (typeUrl : String) (available : List String) : RouterError :=
  unknownType typeUrl (sortedTexts available)

/-- The message of an error. -/
def message : RouterError → String
  | invalidSegment p s f =>
    "invalid route segment " ++ Text.quote s ++ " in pattern " ++ Text.quote p ++ ": " ++ f.reason
  | frozen m p => "cannot register " ++ m ++ " " ++ Text.quote p ++ ": route table is frozen"
  | unknownType u available =>
    "unknown handler type_url: " ++ Text.quote u ++
      if available = [] then " (no handler types are registered)"
      else " (registered: " ++ ", ".intercalate available ++ ")"
  | invalidConfig source => "invalid config: " ++ source
  | tooManyRoutes count limit =>
    "too many routes: " ++ toString count ++ " exceeds maximum " ++ toString limit
  | patternTooLong length limit =>
    "pattern length " ++ toString length ++ " exceeds maximum " ++ toString limit
  | other message => message

end RouterError

end PathRouter
