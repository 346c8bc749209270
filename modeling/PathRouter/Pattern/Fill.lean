import PathRouter.Pattern.Basic

/-!
# Paths of a pattern

A path is made from a pattern and values for its parameters: literal segments stand for themselves,
and each parameter takes the next value, which must be of its kind.
-/

namespace PathRouter

/-- The pieces of the path that the values make of the segments. -/
def Segment.fillAll? : List Segment → List String → Option (List String)
  | [], [] => some []
  | literal t :: ss, vs => (fillAll? ss vs).map (t :: ·)
  | param _ k :: ss, v :: vs => if k.accepts v then (fillAll? ss vs).map (v :: ·) else none
  | _, _ => none

namespace Pattern

/-- The path with the given values for the parameters from left to right. -/
def fill? (p : Pattern) (values : List String) : Option String :=
  if p.segments = [] then none
  else
    (Segment.fillAll? p.segments values).map fun pieces =>
      String.ofList ('/' :: Text.joinWith '/' (pieces.map String.toList))

/-- The path with the given values under the names of the parameters. -/
def fillNamed? (p : Pattern) (ps : Params) : Option String :=
  (p.paramNames.mapM ps.get?).bind p.fill?

end Pattern

end PathRouter
