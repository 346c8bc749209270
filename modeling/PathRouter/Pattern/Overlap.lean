import PathRouter.Pattern.Basic

/-!
# Patterns side by side

Two patterns overlap when a path matches both, and one covers another when it matches all paths of
the other.  Both can be seen segment by segment, and neither depends on the names of the parameters.
-/

namespace PathRouter

namespace Segment

/-- Whether `s` accepts all texts that `t` accepts. -/
def covers (s t : Segment) : Bool :=
  match s, t with
  | s, literal w => s.accepts w
  | literal _, param _ _ => false
  | param _ k, param _ l => k = .string || l = .int

/-- Whether some text is accepted by both segments. -/
def overlaps (s t : Segment) : Bool :=
  match s, t with
  | literal v, literal w => v = w
  | literal v, param _ k => k.accepts v
  | param _ k, literal w => k.accepts w
  | param _ _, param _ _ => true

/-- Whether a relation holds between the segments of two lists one by one. -/
def pairwise (related : Segment → Segment → Bool) : List Segment → List Segment → Bool
  | [], [] => true
  | s :: ss, t :: ts => related s t && pairwise related ss ts
  | _, _ => false

/-- The segment without the name of its parameter. -/
def unnamed : Segment → Segment
  | literal t => literal t
  | param _ k => param "" k

end Segment

namespace Pattern

/-- Whether `p` matches all paths that `q` matches. -/
def covers (p q : Pattern) : Bool := Segment.pairwise Segment.covers p.segments q.segments

/-- Whether some path matches both patterns. -/
def overlaps (p q : Pattern) : Bool := Segment.pairwise Segment.overlaps p.segments q.segments

/-- The segments without the names of the parameters. -/
def shape (p : Pattern) : List Segment := p.segments.map Segment.unnamed

end Pattern

end PathRouter
