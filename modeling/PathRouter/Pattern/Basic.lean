import PathRouter.Error
import PathRouter.OrderedMap
import PathRouter.Text.Pieces

/-!
# Patterns

A pattern is compiled from its source text: the pieces between slashes, without the slashes at both
ends, become its segments.  A path matches when it starts with a slash and its pieces fit the
segments one by one; the pieces at the parameters are captured under their names.  The same language
is described by the regular expression of the pattern.
-/

namespace PathRouter

/-- Captured values under the names of their parameters. -/
abbrev Params := OrderedMap String String

/-- A compiled pattern with the text from which it came. -/
structure Pattern where
  source : String
  segments : List Segment
  deriving DecidableEq, Repr

namespace Segment

/-- Adds the value captured at a segment. -/
def capture : Segment → String → Params → Params
  | literal _, _, ps => ps
  | param n _, value, ps => ps.put n value

/-- Matches the pieces of a path against segments from left to right.  When two parameters have one
name, the name keeps its first place and takes the last value. -/
def captureAll : List Segment → List String → Params → Option Params
  | [], [], ps => some ps
  | s :: ss, v :: vs, ps => if s.accepts v then captureAll ss vs (s.capture v ps) else none
  | _, _, _ => none

/-- Reads the segments of a pattern with the given source; the leftmost fault counts. -/
def parseAll (source : String) : List (List Char) → Except RouterError (List Segment)
  | [] => .ok []
  | cs :: rest =>
    match parse cs with
    | .error fault => .error (.invalidSegment source (String.ofList cs) fault)
    | .ok s =>
      match parseAll source rest with
      | .error e => .error e
      | .ok ss => .ok (s :: ss)

end Segment

namespace Pattern

/-- Compiles a pattern.  Slashes at both ends do not count, and nothing between them is one empty
literal, the root. -/
def compile (source : String) : Except RouterError Pattern :=
  match Segment.parseAll source (Text.splitOn '/' (Text.trimEnds '/' source.toList)) with
  | .error e => .error e
  | .ok segments => .ok ⟨source, segments⟩

/-- The names of the parameters from left to right. -/
def paramNames (p : Pattern) : List String := p.segments.filterMap Segment.name?

/-- The regular expression that accepts the same paths. -/
def expression (p : Pattern) : String :=
  String.ofList <|
    '^' :: '/' :: Text.joinWith '/' (p.segments.map fun s => s.expression.toList) ++ ['$']

/-- The captured values if the path matches. -/
def match? (p : Pattern) (path : String) : Option Params :=
  match path.toList with
  | '/' :: cs => Segment.captureAll p.segments ((Text.splitOn '/' cs).map String.ofList) ∅
  | _ => none

/-- Whether the path matches. -/
def accepts (p : Pattern) (path : String) : Bool := (p.match? path).isSome

end Pattern

end PathRouter
