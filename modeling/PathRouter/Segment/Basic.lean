import PathRouter.Expression.Escape

/-!
# Segments of a pattern

A pattern is a list of segments.  A literal segment accepts one text, a parameter segment every
nonempty word over the characters of its kind.  Each segment also has the regular expression that
accepts the same texts.
-/

namespace PathRouter

/-- The kinds of parameters. -/
inductive ParamKind where
  | int
  | string
  deriving DecidableEq, Repr

namespace ParamKind

/-- The keyword of a kind. -/
def keyword : ParamKind → String
  | int => "int"
  | string => "string"

/-- All kinds in the order of their keywords. -/
def all : List ParamKind := [int, string]

/-- The kind with a keyword. -/
def ofKeyword? (w : String) : Option ParamKind := all.find? fun k => k.keyword = w

/-- The regular expression of a kind. -/
def constraint : ParamKind → String
  | int => "\\d+"
  | string => "[a-zA-Z0-9_-]+"

/-- The characters of a kind: the ASCII digits, or these with the ASCII letters, `_` and `-`. -/
def admits : ParamKind → Char → Bool
  | int, c => c.isDigit
  | string, c => c.isAlphanum || c = '_' || c = '-'

/-- The values of a kind are the nonempty words over its characters. -/
def accepts (k : ParamKind) (value : String) : Bool :=
  value.toList ≠ [] && value.toList.all k.admits

@[simp] theorem ofKeyword?_keyword (k : ParamKind) : ofKeyword? k.keyword = some k := by
  cases k <;> decide

end ParamKind

/-- A segment of a pattern. -/
inductive Segment where
  | literal (text : String)
  | param (name : String) (kind : ParamKind)
  deriving DecidableEq, Repr

namespace Segment

/-- The name under which the segment captures a value. -/
def name? : Segment → Option String
  | literal _ => none
  | param n _ => some n

/-- Whether a piece of a path fits the segment. -/
def accepts : Segment → String → Bool
  | literal t, value => value = t
  | param _ k, value => k.accepts value

/-- The regular expression that accepts the same texts; the one of a parameter is a group. -/
def expression : Segment → String
  | literal t => String.ofList (Expression.escape t.toList)
  | param _ k => "(" ++ k.constraint ++ ")"

/-- The segment as it is written in a pattern. -/
def written : Segment → String
  | literal t => t
  | param n k => ":" ++ n ++ "(" ++ k.keyword ++ ")"

end Segment

end PathRouter
