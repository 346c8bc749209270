import PathRouter.Template.Fill

/-!
# Templates from chunks

The plainest templates are made of literal texts, in which braces are doubled, and of fields that
have nothing but a name.  Such a template is filled chunk by chunk.
-/

namespace PathRouter.Template

/-- A chunk of a template. -/
inductive Chunk where
  | text (cs : List Char)
  | field (name : List Char)
  deriving DecidableEq, Repr

/-- A character in a template. -/
def writtenChar (c : Char) : List Char := if c = '\x7b' ∨ c = '\x7d' then [c, c] else [c]

namespace Chunk

/-- A chunk in a template. -/
def written : Chunk → List Char
  | text cs => cs.flatMap writtenChar
  | field name => '\x7b' :: name ++ ['\x7d']

/-- The template that consists of some chunks. -/
def writtenAll (chunks : List Chunk) : String := String.ofList (chunks.flatMap written)

end Chunk

end PathRouter.Template
