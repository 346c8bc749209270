import PathRouter.Yaml.Fault

/-!
# Tokens

A document is a sequence of tokens: marks of its structure, names of nodes, tags and scalars.  The
starts and ends of block collections are tokens too, though nothing but indentation shows them.
-/

namespace PathRouter.Yaml

/-- A line that says how the document after it is written. -/
inductive Directive where
  | version (major minor : Nat)
  | handle (name uri : String)
  | other
  deriving DecidableEq, Repr

/-- A token. -/
inductive Token where
  | directive (d : Directive)
  | documentStart
  | documentEnd
  | blockSequenceStart
  | blockMappingStart
  | blockEnd
  | flowSequenceStart
  | flowSequenceEnd
  | flowMappingStart
  | flowMappingEnd
  | blockEntry
  | flowEntry
  | key
  | value
  | alias (name : String)
  | anchor (name : String)
  | tag (handle? : Option String) (suffix : String)
  | scalar (text : List Char) (plain : Bool)
  | streamEnd
  deriving DecidableEq, Repr

/-- The tokens that can be read, and the fault that asking for more ends in. -/
structure Tokens where
  tokens : List Token
  fault : Fault

end PathRouter.Yaml
