import PathRouter.Yaml.Scalar

/-!
# Graphs of nodes

The nodes of a document are scalars, sequences and mappings.  An alias makes a node part of several
others, or of itself, so a document is a graph: nodes have numbers, and collections hold the numbers
of their members.
-/

namespace PathRouter.Yaml

/-- The content of a node. -/
inductive Content where
  | scalar (text : List Char)
  | sequence (items : List Nat)
  | mapping (entries : List (Nat × Nat))
  deriving DecidableEq, Repr

/-- A node of a document. -/
structure Node where
  tag : Tag
  content : Content
  deriving DecidableEq, Repr

/-- The node of a scalar that is not written. -/
def Node.absent : Node := ⟨.null, .scalar []⟩

instance : Inhabited Node := ⟨.absent⟩

/-- The nodes of a document, and the order in which they end in its text: but for cycles, the members
of a collection come before it. -/
structure Graph where
  nodes : Array Node
  order : List Nat

namespace Graph

/-- The node with a number. -/
def node (g : Graph) (n : Nat) : Node := g.nodes[n]?.getD .absent

/-- Replaces a node. -/
def set (g : Graph) (n : Nat) (v : Node) : Graph := { g with nodes := g.nodes.setIfInBounds n v }

/-- The entries of a mapping; other nodes have none. -/
def entries (g : Graph) (n : Nat) : List (Nat × Nat) :=
  match (g.node n).content with
  | .mapping es => es
  | _ => []

/-- Replaces the entries of a mapping. -/
def setEntries (g : Graph) (n : Nat) (es : List (Nat × Nat)) : Graph :=
  g.set n { g.node n with content := .mapping es }

/-- Whether a node is a mapping. -/
def isMapping (g : Graph) (n : Nat) : Bool :=
  match (g.node n).content with
  | .mapping _ => true
  | _ => false

end Graph

end PathRouter.Yaml
