import PathRouter.Value.Key
import PathRouter.Yaml.Graph.Compose
import PathRouter.Yaml.Graph.Merge
import PathRouter.Yaml.Source
import PathRouter.Yaml.Token.Scan

/-!
# The value of a document

Each node of a document has a value under its tag.  First all nodes are checked, the members of a
collection after those of the collections that were met before it, and the first fault counts: a
scalar that is not what its tag says, a collection of the wrong shape, a key that is a collection.
Then the values are put together.
-/

namespace PathRouter.Yaml

/-- A graph that is being checked: the values of the scalars so far, the nodes that were met, and the
collections whose members were not looked at yet. -/
structure Check where
  graph : Graph
  scalars : Array (Option Value)
  met : Array Bool
  waiting : List Nat

namespace Check

/-- The check of a graph at its beginning. -/
def ofGraph (g : Graph) : Check :=
  { graph := g, scalars := Array.replicate g.nodes.size none
    met := Array.replicate g.nodes.size false, waiting := [] }

/-- The text of a scalar.  A mapping stands for the scalar at its key `=`. -/
def scalarText (g : Graph) : Nat → Nat → Except Fault (List Char)
  | 0, _ => .error .endless
  | fuel + 1, id =>
    match (g.node id).content with
    | .scalar text => .ok text
    | .sequence _ => .error .malformed
    | .mapping entries =>
      match entries.find? fun e => (g.node e.1).tag = .default with
      | none => .error .malformed
      | some e => scalarText g fuel e.2

/-- The value of a node whose tag is that of a scalar. -/
def scalarValue (g : Graph) (id : Nat) : Except Fault Value :=
  let n := g.node id
  match n.tag with
  | .merge | .default | .unknown => .error .malformed
  | tag =>
    match scalarText g (g.nodes.size + 1) id with
    | .error e => .error e
    | .ok text =>
      if tag = .timestamp ∧ g.isMapping id then .error .dateNotText else Scalar.value tag text

/-- Meets a node: a scalar gets its value, a collection has to wait. -/
def meet (c : Check) (id : Nat) : Except Fault Check :=
  if c.met[id]?.getD true then .ok c
  else
    let c := { c with met := c.met.setIfInBounds id true }
    if (c.graph.node id).tag.isCollection then .ok { c with waiting := c.waiting ++ [id] }
    else
      match scalarValue c.graph id with
      | .error e => .error e
      | .ok v => .ok { c with scalars := c.scalars.setIfInBounds id (some v) }

/-- Meets several nodes. -/
def meetAll : List Nat → Check → Except Fault Check
  | [], c => .ok c
  | n :: ns, c =>
    match c.meet n with
    | .error e => .error e
    | .ok c => meetAll ns c

/-- Meets the entries of a mapping; no key may be a collection. -/
def meetEntries : List (Nat × Nat) → Check → Except Fault Check
  | [], c => .ok c
  | (k, v) :: es, c =>
    match c.meet k with
    | .error e => .error e
    | .ok c =>
      if (c.graph.node k).tag.isCollection then .error .malformed
      else
        match c.meet v with
        | .error e => .error e
        | .ok c => meetEntries es c

/-- Meets the items of a sequence of pairs, which are mappings with one entry. -/
def meetPairs : List Nat → Check → Except Fault Check
  | [], c => .ok c
  | n :: ns, c =>
    match (c.graph.node n).content with
    | .mapping [(k, v)] =>
      match meetAll [k, v] c with
      | .error e => .error e
      | .ok c => meetPairs ns c
    | _ => .error .malformed

/-- Meets the members of a collection, which must have the shape that its tag says. -/
def meetMembers (c : Check) (id : Nat) : Except Fault Check :=
  match (c.graph.node id).tag, (c.graph.node id).content with
  | .sequence, .sequence items => meetAll items c
  | .orderedMap, .sequence items | .pairs, .sequence items => meetPairs items c
  | .mapping, .mapping _ | .set, .mapping _ =>
    match c.graph.merge id with
    | .error e => .error e
    | .ok g => meetEntries (g.entries id) { c with graph := g }
  | _, _ => .error .malformed

/-- Looks at the waiting collections, the first one first. -/
def meetWaiting : Nat → Check → Except Fault Check
  | 0, c => .ok c
  | fuel + 1, c =>
    match c.waiting with
    | [] => .ok c
    | id :: rest =>
      match { c with waiting := rest }.meetMembers id with
      | .error e => .error e
      | .ok c => meetWaiting fuel c

/-! ### Values -/

/-- The values of the nodes that have one already. -/
abbrev Values := Array (Option Value)

/-- The value of a node, nothing where there is none yet. -/
def valueIn (vs : Values) (id : Nat) : Value := (vs[id]?.join).getD .null

/-- The value of a collection from those of its members.  The keys of a mapping are scalars. -/
def collect (c : Check) (vs : Values) (id : Nat) : Value :=
  let entries (es : List (Nat × Nat)) : Value.Entries :=
    Value.entriesOf (es.map fun e => (valueIn c.scalars e.1, valueIn vs e.2))
  match (c.graph.node id).tag, (c.graph.node id).content with
  | .sequence, .sequence items => .list (items.map (valueIn vs))
  | .set, .mapping es => .set ((entries es).map Prod.fst)
  | _, .mapping es => .map (entries es)
  | _, .sequence items =>
    .list (items.map fun n =>
      match (c.graph.entries n).head? with
      | some (k, v) => .pair (valueIn vs k) (valueIn vs v)
      | none => .null)
  | _, .scalar _ => .null

/-- Whether a node is a collection whose members were looked at. -/
def isCollected (c : Check) (id : Nat) : Bool :=
  c.met[id]?.getD false && (c.graph.node id).tag.isCollection

/-- Gives a collection its value; other nodes have theirs. -/
def assign (c : Check) (vs : Values) (id : Nat) : Values :=
  if c.isCollected id then vs.setIfInBounds id (some (c.collect vs id)) else vs

/-- Gives collections their values, one after the other. -/
def collectAll (c : Check) (ids : List Nat) (vs : Values) : Values := ids.foldl c.assign vs

/-- The values of all nodes, down to a number of levels at least.  The collections are taken in the
order in which they end, so one round is enough for all collections that are not within themselves;
those have one more level after each round. -/
def unfold (c : Check) : Nat → Values
  | 0 => c.scalars
  | depth + 1 => c.collectAll c.graph.order (c.unfold depth)

end Check

/-- A document that was checked. -/
def Graph.check (g : Graph) (root : Nat) : Except Fault Check :=
  match (Check.ofGraph g).meet root with
  | .error e => .error e
  | .ok c => c.meetWaiting g.nodes.size

/-- The number of levels down to which a collection within itself is unfolded.  This is more than
those for which a configuration is checked. -/
def unfoldingDepth : Nat := 9

/-- The value of a document, down to a number of levels. -/
def Graph.unfolded (g : Graph) (depth root : Nat) : Except Fault Value :=
  match g.check root with
  | .error e => .error e
  | .ok c => .ok (Check.valueIn (c.unfold depth) root)

/-- The value of the only document in a file, down to a number of levels; an empty file has none. -/
def readUnfolded (depth : Nat) (bytes : List UInt8) : Except Fault Value :=
  match Graph.ofTokens (Tokens.ofSource (Source.ofBytes bytes)) with
  | .error e => .error e
  | .ok (_, none) => .ok .null
  | .ok (g, some root) => g.unfolded depth root

/-- The value of the only document in a file. -/
def readValue (bytes : List UInt8) : Except Fault Value := readUnfolded unfoldingDepth bytes

end PathRouter.Yaml
