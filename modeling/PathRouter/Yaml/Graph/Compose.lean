import PathRouter.Yaml.Graph.Basic
import PathRouter.Yaml.Token.Basic

/-!
# Composing a document from its tokens

The tokens of a document are read by its grammar, one token ahead, and its nodes are numbered in the
order in which they begin.  An anchor names a node from its beginning on; an alias must name a node
of the document, and no two nodes may have one name.
-/

namespace PathRouter.Yaml

/-- A document that is being composed: the tokens left, the fault that follows them, the nodes so
far, the named ones among them, and the handles of tags. -/
structure Composer where
  tokens : List Token
  fault : Fault
  graph : Graph
  anchors : List (String × Nat)
  handles : List (String × String)

/-- Composing, which may end in a fault. -/
abbrev Compose := StateT Composer (Except Fault)

namespace Compose

/-- The handles of tags that need no directive. -/
def defaultHandles : List (String × String) := [("!", "!"), ("!!", Tag.standard)]

/-- The next token. -/
def peek : Compose Token := do
  let s ← get
  match s.tokens with
  | [] => throw s.fault
  | t :: _ => pure t

/-- Moves to the token after the next. -/
def advance : Compose Unit := modify fun s => { s with tokens := s.tokens.drop 1 }

/-- Adds a node that is still open, and names it. -/
def openNode (anchor? : Option String) (n : Node) : Compose Nat := do
  let s ← get
  let id := s.graph.nodes.size
  let anchors :=
    match anchor? with
    | none => s.anchors
    | some a => (a, id) :: s.anchors
  set { s with graph := { s.graph with nodes := s.graph.nodes.push n }, anchors := anchors }
  pure id

/-- Ends a node with its content. -/
def closeNode (id : Nat) (content : Content) : Compose Nat := do
  modify fun s =>
    let g := s.graph.set id { s.graph.node id with content := content }
    { s with graph := { g with order := id :: g.order } }
  pure id

/-- Adds a scalar. -/
def scalarNode (anchor? : Option String) (tag : Tag) (text : List Char) : Compose Nat := do
  closeNode (← openNode anchor? ⟨tag, .scalar text⟩) (.scalar text)

/-- Adds a scalar that is not written. -/
def absent : Compose Nat := scalarNode none .null []

/-- What stands before the content of a node. -/
structure Properties where
  anchor? : Option String
  /-- The address of the tag. -/
  tag? : Option String

/-- The address of a tag. -/
def tagAddress (handle? : Option String) (suffix : String) : Compose String := do
  match handle? with
  | none => pure suffix
  | some h =>
    match (← get).handles.lookup h with
    | none => throw .malformed
    | some start => pure (start ++ suffix)

/-- Reads the anchor and the tag of a node, in any order. -/
def properties : Compose Properties := do
  let anchor : Compose (Option String) := do
    match ← peek with
    | .anchor a => advance; pure (some a)
    | _ => pure none
  let tag : Compose (Option (Option String × String)) := do
    match ← peek with
    | .tag h s => advance; pure (some (h, s))
    | _ => pure none
  let address (t? : Option (Option String × String)) : Compose (Option String) := do
    match t? with
    | none => pure none
    | some (h, s) => some <$> tagAddress h s
  match ← anchor with
  | some a => do
    let t? ← tag
    pure ⟨some a, ← address t?⟩
  | none => do
    match ← tag with
    | none => pure ⟨none, none⟩
    | some t => do
      let a? ← anchor
      pure ⟨a?, ← address (some t)⟩

namespace Properties

/-- Whether the tag is left to the content. -/
def isOpen (p : Properties) : Bool := p.tag? = none || p.tag? = some "!"

/-- The tag of a node whose content has `own` by itself. -/
def tag (p : Properties) (own : Tag) : Tag :=
  if p.isOpen then own else Tag.ofAddress (p.tag?.getD "")

/-- The tag of a scalar.  A text in quotes is a text, unless its tag is `!`. -/
def scalarTag (p : Properties) (plain : Bool) (text : List Char) : Tag :=
  p.tag (if plain || p.tag? = some "!" then Tag.ofText text else .text)

end Properties

/-- Whether a token ends an entry of a block sequence, an entry of a sequence without indentation, a
part of a block mapping, or a part of a flow collection: what is missing before it is absent. -/
def endsEntry : Token → Bool
  | .blockEntry | .blockEnd => true
  | _ => false

@[inherit_doc endsEntry]
def endsLooseEntry : Token → Bool
  | .blockEntry | .key | .value | .blockEnd => true
  | _ => false

@[inherit_doc endsEntry]
def endsPart : Token → Bool
  | .key | .value | .blockEnd => true
  | _ => false

@[inherit_doc endsEntry]
def endsFlowPart (close : Token) (t : Token) : Bool := t = .flowEntry || t = close

mutual

/-- Reads a node.  Block collections may stand where `block` holds, and a block sequence without
indentation of its own where `loose` holds. -/
def node (block loose : Bool) : Nat → Compose Nat
  | 0 => throw .malformed
  | fuel + 1 => do
    match ← peek with
    | .alias name =>
      advance
      match (← get).anchors.lookup name with
      | none => throw .malformed
      | some id => pure id
    | _ =>
      let p ← properties
      let t ← peek
      let named : Compose Unit := do
        let anchors := (← get).anchors
        if p.anchor?.any fun a => (anchors.lookup a).isSome then throw .malformed
      let collection (tag : Tag) (content : Content) (read : Compose Content) : Compose Nat := do
        named
        let id ← openNode p.anchor? ⟨p.tag tag, content⟩
        closeNode id (← read)
      let sequence (read : Compose (List Nat)) : Compose Nat :=
        collection .sequence (.sequence []) (.sequence <$> read)
      let mapping (read : Compose (List (Nat × Nat))) : Compose Nat :=
        collection .mapping (.mapping []) (.mapping <$> read)
      match t, block, loose with
      | .blockEntry, _, true => sequence (looseEntries fuel)
      | .scalar text plain, _, _ =>
        advance
        named
        scalarNode p.anchor? (p.scalarTag plain text) text
      | .flowSequenceStart, _, _ => sequence (do advance; flowEntries true fuel)
      | .flowMappingStart, _, _ => mapping (do advance; flowPairs true fuel)
      | .blockSequenceStart, true, _ => sequence (do advance; blockEntries fuel)
      | .blockMappingStart, true, _ => mapping (do advance; blockPairs fuel)
      | _, _, _ =>
        if p.anchor? = none ∧ p.tag? = none then throw .malformed
        named
        scalarNode p.anchor? (p.tag .null) []

/-- Reads a node that is absent where the next token is an end. -/
def nodeUnless (ends : Token → Bool) (block loose : Bool) : Nat → Compose Nat
  | 0 => throw .malformed
  | fuel + 1 => do
    if ends (← peek) then absent else node block loose fuel

/-- Reads a value after its mark; without the mark it is absent. -/
def markedValue (ends : Token → Bool) (block loose : Bool) : Nat → Compose Nat
  | 0 => throw .malformed
  | fuel + 1 => do
    if (← peek) = .value then
      advance
      nodeUnless ends block loose fuel
    else absent

/-- Reads the entries of a block sequence. -/
def blockEntries : Nat → Compose (List Nat)
  | 0 => throw .malformed
  | fuel + 1 => do
    match ← peek with
    | .blockEntry =>
      advance
      let item ← nodeUnless endsEntry true false fuel
      return item :: (← blockEntries fuel)
    | .blockEnd =>
      advance
      pure []
    | _ => throw .malformed

/-- Reads the entries of a block sequence without indentation of its own. -/
def looseEntries : Nat → Compose (List Nat)
  | 0 => throw .malformed
  | fuel + 1 => do
    match ← peek with
    | .blockEntry =>
      advance
      let item ← nodeUnless endsLooseEntry true false fuel
      return item :: (← looseEntries fuel)
    | _ => pure []

/-- Reads the entries of a block mapping. -/
def blockPairs : Nat → Compose (List (Nat × Nat))
  | 0 => throw .malformed
  | fuel + 1 => do
    match ← peek with
    | .key =>
      advance
      let k ← nodeUnless endsPart true true fuel
      let v ← markedValue endsPart true true fuel
      return (k, v) :: (← blockPairs fuel)
    | .blockEnd =>
      advance
      pure []
    | _ => throw .malformed

/-- Reads the entries of a flow sequence.  An entry that is a key with a value is a mapping of its
own. -/
def flowEntries (first : Bool) : Nat → Compose (List Nat)
  | 0 => throw .malformed
  | fuel + 1 => do
    let finish : Compose (List Nat) := do
      advance
      pure []
    if (← peek) = .flowSequenceEnd then finish
    else
      if !first then
        if (← peek) ≠ .flowEntry then throw .malformed
        advance
      match ← peek with
      | .flowSequenceEnd => finish
      | .key =>
        let ends := endsFlowPart .flowSequenceEnd
        let id ← openNode none ⟨.mapping, .mapping []⟩
        advance
        let k ← nodeUnless (fun t => t = .value || ends t) false false fuel
        let v ← markedValue ends false false fuel
        let item ← closeNode id (.mapping [(k, v)])
        return item :: (← flowEntries false fuel)
      | _ =>
        let item ← node false false fuel
        return item :: (← flowEntries false fuel)

/-- Reads the entries of a flow mapping. -/
def flowPairs (first : Bool) : Nat → Compose (List (Nat × Nat))
  | 0 => throw .malformed
  | fuel + 1 => do
    let ends := endsFlowPart .flowMappingEnd
    let finish : Compose (List (Nat × Nat)) := do
      advance
      pure []
    if (← peek) = .flowMappingEnd then finish
    else
      if !first then
        if (← peek) ≠ .flowEntry then throw .malformed
        advance
      match ← peek with
      | .flowMappingEnd => finish
      | .key =>
        advance
        let k ← nodeUnless (fun t => t = .value || ends t) false false fuel
        let v ← markedValue ends false false fuel
        return (k, v) :: (← flowPairs false fuel)
      | _ =>
        let k ← node false false fuel
        let v ← absent
        return (k, v) :: (← flowPairs false fuel)

end

/-- Reads the directives before a document. -/
def directives : Nat → Bool → List (String × String) → Compose Unit
  | 0, _, _ => throw .malformed
  | fuel + 1, versioned, handles => do
    match ← peek with
    | .directive (.version major _) =>
      advance
      if versioned || major ≠ 1 then throw .malformed
      directives fuel true handles
    | .directive (.handle name uri) =>
      advance
      if (handles.lookup name).isSome then throw .malformed
      directives fuel versioned ((name, uri) :: handles)
    | .directive .other =>
      advance
      directives fuel versioned handles
    | _ => modify fun s => { s with handles := handles ++ defaultHandles }

/-- Skips the marks at the end of a document. -/
def documentEnds : Nat → Compose Unit
  | 0 => throw .malformed
  | fuel + 1 => do
    if (← peek) = .documentEnd then
      advance
      documentEnds fuel

/-- Reads the beginning of a document that is marked. -/
def documentStart (fuel : Nat) : Compose Unit := do
  directives fuel false []
  if (← peek) ≠ .documentStart then throw .malformed
  advance

/-- Whether a token ends a document, which is absent if nothing stands before it. -/
def endsDocument : Token → Bool
  | .directive _ | .documentStart | .documentEnd | .streamEnd => true
  | _ => false

/-- Reads the root of the only document, if there is one.  A document without a mark at its beginning
must not be empty. -/
def document (fuel : Nat) : Compose (Option Nat) := do
  let root ←
    match ← peek with
    | .streamEnd => return none
    | .directive _ | .documentStart =>
      documentStart fuel
      nodeUnless endsDocument true false fuel
    | _ =>
      modify fun s => { s with handles := defaultHandles }
      node true false fuel
  documentEnds fuel
  if (← peek) ≠ .streamEnd then
    documentStart fuel
    throw .malformed
  pure (some root)

end Compose

/-- The graph of the only document in a stream of tokens, and its root; there is none in an empty
stream. -/
def Graph.ofTokens (ts : Tokens) : Except Fault (Graph × Option Nat) :=
  let start : Composer :=
    { tokens := ts.tokens, fault := ts.fault, graph := ⟨#[], []⟩, anchors := [], handles := [] }
  match (Compose.document (4 * ts.tokens.length + 4)).run start with
  | .error e => .error e
  | .ok (root?, s) => .ok ({ s.graph with order := s.graph.order.reverse }, root?)

end PathRouter.Yaml
