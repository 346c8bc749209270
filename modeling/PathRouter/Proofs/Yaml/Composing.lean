import Mathlib.Data.List.Infix
import Mathlib.Tactic.Common
import PathRouter.Yaml.Graph.Compose

/-!
# What composing fails with

Composing a document draws tokens one after the other.  It fails because the document is malformed,
or because it asks for more tokens than there are, with the fault that comes after them
(`Compose.Draws`).  Every reader of the grammar is shown to be of this kind, all of them together by
induction on the number of steps (`Compose.grammar`).  As a document has to be followed by the end of
its text, nothing can be composed from tokens without one (`Graph.ofTokens_spec`).
-/

namespace PathRouter.Yaml

namespace Compose

/-- What composing comes to from a state: it has used up tokens, or it fails. -/
def DrawsFrom {α : Type} (s : Composer) : Except Fault (α × Composer) → Prop
  | .ok (_, t) => t.fault = s.fault ∧ t.tokens <:+ s.tokens
  | .error f => f = .malformed ∨ f = s.fault

/-- Composing uses up tokens from the front.  It fails because the document is malformed, or with the
fault after the tokens. -/
def Draws {α : Type} (m : Compose α) : Prop := ∀ s, DrawsFrom s (m s)

namespace Draws

variable {α β : Type} {m : Compose α} {k : α → Compose β}

lemma pure (x : α) : Draws (pure x) := fun _ => ⟨rfl, List.suffix_refl _⟩

lemma malformed : Draws (throw .malformed : Compose α) := fun _ => .inl rfl

lemma bind (h : Draws m) (hk : ∀ x, Draws (k x)) : Draws (m >>= k) := by
  intro s
  have hs := h s
  change DrawsFrom s (m s >>= fun x => k x.1 x.2)
  generalize m s = r at hs ⊢
  cases r with
  | error f => exact hs
  | ok x =>
    obtain ⟨a, t⟩ := x
    have ht := hk a t
    change DrawsFrom s (k a t)
    generalize k a t = r at ht ⊢
    cases r with
    | error f => exact ht.imp_right fun h => h.trans hs.1
    | ok y => exact ⟨ht.1.trans hs.1, ht.2.trans hs.2⟩

lemma map (h : Draws m) (g : α → β) : Draws (g <$> m) := by
  intro s
  have hs := h s
  change DrawsFrom s (m s >>= fun x => Pure.pure (g x.1, x.2))
  generalize m s = r at hs ⊢
  cases r <;> exact hs

lemma ite {p : Prop} [Decidable p] {m' : Compose α} (h : p → Draws m) (h' : ¬p → Draws m') :
    Draws (if p then m else m') := by
  split
  · exact h ‹_›
  · exact h' ‹_›

end Draws

/-! ### Steps -/

lemma draws_get : Draws (get : Compose Composer) := fun _ => ⟨rfl, List.suffix_refl _⟩

lemma draws_peek : Draws peek := by
  rintro ⟨tokens, fault, graph, anchors, handles⟩
  cases tokens with
  | nil => exact .inr rfl
  | cons t ts => exact ⟨rfl, List.suffix_refl _⟩

lemma draws_advance : Draws advance := fun s => ⟨rfl, List.drop_suffix 1 s.tokens⟩

lemma draws_openNode (anchor? : Option String) (n : Node) : Draws (openNode anchor? n) :=
  fun _ => ⟨rfl, List.suffix_refl _⟩

lemma draws_closeNode (id : Nat) (content : Content) : Draws (closeNode id content) :=
  fun _ => ⟨rfl, List.suffix_refl _⟩

lemma draws_scalarNode (anchor? : Option String) (tag : Tag) (text : List Char) :
    Draws (scalarNode anchor? tag text) :=
  (draws_openNode _ _).bind fun _ => draws_closeNode _ _

lemma draws_absent : Draws absent := draws_scalarNode none .null []

/-! ### Properties of nodes -/

lemma draws_tagAddress (handle? : Option String) (suffix : String) :
    Draws (tagAddress handle? suffix) := by
  unfold tagAddress
  cases handle? with
  | none => exact .pure suffix
  | some h =>
    refine draws_get.bind fun s => ?_
    cases s.handles.lookup h with
    | none => exact .malformed
    | some start => exact .pure _

/-- A name is drawn if it is there. -/
lemma draws_anchor : Draws (do
    match ← peek with
    | .anchor a => advance; Pure.pure (some a)
    | _ => Pure.pure none) := by
  refine draws_peek.bind fun t => ?_
  split
  · exact draws_advance.bind fun _ => .pure _
  · exact .pure _

/-- A tag is drawn if it is there. -/
lemma draws_tag : Draws (do
    match ← peek with
    | .tag h s => advance; Pure.pure (some (h, s))
    | _ => Pure.pure none) := by
  refine draws_peek.bind fun t => ?_
  split
  · exact draws_advance.bind fun _ => .pure _
  · exact .pure _

lemma draws_properties : Draws properties := by
  unfold properties
  refine draws_anchor.bind fun a? => ?_
  cases a? with
  | some a =>
    refine draws_tag.bind fun t? => Draws.bind ?_ fun _ => .pure _
    cases t? with
    | none => exact .pure _
    | some t => exact (draws_tagAddress t.1 t.2).map _
  | none =>
    refine draws_tag.bind fun t? => ?_
    cases t? with
    | none => exact .pure _
    | some t =>
      exact draws_anchor.bind fun a? =>
        ((draws_tagAddress t.1 t.2).map _).bind fun _ => .pure _

/-! ### The grammar -/

/-- A name is given once. -/
lemma draws_unnamed (p : Properties) : Draws (do
    let anchors := (← get).anchors
    if p.anchor?.any fun a => (anchors.lookup a).isSome then throw .malformed) :=
  draws_get.bind fun _ => .ite (fun _ => .malformed) fun _ => .pure _

/-- A collection ends with its content. -/
lemma draws_collection {named : Compose Unit} (hnamed : Draws named) {read : Compose Content}
    (hread : Draws read) (anchor? : Option String) (n : Node) :
    Draws (do
      named
      let id ← openNode anchor? n
      closeNode id (← read)) :=
  hnamed.bind fun _ => (draws_openNode _ _).bind fun _ => hread.bind fun _ => draws_closeNode _ _

/-- All entries of a flow collection but the first come after a comma. -/
lemma draws_separated {α : Type} {entry : Compose α} (h : Draws entry) (first : Bool) :
    Draws (do
      if !first then
        if (← peek) ≠ .flowEntry then throw .malformed
        advance
      entry) := by
  have hmore : Draws (do advance; entry) := draws_advance.bind fun _ => h
  exact .ite (fun _ => draws_peek.bind fun _ =>
    .ite (fun _ => Draws.malformed.bind fun _ => hmore) fun _ => hmore) fun _ => h

/-- The readers of the grammar compose in some number of steps. -/
structure Grammar (fuel : Nat) : Prop where
  node : ∀ block loose, Draws (node block loose fuel)
  nodeUnless : ∀ ends block loose, Draws (nodeUnless ends block loose fuel)
  markedValue : ∀ ends block loose, Draws (markedValue ends block loose fuel)
  blockEntries : Draws (blockEntries fuel)
  looseEntries : Draws (looseEntries fuel)
  blockPairs : Draws (blockPairs fuel)
  flowEntries : ∀ first, Draws (flowEntries first fuel)
  flowPairs : ∀ first, Draws (flowPairs first fuel)

lemma grammar_zero : Grammar 0 := by
  constructor <;> intros <;> exact .malformed

section

variable {fuel : Nat} (h : Grammar fuel)

include h

lemma Grammar.draws_node (block loose : Bool) : Draws (Compose.node block loose (fuel + 1)) := by
  unfold Compose.node
  refine draws_peek.bind fun t => ?_
  split
  · refine draws_advance.bind fun _ => draws_get.bind fun s => ?_
    split
    · exact .malformed
    · exact .pure _
  · refine draws_properties.bind fun p => draws_peek.bind fun t => ?_
    have hnamed := draws_unnamed p
    dsimp only
    split
    · exact draws_collection hnamed (h.looseEntries.map _) p.anchor? _
    · exact draws_advance.bind fun _ => hnamed.bind fun _ => draws_scalarNode _ _ _
    · have hread := draws_advance.bind fun _ => h.flowEntries true
      exact draws_collection hnamed (hread.map _) p.anchor? _
    · have hread := draws_advance.bind fun _ => h.flowPairs true
      exact draws_collection hnamed (hread.map _) p.anchor? _
    · have hread := draws_advance.bind fun _ => h.blockEntries
      exact draws_collection hnamed (hread.map _) p.anchor? _
    · have hread := draws_advance.bind fun _ => h.blockPairs
      exact draws_collection hnamed (hread.map _) p.anchor? _
    · exact .ite (fun _ => Draws.malformed.bind fun _ => hnamed.bind fun _ => draws_scalarNode _ _ _)
        fun _ => hnamed.bind fun _ => draws_scalarNode _ _ _

lemma Grammar.draws_nodeUnless (ends : Token → Bool) (block loose : Bool) :
    Draws (Compose.nodeUnless ends block loose (fuel + 1)) := by
  unfold Compose.nodeUnless
  exact draws_peek.bind fun _ => .ite (fun _ => draws_absent) fun _ => h.node block loose

lemma Grammar.draws_markedValue (ends : Token → Bool) (block loose : Bool) :
    Draws (Compose.markedValue ends block loose (fuel + 1)) := by
  unfold Compose.markedValue
  exact draws_peek.bind fun _ =>
    .ite (fun _ => draws_advance.bind fun _ => h.nodeUnless ends block loose) fun _ => draws_absent

lemma Grammar.draws_blockEntries : Draws (Compose.blockEntries (fuel + 1)) := by
  unfold Compose.blockEntries
  refine draws_peek.bind fun t => ?_
  split
  · exact draws_advance.bind fun _ => (h.nodeUnless _ _ _).bind fun _ =>
      h.blockEntries.bind fun _ => .pure _
  · exact draws_advance.bind fun _ => .pure _
  · exact .malformed

lemma Grammar.draws_looseEntries : Draws (Compose.looseEntries (fuel + 1)) := by
  unfold Compose.looseEntries
  refine draws_peek.bind fun t => ?_
  split
  · exact draws_advance.bind fun _ => (h.nodeUnless _ _ _).bind fun _ =>
      h.looseEntries.bind fun _ => .pure _
  · exact .pure _

lemma Grammar.draws_blockPairs : Draws (Compose.blockPairs (fuel + 1)) := by
  unfold Compose.blockPairs
  refine draws_peek.bind fun t => ?_
  split
  · exact draws_advance.bind fun _ => (h.nodeUnless _ _ _).bind fun _ =>
      (h.markedValue _ _ _).bind fun _ => h.blockPairs.bind fun _ => .pure _
  · exact draws_advance.bind fun _ => .pure _
  · exact .malformed

lemma Grammar.draws_flowEntries (first : Bool) : Draws (Compose.flowEntries first (fuel + 1)) := by
  unfold Compose.flowEntries
  have hfinish : Draws (do advance; Pure.pure ([] : List Nat)) :=
    draws_advance.bind fun _ => .pure _
  refine draws_peek.bind fun t => .ite (fun _ => hfinish) fun _ => draws_separated ?_ first
  refine draws_peek.bind fun t => ?_
  split
  · exact hfinish
  · exact (draws_openNode _ _).bind fun _ => draws_advance.bind fun _ =>
      (h.nodeUnless _ _ _).bind fun _ => (h.markedValue _ _ _).bind fun _ =>
        (draws_closeNode _ _).bind fun _ => (h.flowEntries false).bind fun _ => .pure _
  · exact (h.node _ _).bind fun _ => (h.flowEntries false).bind fun _ => .pure _

lemma Grammar.draws_flowPairs (first : Bool) : Draws (Compose.flowPairs first (fuel + 1)) := by
  unfold Compose.flowPairs
  have hfinish : Draws (do advance; Pure.pure ([] : List (Nat × Nat))) :=
    draws_advance.bind fun _ => .pure _
  refine draws_peek.bind fun t => .ite (fun _ => hfinish) fun _ => draws_separated ?_ first
  refine draws_peek.bind fun t => ?_
  split
  · exact hfinish
  · exact draws_advance.bind fun _ => (h.nodeUnless _ _ _).bind fun _ =>
      (h.markedValue _ _ _).bind fun _ => (h.flowPairs false).bind fun _ => .pure _
  · exact (h.node _ _).bind fun _ => draws_absent.bind fun _ =>
      (h.flowPairs false).bind fun _ => .pure _

end

/-- Whatever the number of steps, the readers of the grammar compose. -/
theorem grammar (fuel : Nat) : Grammar fuel := by
  induction fuel with
  | zero => exact grammar_zero
  | succ fuel ih =>
    exact ⟨ih.draws_node, ih.draws_nodeUnless, ih.draws_markedValue, ih.draws_blockEntries,
      ih.draws_looseEntries, ih.draws_blockPairs, ih.draws_flowEntries, ih.draws_flowPairs⟩

/-! ### Documents -/

lemma draws_modify {f : Composer → Composer}
    (h : ∀ s, (f s).fault = s.fault ∧ (f s).tokens = s.tokens) :
    Draws (modify f : Compose Unit) := fun s =>
  ⟨(h s).1, (h s).2 ▸ List.suffix_refl _⟩

lemma draws_directives (fuel : Nat) (versioned : Bool) (handles : List (String × String)) :
    Draws (directives fuel versioned handles) := by
  induction fuel generalizing versioned handles with
  | zero => exact .malformed
  | succ fuel ih =>
    unfold directives
    refine draws_peek.bind fun t => ?_
    split
    · exact draws_advance.bind fun _ =>
        .ite (fun _ => Draws.malformed.bind fun _ => ih _ _) fun _ => ih _ _
    · exact draws_advance.bind fun _ =>
        .ite (fun _ => Draws.malformed.bind fun _ => ih _ _) fun _ => ih _ _
    · exact draws_advance.bind fun _ => ih _ _
    · exact draws_modify fun _ => ⟨rfl, rfl⟩

lemma draws_documentEnds (fuel : Nat) : Draws (documentEnds fuel) := by
  induction fuel with
  | zero => exact .malformed
  | succ fuel ih =>
    unfold documentEnds
    exact draws_peek.bind fun _ => .ite (fun _ => draws_advance.bind fun _ => ih) fun _ => .pure _

lemma draws_documentStart (fuel : Nat) : Draws (documentStart fuel) := by
  unfold documentStart
  exact (draws_directives _ _ _).bind fun _ => draws_peek.bind fun _ =>
    .ite (fun _ => Draws.malformed.bind fun _ => draws_advance) fun _ => draws_advance

/-- What composing a whole document comes to: it has met the end of the text, or it fails. -/
def FinishesFrom {α : Type} (s : Composer) : Except Fault (α × Composer) → Prop
  | .ok _ => .streamEnd ∈ s.tokens
  | .error f => f = .malformed ∨ f = s.fault

/-- Composing a document, which may succeed only if there is an end of the text among the tokens. -/
def Finishes {α : Type} (m : Compose α) : Prop := ∀ s, FinishesFrom s (m s)

namespace Finishes

variable {α β : Type} {m : Compose α} {k : α → Compose β}

lemma malformed : Finishes (throw .malformed : Compose α) := fun _ => .inl rfl

lemma bind (h : Draws m) (hk : ∀ x, Finishes (k x)) : Finishes (m >>= k) := by
  intro s
  have hs := h s
  change FinishesFrom s (m s >>= fun x => k x.1 x.2)
  generalize m s = r at hs ⊢
  cases r with
  | error f => exact hs
  | ok x =>
    obtain ⟨a, t⟩ := x
    have ht := hk a t
    change FinishesFrom s (k a t)
    generalize k a t = r at ht ⊢
    cases r with
    | error f => exact ht.imp_right fun h => h.trans hs.1
    | ok y => exact hs.2.subset ht

/-- The end of the text is met. -/
lemma peek_bind {k : Token → Compose β} (hend : Draws (k .streamEnd))
    (hk : ∀ t, t ≠ .streamEnd → Finishes (k t)) : Finishes (peek >>= k) := by
  rintro ⟨tokens, fault, graph, anchors, handles⟩
  cases tokens with
  | nil => exact .inr rfl
  | cons t ts =>
    change FinishesFrom _ (k t ⟨t :: ts, fault, graph, anchors, handles⟩)
    by_cases ht : t = .streamEnd
    · subst ht
      have hs := hend ⟨.streamEnd :: ts, fault, graph, anchors, handles⟩
      generalize k .streamEnd ⟨.streamEnd :: ts, fault, graph, anchors, handles⟩ = r at hs ⊢
      cases r with
      | error f => exact hs
      | ok x => exact List.mem_cons_self
    · exact hk t ht _

end Finishes

/-- A document is composed up to the end of the text. -/
theorem finishes_document (fuel : Nat) : Finishes (document fuel) := by
  have hclose (root : Nat) : Finishes (do
      documentEnds fuel
      if (← peek) ≠ .streamEnd then
        documentStart fuel
        throw .malformed
      pure (some root)) := by
    refine Finishes.bind (draws_documentEnds fuel) fun _ => Finishes.peek_bind ?_ fun t ht => ?_
    · exact .pure _
    · dsimp only
      rw [if_pos ht]
      exact Finishes.bind (draws_documentStart fuel) fun _ => .malformed
  unfold document
  refine Finishes.peek_bind (.pure _) fun t ht => ?_
  dsimp only
  split
  · exact absurd rfl ht
  · exact Finishes.bind (draws_documentStart fuel) fun _ =>
      Finishes.bind ((grammar fuel).nodeUnless _ _ _) hclose
  · exact Finishes.bind (draws_documentStart fuel) fun _ =>
      Finishes.bind ((grammar fuel).nodeUnless _ _ _) hclose
  · exact Finishes.bind (draws_modify fun _ => ⟨rfl, rfl⟩) fun _ =>
      Finishes.bind ((grammar fuel).node _ _) hclose

end Compose

namespace Graph

/-- What composing the only document of a file comes to.  It fails because the document is malformed,
or with the fault after the tokens.  It succeeds only if there is an end of the text among these. -/
theorem ofTokens_spec (ts : Tokens) :
    match ofTokens ts with
    | .ok _ => .streamEnd ∈ ts.tokens
    | .error f => f = .malformed ∨ f = ts.fault := by
  have hdocument := Compose.finishes_document (4 * ts.tokens.length + 4)
    { tokens := ts.tokens, fault := ts.fault, graph := ⟨#[], []⟩, anchors := [], handles := [] }
  unfold ofTokens
  dsimp only [StateT.run]
  generalize Compose.document (4 * ts.tokens.length + 4) _ = r at hdocument ⊢
  cases r <;> exact hdocument

end Graph

end PathRouter.Yaml
