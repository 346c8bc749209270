import PathRouter.Proofs.Yaml.Checking

/-!
# What giving a document a value fails with

A document that could be composed has no value if a collection or a merge key in it is malformed, or
if a node is not what its tag says.  `Graph.Unfit` states the latter in terms of the graph as it was
composed: the text of a scalar is no value of its tag, or a mapping has the tag of a scalar.  Merging
changes the graph while it is checked, but no scalar and not what a node is
(`Graph.Derives`), so what is found at a later time can be found at the beginning
(`Graph.unfolded_error`).
-/

namespace PathRouter.Yaml

namespace Graph

/-- A node is not what its tag says, and the fault is why. -/
inductive Unfit (g : Graph) : Fault → Prop where
  /-- A text is no value of the tag of a node, which is that scalar or a mapping that stands for
  it. -/
  | scalar {n m : Nat} {text : List Char} {f : Fault} (content : (g.node m).content = .scalar text)
      (stands : m = n ∨ g.isMapping n = true)
      (fault : Scalar.value (g.node n).tag text = .error f) : Unfit g f
  /-- A mapping that ought to stand for a scalar stands for none. -/
  | endless {n : Nat} (mapping : g.isMapping n = true) (tag : (g.node n).tag.isCollection = false) :
      Unfit g .endless
  /-- A mapping ought to be a date. -/
  | dateNotText {n : Nat} (mapping : g.isMapping n = true) (tag : (g.node n).tag = .timestamp) :
      Unfit g .dateNotText

/-- What is unfit in a derived graph is so in the graph from which it is derived: only texts come in
place of something else, and these are never unfit. -/
lemma Unfit.of_derives {g h : Graph} (hgh : g.Derives h) {f : Fault} (hf : h.Unfit f) :
    g.Unfit f := by
  cases hf with
  | @scalar n m text _ content stands fault =>
    rcases hgh.tag n with htag | ⟨-, htag⟩
    · rw [htag] at fault
      rw [hgh.mapping n] at stands
      exact .scalar (hgh.scalar m text content) stands fault
    · rw [htag] at fault
      simp [Scalar.value] at fault
  | @endless n mapping tag =>
    rw [hgh.mapping n] at mapping
    rcases hgh.tag n with htag | ⟨hdefault, -⟩
    · exact .endless mapping (htag ▸ tag)
    · exact .endless mapping (by rw [hdefault]; rfl)
  | @dateNotText n mapping tag =>
    rw [hgh.mapping n] at mapping
    rcases hgh.tag n with htag | ⟨-, htag⟩
    · exact .dateNotText mapping (htag ▸ tag)
    · rw [htag] at tag
      simp at tag

end Graph

namespace Check

open Yaml.Graph (Derives Unfit)

/-! ### Scalars -/

/-- The text for which a node stands is that of some scalar. -/
lemma scalarText_cases (g : Graph) (fuel id : Nat) :
    match scalarText g fuel id with
    | .ok text => ∃ m, (g.node m).content = .scalar text
    | .error f => f = .malformed ∨ f = .endless := by
  induction fuel generalizing id with
  | zero => exact .inr rfl
  | succ fuel ih =>
    rw [scalarText]
    cases hcontent : (g.node id).content with
    | scalar text => exact ⟨id, hcontent⟩
    | sequence items => exact .inl rfl
    | mapping entries =>
      dsimp only
      cases entries.find? fun e => (g.node e.1).tag = .default with
      | none => exact .inl rfl
      | some e => exact ih e.2

/-- The text for which a node stands is its own, unless it is a mapping. -/
lemma scalarText_spec (g : Graph) (fuel id : Nat) :
    match scalarText g (fuel + 1) id with
    | .ok text => ∃ m, (g.node m).content = .scalar text ∧ (m = id ∨ g.isMapping id = true)
    | .error f => f = .malformed ∨ f = .endless ∧ g.isMapping id = true := by
  rw [scalarText]
  cases hcontent : (g.node id).content with
  | scalar text => exact ⟨id, hcontent, .inl rfl⟩
  | sequence items => exact .inl rfl
  | mapping entries =>
    have hmapping : g.isMapping id = true := by rw [Graph.isMapping, hcontent]
    dsimp only
    cases entries.find? fun e => (g.node e.1).tag = .default with
    | none => exact .inl rfl
    | some e =>
      have htext := scalarText_cases g fuel e.2
      dsimp only
      generalize scalarText g fuel e.2 = r at htext ⊢
      cases r with
      | ok text =>
        obtain ⟨m, hm⟩ := htext
        exact ⟨m, hm, .inr hmapping⟩
      | error f => exact htext.imp_right fun hf => ⟨hf, hmapping⟩

/-- A node with the tag of a scalar has a value, unless it is malformed or unfit. -/
lemma scalarValue_error {g : Graph} {id : Nat} (htag : (g.node id).tag.isCollection = false)
    {f : Fault} (h : scalarValue g id = .error f) : f = .malformed ∨ g.Unfit f := by
  have htext := scalarText_spec g g.nodes.size id
  unfold scalarValue at h
  dsimp only at h
  split at h
  · exact .inl (Except.error.inj h).symm
  · exact .inl (Except.error.inj h).symm
  · exact .inl (Except.error.inj h).symm
  · generalize scalarText g (g.nodes.size + 1) id = r at htext h
    cases r with
    | error e =>
      obtain rfl : e = f := Except.error.inj h
      rcases htext with rfl | ⟨rfl, hmapping⟩
      · exact .inl rfl
      · exact .inr (.endless hmapping htag)
    | ok text =>
      obtain ⟨m, hcontent, hstands⟩ := htext
      dsimp only at h
      split at h
      · rename_i hdate
        obtain rfl : .dateNotText = f := Except.error.inj h
        exact .inr (.dateNotText hdate.2 hdate.1)
      · exact .inr (.scalar hcontent hstands h)

/-! ### Checking -/

/-- Meeting a node keeps the graph; it fails if a scalar is malformed or unfit. -/
lemma derives_meet (c : Check) (id : Nat) :
    Outcome (fun c d => c.graph.Derives d.graph)
      (fun c f => f = .malformed ∨ c.graph.Unfit f) c (c.meet id) := by
  unfold meet
  split
  · exact Derives.refl c.graph
  · dsimp only
    split
    · exact Derives.refl c.graph
    · rename_i htag
      split
      · rename_i f hf
        exact scalarValue_error (Bool.eq_false_iff.mpr htag) hf
      · exact Derives.refl c.graph

/-- Checking goes from graph to derived graph, and fails because something is malformed or unfit. -/
lemma kept_derives : Kept (fun c d => c.graph.Derives d.graph)
    fun c f => f = .malformed ∨ c.graph.Unfit f where
  refl c := .refl c.graph
  trans hcd hde := hcd.trans hde
  back hcd hf := hf.imp_right (.of_derives hcd)
  malformed _ := .inl rfl
  meet := derives_meet
  merge _ _ h := h.toDerives
  take c _ _ _ := .refl c.graph

end Check

/-- A document has a value, unless it is malformed or a node is not what its tag says. -/
theorem Graph.unfolded_error {g : Graph} {depth root : Nat} {f : Fault}
    (h : g.unfolded depth root = .error f) : f = .malformed ∨ g.Unfit f := by
  have hroot := Check.derives_meet (Check.ofGraph g) root
  unfold unfolded check at h
  generalize (Check.ofGraph g).meet root = r at hroot h
  cases r with
  | error e => exact Except.error.inj h ▸ hroot
  | ok c =>
    have hwaiting :=
      Check.kept_derives.andThen hroot (Check.kept_derives.meetWaiting g.nodes.size c)
    dsimp only at h
    generalize c.meetWaiting g.nodes.size = r at hwaiting h
    cases r with
    | error e => exact Except.error.inj h ▸ hwaiting
    | ok d => simp at h

end PathRouter.Yaml
