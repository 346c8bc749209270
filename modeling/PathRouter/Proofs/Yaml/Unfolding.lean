import PathRouter.ConfigFile
import PathRouter.Proofs.Config.Levels

/-!
# How far a document is unfolded

The values of the nodes of a document are found in rounds.  A round puts each collection together
from the values that its members have at that time, so with each round the values are settled down
to a further level (`Check.unfold_agree`), and how many rounds there are cannot be seen above that
level.

The rounds of `readValue` settle more levels than a configuration shows, so a configuration is read
as it would be with any larger number of rounds (`RouteTableConfig.read_unfolded`).  A document in
which each collection comes after its members has all its values after the first round
(`Check.unfold_eq_of_isOrdered`).
-/

namespace PathRouter.Yaml

namespace Check

variable {c : Check} {vs ws : Values} {depth : Nat}

/-! ### One node -/

lemma valueIn_of_size_le {n : Nat} (h : vs.size ≤ n) : valueIn vs n = .null := by
  rw [valueIn, Array.getElem?_eq_none h]
  rfl

lemma size_assign (c : Check) (vs : Values) (id : Nat) : (c.assign vs id).size = vs.size := by
  unfold assign
  split
  · exact Array.size_setIfInBounds
  · rfl

/-- Only a collection is given another value. -/
lemma getElem?_assign (c : Check) (vs : Values) (id n : Nat) :
    (c.assign vs id)[n]? =
      if id = n ∧ id < vs.size ∧ c.isCollected id = true then some (some (c.collect vs id))
      else vs[n]? := by
  unfold assign
  by_cases hcollected : c.isCollected id = true
  · rw [if_pos hcollected, Array.getElem?_setIfInBounds]
    by_cases hid : id = n
    · subst hid
      by_cases hsize : id < vs.size
      · simp [hsize, hcollected]
      · simp [hsize]
    · simp [hid]
  · simp [hcollected]

lemma valueIn_assign (c : Check) (vs : Values) (id n : Nat) :
    valueIn (c.assign vs id) n =
      if id = n ∧ id < vs.size ∧ c.isCollected id = true then c.collect vs id
      else valueIn vs n := by
  rw [valueIn, getElem?_assign]
  split
  · rfl
  · rfl

/-- Two collections from members that agree down to a level agree one level further. -/
lemma collect_agree (c : Check) (h : ∀ n, (valueIn vs n).AgreeTo depth (valueIn ws n)) (id : Nat) :
    (c.collect vs id).AgreeTo (depth + 1) (c.collect ws id) := by
  have hentries (es : List (Nat × Nat)) : Value.EntriesAgree depth
      (Value.entriesOf (es.map fun e => (valueIn c.scalars e.1, valueIn vs e.2)))
      (Value.entriesOf (es.map fun e => (valueIn c.scalars e.1, valueIn ws e.2))) := by
    refine Value.EntriesAgree.entriesOf ?_
    refine List.forall₂_map_left_iff.mpr (List.forall₂_map_right_iff.mpr ?_)
    exact List.forall₂_same.mpr fun e _ => ⟨rfl, h e.2⟩
  unfold collect
  dsimp only
  split
  · refine .list (List.forall₂_map_left_iff.mpr (List.forall₂_map_right_iff.mpr ?_))
    exact List.forall₂_same.mpr fun n _ => h n
  · rename_i es _ _
    rw [(hentries es).map_fst]
    exact .refl _ _
  · exact .map (hentries _)
  · refine .list (List.forall₂_map_left_iff.mpr (List.forall₂_map_right_iff.mpr ?_))
    refine List.forall₂_same.mpr fun n _ => ?_
    cases (c.graph.entries n).head? with
    | none => exact .refl _ _
    | some e =>
      have hpair : (Value.pair (valueIn vs e.1) (valueIn vs e.2)).AgreeTo (depth + 1)
          (.pair (valueIn ws e.1) (valueIn ws e.2)) := .pair (h e.1) (h e.2)
      exact hpair.pred
  · exact .refl _ _

/-! ### Rounds -/

/-- The values of all nodes are the same down to a level. -/
structure Agree (depth : Nat) (vs ws : Values) : Prop where
  size : vs.size = ws.size
  values : ∀ n, (valueIn vs n).AgreeTo depth (valueIn ws n)

lemma Agree.assign (h : Agree depth vs ws) (c : Check) (id : Nat) :
    Agree depth (c.assign vs id) (c.assign ws id) where
  size := by rw [size_assign, size_assign, h.size]
  values n := by
    rw [valueIn_assign, valueIn_assign, h.size]
    split
    · exact (collect_agree c h.values id).pred
    · exact h.values n

/-- A collection that is given its value agrees one level further, and so do the nodes that did. -/
lemma Agree.assign_succ (h : Agree depth vs ws) {id n : Nat}
    (hn : n = id ∧ c.isCollected n = true ∨ (valueIn vs n).AgreeTo (depth + 1) (valueIn ws n)) :
    (valueIn (c.assign vs id) n).AgreeTo (depth + 1) (valueIn (c.assign ws id) n) := by
  rw [valueIn_assign, valueIn_assign, h.size]
  split
  · exact collect_agree c h.values id
  · rename_i hnot
    rcases hn with ⟨rfl, hcollected⟩ | hn
    · have hsize : ws.size ≤ n := Nat.not_lt.mp fun hlt => hnot ⟨rfl, hlt, hcollected⟩
      rw [valueIn_of_size_le (h.size ▸ hsize), valueIn_of_size_le hsize]
      exact .refl _ _
    · exact hn

/-- After a round the collections agree one level further. -/
lemma Agree.collectAll (h : Agree depth vs ws) (c : Check) (ids : List Nat) :
    Agree depth (c.collectAll ids vs) (c.collectAll ids ws) ∧
      ∀ n, (n ∈ ids ∧ c.isCollected n = true ∨
          (valueIn vs n).AgreeTo (depth + 1) (valueIn ws n)) →
        (valueIn (c.collectAll ids vs) n).AgreeTo (depth + 1)
          (valueIn (c.collectAll ids ws) n) := by
  induction ids generalizing vs ws with
  | nil => exact ⟨h, fun n hn => hn.resolve_left fun hmem => absurd hmem.1 List.not_mem_nil⟩
  | cons id ids ih =>
    obtain ⟨hagree, hfurther⟩ := ih (h.assign c id)
    refine ⟨hagree, fun n hn => hfurther n ?_⟩
    rcases hn with ⟨hmem, hcollected⟩ | hn
    · rcases List.mem_cons.mp hmem with rfl | hmem
      · exact .inr (h.assign_succ (.inl ⟨rfl, hcollected⟩))
      · exact .inl ⟨hmem, hcollected⟩
    · exact .inr (h.assign_succ (.inr hn))

lemma size_collectAll (c : Check) (ids : List Nat) (vs : Values) :
    (c.collectAll ids vs).size = vs.size := by
  induction ids generalizing vs with
  | nil => rfl
  | cons id ids ih => exact (ih (c.assign vs id)).trans (size_assign c vs id)

/-- A round does not touch the nodes that it does not collect. -/
lemma getElem?_collectAll {ids : List Nat} {n : Nat} (hn : ¬(n ∈ ids ∧ c.isCollected n = true))
    (vs : Values) : (c.collectAll ids vs)[n]? = vs[n]? := by
  induction ids generalizing vs with
  | nil => rfl
  | cons id ids ih =>
    have hrest : ¬(n ∈ ids ∧ c.isCollected n = true) :=
      fun h => hn ⟨List.mem_cons_of_mem id h.1, h.2⟩
    have hstep : (c.assign vs id)[n]? = vs[n]? := by
      rw [getElem?_assign, if_neg]
      rintro ⟨rfl, -, hcollected⟩
      exact hn ⟨List.mem_cons_self, hcollected⟩
    exact (ih hrest (c.assign vs id)).trans hstep

lemma size_unfold (c : Check) (depth : Nat) : (c.unfold depth).size = c.scalars.size := by
  induction depth with
  | zero => rfl
  | succ depth ih => exact (size_collectAll c _ _).trans ih

lemma valueIn_unfold {n : Nat} (hn : ¬(n ∈ c.graph.order ∧ c.isCollected n = true))
    (depth : Nat) : valueIn (c.unfold depth) n = valueIn c.scalars n := by
  induction depth with
  | zero => rfl
  | succ depth ih => rw [unfold, valueIn, getElem?_collectAll hn, ← valueIn, ih]

/-- Further rounds do not change the levels that are settled. -/
theorem unfold_agree (c : Check) (depth more : Nat) :
    Agree depth (c.unfold depth) (c.unfold (depth + more)) := by
  induction depth with
  | zero => exact ⟨by rw [size_unfold, size_unfold], fun _ => trivial⟩
  | succ depth ih =>
    refine ⟨by rw [size_unfold, size_unfold], fun n => ?_⟩
    by_cases hn : n ∈ c.graph.order ∧ c.isCollected n = true
    · rw [Nat.succ_add]
      exact (ih.collectAll c c.graph.order).2 n (.inl hn)
    · rw [valueIn_unfold hn, valueIn_unfold hn]
      exact .refl _ _

/-! ### Documents without cycles -/

/-- The nodes from whose values that of a collection is put together. -/
def members (c : Check) (id : Nat) : List Nat :=
  match (c.graph.node id).content with
  | .scalar _ => []
  | .mapping es => es.map Prod.snd
  | .sequence items =>
    if (c.graph.node id).tag = .sequence then items
    else items.flatMap fun n => (c.graph.entries n).head?.toList.flatMap fun e => [e.1, e.2]

/-- Only the values of the members count. -/
lemma collect_congr {id : Nat} (h : ∀ n ∈ c.members id, valueIn vs n = valueIn ws n) :
    c.collect vs id = c.collect ws id := by
  have hmap (es : List (Nat × Nat)) (hes : ∀ n ∈ es.map Prod.snd, valueIn vs n = valueIn ws n) :
      es.map (fun e => (valueIn c.scalars e.1, valueIn vs e.2)) =
        es.map fun e => (valueIn c.scalars e.1, valueIn ws e.2) :=
    List.map_congr_left fun e he => by rw [hes e.2 (List.mem_map_of_mem he)]
  rw [members] at h
  unfold collect
  dsimp only
  split
  · rename_i htag hcontent
    rw [hcontent, htag] at h
    exact congrArg Value.list (List.map_congr_left h)
  · rename_i es _ hcontent
    rw [hcontent] at h
    rw [hmap es h]
  · rename_i es hcontent _
    rw [hcontent] at h
    rw [hmap es h]
  · rename_i hcontent hnot
    rw [hcontent] at h
    dsimp only at h
    rw [if_neg hnot] at h
    refine congrArg Value.list (List.map_congr_left fun n hn => ?_)
    have hpair := fun m hm => h m (List.mem_flatMap.mpr ⟨n, hn, hm⟩)
    cases hhead : (c.graph.entries n).head? with
    | none => rfl
    | some e =>
      have hkey : valueIn vs e.1 = valueIn ws e.1 := hpair e.1 (by simp [hhead])
      have hvalue : valueIn vs e.2 = valueIn ws e.2 := hpair e.2 (by simp [hhead])
      simp only [hkey, hvalue]
  · rfl

/-- None of the nodes is a member of a collection before it, or of itself. -/
def IsOrdered (c : Check) (ids : List Nat) : Prop :=
  ids.Pairwise (fun a b => a ≠ b ∧ b ∉ c.members a) ∧ ∀ a ∈ ids, a ∉ c.members a

instance (c : Check) (ids : List Nat) : Decidable (c.IsOrdered ids) :=
  inferInstanceAs (Decidable (_ ∧ _))

/-- If each collection comes after its members, a second round changes nothing. -/
lemma collectAll_collectAll {ids : List Nat} (h : c.IsOrdered ids) (vs : Values) :
    c.collectAll ids (c.collectAll ids vs) = c.collectAll ids vs := by
  induction ids generalizing vs with
  | nil => rfl
  | cons id ids ih =>
    obtain ⟨hpairs, hself⟩ := h
    rw [List.pairwise_cons] at hpairs
    rw [List.forall_mem_cons] at hself
    have hrest := ih ⟨hpairs.2, hself.2⟩ (c.assign vs id)
    have hid : id ∉ ids := fun hmem => (hpairs.1 id hmem).1 rfl
    have hmembers : c.collect (c.collectAll ids (c.assign vs id)) id = c.collect vs id := by
      refine collect_congr fun n hn => ?_
      have hmem : n ∉ ids := fun hmem => (hpairs.1 n hmem).2 hn
      have hne : id ≠ n := fun he => hself.1 (he ▸ hn)
      rw [valueIn, getElem?_collectAll (fun h => hmem h.1), getElem?_assign,
        if_neg fun h => hne h.1, ← valueIn]
    have hassign : c.assign (c.collectAll ids (c.assign vs id)) id =
        c.collectAll ids (c.assign vs id) := by
      refine Array.ext_getElem? fun n => ?_
      rw [getElem?_assign]
      split
      · rename_i hn
        obtain ⟨rfl, hsize, hcollected⟩ := hn
        rw [size_collectAll, size_assign] at hsize
        rw [hmembers, getElem?_collectAll (fun h => hid h.1), getElem?_assign,
          if_pos ⟨rfl, hsize, hcollected⟩]
      · rfl
    have hcons (us : Values) : c.collectAll (id :: ids) us = c.collectAll ids (c.assign us id) :=
      rfl
    rw [hcons, hcons, hassign, hrest]

/-- **One round is enough without cycles.**  If each collection comes after its members, the values
do not depend on the number of rounds. -/
theorem unfold_eq_of_isOrdered (h : c.IsOrdered c.graph.order) (depth : Nat) :
    c.unfold (depth + 1) = c.unfold 1 := by
  induction depth with
  | zero => rfl
  | succ depth ih =>
    rw [unfold, ih]
    exact collectAll_collectAll h c.scalars

/- The document `[&a [x], *a]`: naming a node again is no matter once the node has ended. -/
example : (ofGraph ⟨#[⟨.sequence, .sequence [1, 1]⟩, ⟨.sequence, .sequence [2]⟩,
    ⟨.text, .scalar ['x']⟩], [2, 1, 0]⟩).IsOrdered [2, 1, 0] := by decide

end Check

/-! ### Documents -/

/-- The values of a document at two depths agree down to the smaller one. -/
lemma Graph.unfolded_agree (g : Graph) (root depth more : Nat) :
    SameOutcome (Value.AgreeTo depth) (g.unfolded depth root) (g.unfolded (depth + more) root) := by
  unfold unfolded
  cases g.check root with
  | error f => exact .error f
  | ok c => exact .ok ((c.unfold_agree depth more).values root)

lemma readUnfolded_agree (bytes : List UInt8) (depth more : Nat) :
    SameOutcome (Value.AgreeTo depth) (readUnfolded depth bytes)
      (readUnfolded (depth + more) bytes) := by
  unfold readUnfolded
  cases Graph.ofTokens (Tokens.ofSource (Source.ofBytes bytes)) with
  | error f => exact .error f
  | ok composed =>
    obtain ⟨g, root?⟩ := composed
    cases root? with
    | none => exact .ok (.refl depth .null)
    | some root => exact g.unfolded_agree root depth more

end PathRouter.Yaml

namespace PathRouter.RouteTableConfig

/-- **The depth cannot be seen in a configuration.**  From five levels on a file is read alike at all
depths: with the same error, or as configurations with the same routes, whose handlers are of the
same types and are given maps that agree down to the levels that are left. -/
theorem readUnfolded_agree (file? : Option (List UInt8)) (depth more : Nat) :
    SameOutcome (AgreeTo depth) (readUnfolded (depth + 5) file?)
      (readUnfolded (depth + 5 + more) file?) := by
  cases file? with
  | none => exact .error ReadError.noFile
  | some bytes =>
    have hvalues := Yaml.readUnfolded_agree bytes (depth + 5) more
    unfold readUnfolded
    dsimp only
    generalize Yaml.readUnfolded (depth + 5) bytes = r at hvalues ⊢
    generalize Yaml.readUnfolded (depth + 5 + more) bytes = r' at hvalues ⊢
    cases hvalues with
    | error f => exact .error (ReadError.document f)
    | @ok v w hvw =>
      have hread := ofValue_agree hvw
      dsimp only
      generalize ofValue v = c at hread ⊢
      generalize ofValue w = d at hread ⊢
      cases hread with
      | error e => exact .error (ReadError.config e)
      | ok hagree => exact .ok hagree

/-- Reading a file at a larger depth than usual makes no difference, except far down in the maps of
the handlers. -/
theorem read_unfolded (file? : Option (List UInt8)) {depth : Nat}
    (h : Yaml.unfoldingDepth ≤ depth) : SameOutcome (AgreeTo 4) (read file?)
      (readUnfolded depth file?) := by
  obtain ⟨more, rfl⟩ := Nat.exists_eq_add_of_le h
  exact readUnfolded_agree file? 4 more

end PathRouter.RouteTableConfig
