import Mathlib.Algebra.Order.BigOperators.Group.List
import Mathlib.Algebra.Order.Group.Nat
import Mathlib.Data.List.TakeWhile
import Mathlib.Tactic.Common
import PathRouter.Yaml.Graph.Merge

/-!
# What merging changes

Merging gives mappings other entries and turns keys `=` into texts, and it changes nothing else about
a graph (`Graph.Derives`).  A mapping either keeps its entries or ends up without merge keys
(`Graph.Flattens`), and the one that is merged ends up without them.

So the merge keys in the graph become fewer with each one that is replaced, and the fuel of
`Graph.mergeFrom` cannot be seen if there is more of it than merge keys
(`Graph.mergeFrom_eq_merge`).
-/

namespace PathRouter.Yaml.Graph

/-! ### Derived graphs -/

/-- A graph with other entries of its mappings, and with texts instead of some keys `=`. -/
structure Derives (g h : Graph) : Prop where
  size : h.nodes.size = g.nodes.size
  tag : ∀ n, (h.node n).tag = (g.node n).tag ∨ (g.node n).tag = .default ∧ (h.node n).tag = .text
  scalar : ∀ n text, (h.node n).content = .scalar text → (g.node n).content = .scalar text
  mapping : ∀ n, h.isMapping n = g.isMapping n

lemma Derives.refl (g : Graph) : g.Derives g :=
  ⟨rfl, fun _ => .inl rfl, fun _ _ h => h, fun _ => rfl⟩

lemma Derives.trans {g h k : Graph} (hgh : g.Derives h) (hhk : h.Derives k) : g.Derives k where
  size := hhk.size.trans hgh.size
  tag n := by
    rcases hhk.tag n with hk | ⟨hdefault, htext⟩
    · rw [hk]
      exact hgh.tag n
    · rcases hgh.tag n with hh | ⟨-, hh⟩
      · exact .inr ⟨hh ▸ hdefault, htext⟩
      · rw [hh] at hdefault
        simp at hdefault
  scalar n text h := hgh.scalar n text (hhk.scalar n text h)
  mapping n := (hhk.mapping n).trans (hgh.mapping n)

lemma node_set (g : Graph) (n m : Nat) (v : Node) :
    (g.set n v).node m = if n = m ∧ n < g.nodes.size then v else g.node m := by
  rw [node, set, Array.getElem?_setIfInBounds]
  by_cases hn : n = m
  · subst hn
    by_cases hsize : n < g.nodes.size
    · simp [hsize]
    · simp [hsize, node]
  · simp [hn, node]

/-- What is not absent is one of the nodes. -/
lemma lt_size_of_isMapping {g : Graph} {n : Nat} (h : g.isMapping n = true) : n < g.nodes.size := by
  by_contra hle
  have habsent : g.node n = .absent := by
    rw [node, Array.getElem?_eq_none (Nat.not_lt.mp hle), Option.getD_none]
  rw [isMapping, habsent] at h
  simp [Node.absent] at h

lemma size_set (g : Graph) (n : Nat) (v : Node) : (g.set n v).nodes.size = g.nodes.size :=
  Array.size_setIfInBounds

lemma node_setEntries {g : Graph} {id : Nat} (h : g.isMapping id = true) (es : List (Nat × Nat))
    (n : Nat) :
    (g.setEntries id es).node n =
      if id = n then { g.node id with content := .mapping es } else g.node n := by
  rw [setEntries, node_set]
  simp [lt_size_of_isMapping h]

lemma entries_setEntries {g : Graph} {id : Nat} (h : g.isMapping id = true)
    (es : List (Nat × Nat)) (n : Nat) :
    (g.setEntries id es).entries n = if id = n then es else g.entries n := by
  by_cases hid : id = n
  · rw [entries, node_setEntries h, if_pos hid, if_pos hid]
  · rw [entries, node_setEntries h, if_neg hid, if_neg hid, entries]

lemma derives_setEntries {g : Graph} {id : Nat} (h : g.isMapping id = true)
    (es : List (Nat × Nat)) : g.Derives (g.setEntries id es) := by
  have hnode := node_setEntries h es
  refine ⟨size_set g id _, fun n => .inl ?_, fun n text hn => ?_, fun n => ?_⟩
  · rw [hnode]
    split
    · rename_i hid
      rw [hid]
    · rfl
  · rw [hnode] at hn
    split at hn
    · simp at hn
    · exact hn
  · by_cases hid : id = n
    · rw [isMapping, hnode, if_pos hid, ← hid, h]
    · rw [isMapping, hnode, if_neg hid, isMapping]

/-- Only the tag of a key `=` is changed. -/
lemma node_plainKey (g : Graph) (key n : Nat) :
    (g.plainKey key).node n = g.node n ∨
      (g.node n).tag = .default ∧ (g.plainKey key).node n = { g.node n with tag := .text } := by
  unfold plainKey
  split
  · rename_i hdefault
    rw [node_set]
    split
    · rename_i hkey
      obtain ⟨rfl, -⟩ := hkey
      exact .inr ⟨hdefault, rfl⟩
    · exact .inl rfl
  · exact .inl rfl

lemma content_plainKey (g : Graph) (key n : Nat) :
    ((g.plainKey key).node n).content = (g.node n).content := by
  rcases node_plainKey g key n with hn | ⟨-, hn⟩
  · rw [hn]
  · rw [hn]

lemma derives_plainKey (g : Graph) (key : Nat) : g.Derives (g.plainKey key) where
  size := by
    unfold plainKey
    split
    · exact size_set g key _
    · rfl
  tag n := by
    rcases node_plainKey g key n with hn | ⟨hdefault, hn⟩
    · exact .inl (by rw [hn])
    · exact .inr ⟨hdefault, by rw [hn]⟩
  scalar n text h := by rwa [content_plainKey] at h
  mapping n := by rw [isMapping, content_plainKey, isMapping]

/-! ### Entries without merge keys -/

lemma Derives.isMerge {g h : Graph} (hgh : g.Derives h) (e : Nat × Nat) :
    h.isMerge e = g.isMerge e := by
  rcases hgh.tag e.1 with htag | ⟨hdefault, htext⟩
  · rw [Graph.isMerge, htag, Graph.isMerge]
  · rw [Graph.isMerge, htext, Graph.isMerge, hdefault]
    rfl

/-- None of the entries has a merge key. -/
def MergeFree (g : Graph) (es : List (Nat × Nat)) : Prop := ∀ e ∈ es, g.isMerge e = false

lemma MergeFree.nil {g : Graph} : g.MergeFree [] := fun _ he => absurd he List.not_mem_nil

lemma MergeFree.append {g : Graph} {es fs : List (Nat × Nat)} (hes : g.MergeFree es)
    (hfs : g.MergeFree fs) : g.MergeFree (es ++ fs) :=
  List.forall_mem_append.mpr ⟨hes, hfs⟩

/-- Merge keys are the same in a derived graph. -/
lemma Derives.mergeFree {g h : Graph} (hgh : g.Derives h) {es : List (Nat × Nat)}
    (hes : g.MergeFree es) : h.MergeFree es :=
  fun e he => (hgh.isMerge e).trans (hes e he)

/-- A derived graph, in which each mapping has its entries or has no merge keys any more. -/
structure Flattens (g h : Graph) : Prop extends Derives g h where
  entries : ∀ n, h.entries n = g.entries n ∨ h.MergeFree (h.entries n)

lemma Flattens.refl (g : Graph) : g.Flattens g := ⟨.refl g, fun _ => .inl rfl⟩

lemma Flattens.trans {g h k : Graph} (hgh : g.Flattens h) (hhk : h.Flattens k) : g.Flattens k where
  toDerives := hgh.toDerives.trans hhk.toDerives
  entries n := by
    rcases hhk.entries n with hk | hfree
    · rw [hk]
      exact (hgh.entries n).imp_right hhk.mergeFree
    · exact .inr hfree

lemma entries_plainKeys (g : Graph) (es : List (Nat × Nat)) (n : Nat) :
    (g.plainKeys es).entries n = g.entries n := by
  induction es generalizing g with
  | nil => rfl
  | cons e es ih =>
    have hkey : (g.plainKey e.1).entries n = g.entries n := by
      rw [entries, content_plainKey, entries]
    exact (ih (g.plainKey e.1)).trans hkey

lemma flattens_plainKeys (g : Graph) (es : List (Nat × Nat)) : g.Flattens (g.plainKeys es) where
  toDerives := by
    induction es generalizing g with
    | nil => exact .refl g
    | cons e es ih => exact (derives_plainKey g e.1).trans (ih (g.plainKey e.1))
  entries n := .inl (entries_plainKeys g es n)

/-- What merging a mapping comes to: it has no merge keys any more, or something is malformed. -/
def Merged (g : Graph) (id : Nat) : Except Fault Graph → Prop
  | .ok h => g.Flattens h ∧ h.MergeFree (h.entries id)
  | .error f => f = .malformed

lemma Merged.of_flattens {g h : Graph} {id : Nat} {r : Except Fault Graph} (hgh : g.Flattens h)
    (hr : h.Merged id r) : g.Merged id r := by
  cases r with
  | ok k => exact ⟨hgh.trans hr.1, hr.2⟩
  | error f => exact hr

/-- Which entries the merged mapping had does not matter. -/
lemma Merged.of_setEntries {g : Graph} {id : Nat} (h : g.isMapping id = true)
    {es : List (Nat × Nat)} {r : Except Fault Graph} (hr : (g.setEntries id es).Merged id r) :
    g.Merged id r := by
  cases r with
  | error f => exact hr
  | ok k =>
    obtain ⟨hflattens, hfree⟩ := hr
    refine ⟨⟨(derives_setEntries h es).trans hflattens.toDerives, fun n => ?_⟩, hfree⟩
    by_cases hid : id = n
    · exact .inr (hid ▸ hfree)
    · have hsame := hflattens.entries n
      rwa [entries_setEntries h, if_neg hid] at hsame

/-! ### One step of merging -/

/-- A mapping whose merge keys are being replaced: the entries before the index have been looked at,
and those that were found are at hand. -/
structure Merging (g : Graph) (id index : Nat) (merged : List (Nat × Nat)) : Prop where
  mapping : g.isMapping id = true
  passed : g.MergeFree ((g.entries id).take index)
  found : g.MergeFree merged

variable {g h : Graph} {id index : Nat} {merged : List (Nat × Nat)}

/-- At the beginning nothing has been looked at. -/
lemma Merging.start (h : g.isMapping id = true) : g.Merging id 0 [] :=
  ⟨h, .nil, .nil⟩

/-- A mapping is still being merged after others were, even if it was one of them. -/
lemma Merging.of_flattens (hm : g.Merging id index merged) (hgh : g.Flattens h) :
    h.Merging id index merged where
  mapping := (hgh.mapping id).trans hm.mapping
  passed := by
    rcases hgh.entries id with hsame | hfree
    · rw [hsame]
      exact hgh.mergeFree hm.passed
    · exact fun e he => hfree e (List.mem_of_mem_take he)
  found := hgh.mergeFree hm.found

/-- Without a further merge key there is none at all. -/
lemma Merging.mergeFree_of_later (hm : g.Merging id index merged)
    (hlater : (((g.entries id).drop index).dropWhile fun e => !g.isMerge e) = []) :
    g.MergeFree (g.entries id) := by
  rw [← List.take_append_drop index (g.entries id)]
  refine hm.passed.append fun e he => ?_
  have hnot := List.dropWhile_eq_nil_iff.mp hlater e he
  simpa using hnot

/-- The next merge key and the entries before it. -/
lemma Merging.exists_split (hm : g.Merging id index merged) {e : Nat × Nat}
    {after : List (Nat × Nat)}
    (hlater : (((g.entries id).drop index).dropWhile fun e => !g.isMerge e) = e :: after) :
    ∃ before, g.entries id = before ++ e :: after ∧
      before.length =
        index + (((g.entries id).drop index).takeWhile fun e => !g.isMerge e).length ∧
      g.MergeFree before ∧ g.isMerge e = true := by
  have hrest := List.takeWhile_append_dropWhile (p := fun e => !g.isMerge e)
    (l := (g.entries id).drop index)
  rw [hlater] at hrest
  have hindex : index ≤ (g.entries id).length := by
    by_contra hlt
    rw [List.drop_eq_nil_of_le (Nat.le_of_lt (Nat.not_le.mp hlt))] at hlater
    simp at hlater
  refine ⟨(g.entries id).take index ++
    ((g.entries id).drop index).takeWhile fun e => !g.isMerge e, ?_, ?_, ?_, ?_⟩
  · rw [List.append_assoc, hrest, List.take_append_drop]
  · rw [List.length_append, List.length_take, Nat.min_eq_left hindex]
  · refine hm.passed.append fun d hd => ?_
    simpa using List.mem_takeWhile_imp hd
  · have hhead := List.head?_dropWhile_not (fun e => !g.isMerge e) ((g.entries id).drop index)
    rw [hlater] at hhead
    simpa using hhead

/-- The next merge key is taken out. -/
lemma Merging.erase (hm : g.Merging id index merged) {before : List (Nat × Nat)}
    (hbefore : g.MergeFree before) (after : List (Nat × Nat)) :
    (g.setEntries id (before ++ after)).Merging id before.length merged where
  mapping := ((derives_setEntries hm.mapping _).mapping id).trans hm.mapping
  passed := by
    rw [entries_setEntries hm.mapping, if_pos rfl, List.take_left]
    exact (derives_setEntries hm.mapping _).mergeFree hbefore
  found := (derives_setEntries hm.mapping _).mergeFree hm.found

/-! ### The number of merge keys -/

/-- Merging makes no further merge keys. -/
lemma Flattens.mergeCount_le (hgh : g.Flattens h) : h.mergeCount ≤ g.mergeCount := by
  rw [mergeCount, mergeCount, hgh.size, List.length_flatMap, List.length_flatMap]
  refine List.sum_le_sum fun n _ => ?_
  rcases hgh.entries n with hsame | hfree
  · rw [hsame, List.filter_congr fun e _ => hgh.isMerge e]
  · have hnone : (h.entries n).filter h.isMerge = [] :=
      List.filter_eq_nil_iff.mpr fun e he => by simp [hfree e he]
    rw [hnone]
    exact Nat.zero_le _

/-- Without an entry that had one, there is one merge key less. -/
lemma mergeCount_erase_lt (hmapping : g.isMapping id = true) {e : Nat × Nat}
    {before after : List (Nat × Nat)} (hentries : g.entries id = before ++ e :: after)
    (he : g.isMerge e = true) : (g.setEntries id (before ++ after)).mergeCount < g.mergeCount := by
  have hderives := derives_setEntries hmapping (before ++ after)
  have hcount (n : Nat) :
      (((g.setEntries id (before ++ after)).entries n).filter
          (g.setEntries id (before ++ after)).isMerge).length =
        ((if id = n then before ++ after else g.entries n).filter g.isMerge).length := by
    rw [entries_setEntries hmapping, List.filter_congr fun e _ => hderives.isMerge e]
  have hid : ((before ++ after).filter g.isMerge).length <
      ((g.entries id).filter g.isMerge).length := by
    rw [hentries, List.filter_append, List.filter_append, List.filter_cons_of_pos he,
      List.length_append, List.length_append, List.length_cons]
    omega
  rw [mergeCount, mergeCount, hderives.size, List.length_flatMap, List.length_flatMap]
  refine List.sum_lt_sum _ _ (fun n _ => ?_)
    ⟨id, List.mem_range.mpr (lt_size_of_isMapping hmapping), ?_⟩
  · rw [hcount]
    split
    · rename_i hn
      exact hn ▸ Nat.le_of_lt hid
    · exact Nat.le_refl _
  · rw [hcount, if_pos rfl]
    exact hid

/-! ### Merging -/

/-- Mappings that are merged one after the other are merged, and what is found in them has no merge
keys. -/
lemma mergeAll_spec {merge : Nat → Graph → Except Fault Graph}
    (hmerge : ∀ n (g : Graph), g.isMapping n = true → g.Merged n (merge n g)) (items : List Nat)
    (found : List (Nat × Nat)) (hfound : g.MergeFree found) :
    match mergeAll merge items found g with
    | .ok (all, h) => g.Flattens h ∧ h.MergeFree all
    | .error f => f = .malformed := by
  induction items generalizing g found with
  | nil => exact ⟨.refl g, hfound⟩
  | cons item items ih =>
    rw [mergeAll]
    by_cases hmapping : g.isMapping item = true
    · rw [if_neg (by simp [hmapping])]
      have hitem := hmerge item g hmapping
      generalize merge item g = r at hitem ⊢
      cases r with
      | error f => exact hitem
      | ok h =>
        obtain ⟨hflattens, hfree⟩ := hitem
        have hall := ih _ (hfree.append (hflattens.mergeFree hfound))
        dsimp only
        generalize mergeAll merge items (h.entries item ++ found) h = r at hall ⊢
        cases r with
        | error f => exact hall
        | ok rest => exact ⟨hflattens.trans hall.1, hall.2⟩
    · rw [if_pos (by simpa using hmapping)]

/-- How merging goes on after a merge key with a value was taken out. -/
def mergeNext (id fuel next v : Nat) (merged : List (Nat × Nat)) (g : Graph) :
    Except Fault Graph :=
  match g.mergeItems? v with
  | none => .error .malformed
  | some items =>
    match mergeAll (fun n => mergeFrom n fuel 0 []) items [] g with
    | .error e => .error e
    | .ok (found, g) => mergeFrom id fuel next (merged ++ found) g

/-- Merging a mapping either ends without further merge keys, or the next one is taken out, which
leaves fewer. -/
lemma Merging.step (hm : g.Merging id index merged) :
    (∃ h, g.Merged id (.ok h) ∧ ∀ fuel, mergeFrom id (fuel + 1) index merged g = .ok h) ∨
    ∃ h next v, h.Merging id next merged ∧ h.mergeCount < g.mergeCount ∧
      (∀ r, h.Merged id r → g.Merged id r) ∧
      ∀ fuel, mergeFrom id (fuel + 1) index merged g = mergeNext id fuel next v merged h := by
  have hkeys := flattens_plainKeys g
    (((g.entries id).drop index).takeWhile fun e => !g.isMerge e)
  have hentries := entries_plainKeys g
    (((g.entries id).drop index).takeWhile fun e => !g.isMerge e) id
  have hm' := hm.of_flattens hkeys
  cases hlater : ((g.entries id).drop index).dropWhile fun e => !g.isMerge e with
  | nil =>
    have hfree := hkeys.mergeFree (hm.mergeFree_of_later hlater)
    refine .inl ⟨_, ?_, fun fuel => by rw [mergeFrom, hlater]⟩
    by_cases hmerged : merged = []
    · rw [if_pos hmerged]
      refine ⟨hkeys, ?_⟩
      rw [hentries]
      exact hfree
    · rw [if_neg hmerged]
      refine .of_flattens hkeys (.of_setEntries hm'.mapping ⟨.refl _, ?_⟩)
      rw [entries_setEntries hm'.mapping, if_pos rfl, hentries]
      exact (derives_setEntries hm'.mapping _).mergeFree (hm'.found.append hfree)
  | cons e after =>
    obtain ⟨before, hsplit, hlength, hbefore, he⟩ := hm.exists_split hlater
    have herase : (g.entries id).eraseIdx before.length = before ++ after := by
      rw [hsplit, List.eraseIdx_append_of_length_le (Nat.le_refl _), Nat.sub_self,
        List.eraseIdx_zero, List.tail_cons]
    refine .inr ⟨_, before.length, e.2, hm'.erase (hkeys.mergeFree hbefore) after, ?_,
      fun r hr => .of_flattens hkeys (.of_setEntries hm'.mapping hr), fun fuel => ?_⟩
    · exact Nat.lt_of_lt_of_le
        (mergeCount_erase_lt hm'.mapping (hentries.trans hsplit) ((hkeys.isMerge e).trans he))
        hkeys.mergeCount_le
    · rw [mergeFrom, hlater, ← hlength, hentries, herase]
      rfl

/-- Whatever the fuel, merging either fails or leaves no merge key in the mapping. -/
theorem Merging.merged_mergeFrom (hm : g.Merging id index merged) (fuel : Nat) :
    g.Merged id (mergeFrom id fuel index merged g) := by
  induction fuel generalizing g id index merged with
  | zero => exact rfl
  | succ fuel ih =>
    rcases hm.step with ⟨h, hmerged, hends⟩ | ⟨h, next, v, hh, -, hback, hgoes⟩
    · rw [hends]
      exact hmerged
    · rw [hgoes, mergeNext]
      apply hback
      cases h.mergeItems? v with
      | none => exact rfl
      | some items =>
        have hitems := mergeAll_spec (g := h) (fun n k hn => ih (start hn)) items [] .nil
        dsimp only
        generalize mergeAll (fun n => mergeFrom n fuel 0 []) items [] h = r at hitems ⊢
        cases r with
        | error f => exact hitems
        | ok rest =>
          obtain ⟨hflattens, hfound⟩ := hitems
          have hrest := hh.of_flattens hflattens
          exact .of_flattens hflattens
            (ih ⟨hrest.mapping, hrest.passed, hrest.found.append hfound⟩)

/-- Two ways of merging that agree on graphs with few merge keys agree on several mappings. -/
lemma mergeAll_congr {merge merge' : Nat → Graph → Except Fault Graph} {bound : Nat}
    (hmerge : ∀ n (g : Graph), g.isMapping n = true → g.Merged n (merge n g))
    (hsame : ∀ n (g : Graph), g.isMapping n = true → g.mergeCount ≤ bound → merge n g = merge' n g)
    (items : List Nat) (found : List (Nat × Nat)) (hbound : g.mergeCount ≤ bound) :
    mergeAll merge items found g = mergeAll merge' items found g := by
  induction items generalizing g found with
  | nil => rfl
  | cons item items ih =>
    rw [mergeAll, mergeAll]
    by_cases hmapping : g.isMapping item = true
    · rw [if_neg (by simp [hmapping]), if_neg (by simp [hmapping]), ← hsame item g hmapping hbound]
      have hitem := hmerge item g hmapping
      generalize merge item g = r at hitem ⊢
      cases r with
      | error f => rfl
      | ok h => exact ih _ (Nat.le_trans hitem.1.mergeCount_le hbound)
    · rw [if_pos (by simpa using hmapping), if_pos (by simpa using hmapping)]

/-- The fuel makes no difference once there is more of it than merge keys. -/
theorem Merging.mergeFrom_congr (hm : g.Merging id index merged) {fuel fuel' : Nat}
    (hfuel : g.mergeCount < fuel) (hfuel' : g.mergeCount < fuel') :
    mergeFrom id fuel index merged g = mergeFrom id fuel' index merged g := by
  induction fuel generalizing fuel' g id index merged with
  | zero => exact absurd hfuel (Nat.not_lt_zero _)
  | succ fuel ih =>
    obtain ⟨fuel', rfl⟩ := Nat.exists_eq_add_of_lt (Nat.zero_lt_of_lt hfuel')
    rw [Nat.zero_add] at hfuel' ⊢
    rcases hm.step with ⟨h, -, hends⟩ | ⟨h, next, v, hh, hfewer, -, hgoes⟩
    · rw [hends, hends]
    · have hless : h.mergeCount < fuel := by omega
      have hless' : h.mergeCount < fuel' := by omega
      rw [hgoes, hgoes, mergeNext, mergeNext]
      cases h.mergeItems? v with
      | none => rfl
      | some items =>
        have hmerge (n : Nat) (k : Graph) (hn : k.isMapping n = true) :
            k.Merged n (mergeFrom n fuel 0 [] k) := (start hn).merged_mergeFrom fuel
        have hsame := mergeAll_congr (g := h) hmerge
          (fun n k hn hk => ih (start hn) (Nat.lt_of_le_of_lt hk hless)
            (Nat.lt_of_le_of_lt hk hless')) items [] (Nat.le_refl _)
        have hitems := mergeAll_spec (g := h) hmerge items [] .nil
        dsimp only
        rw [← hsame]
        generalize mergeAll (fun n => mergeFrom n fuel 0 []) items [] h = r at hitems ⊢
        cases r with
        | error f => rfl
        | ok rest =>
          obtain ⟨hflattens, hfound⟩ := hitems
          have hrest := hh.of_flattens hflattens
          have hcount := hflattens.mergeCount_le
          exact ih ⟨hrest.mapping, hrest.passed, hrest.found.append hfound⟩ (by omega) (by omega)

/-- Merging leaves no merge key in the mapping, or fails because something is malformed. -/
theorem merged_merge (h : g.isMapping id = true) : g.Merged id (g.merge id) :=
  (Merging.start h).merged_mergeFrom (g.mergeCount + 1)

/-- **Merging comes to its end.**  The fuel with which a mapping is merged cannot be seen: any fuel
that exceeds the number of merge keys gives the same graph, or the same fault. -/
theorem mergeFrom_eq_merge (h : g.isMapping id = true) {fuel : Nat} (hfuel : g.mergeCount < fuel) :
    mergeFrom id fuel 0 [] g = g.merge id :=
  (Merging.start h).mergeFrom_congr hfuel (Nat.lt_succ_self _)

end PathRouter.Yaml.Graph
