import Mathlib.Data.List.Induction
import Mathlib.Tactic.Common
import PathRouter.OrderedMap

/-!
# Maps made from lists

`ofList` writes the entries of a list one after the other.  This file says what is in such a map.
Its keys are those of the list in the order of their first entries (`keys_ofList`), and each has the
value of its last entry (`get?_ofList_append_cons`).

Captured values come as a list of names beside a list of values.  For the map of these,
`keys_ofList_zip` gives the names and `get?_ofList_zip` the value at the last place of a name.  When
no name is repeated, `mapM_get?_ofList_zip` reads all values back.
-/

namespace PathRouter.OrderedMap

variable {α β : Type} [DecidableEq α]

/-- Writes the entries of a list to a map, one after the other. -/
def putAll (m : OrderedMap α β) (es : List (α × β)) : OrderedMap α β :=
  es.foldl (fun m e => m.put e.1 e.2) m

/-- A map is made from a list by writing all entries to the empty map. -/
lemma ofList_eq_putAll (es : List (α × β)) : ofList es = putAll ∅ es := rfl

@[simp] lemma putAll_nil (m : OrderedMap α β) : m.putAll [] = m := rfl

@[simp] lemma putAll_cons (m : OrderedMap α β) (e : α × β) (es : List (α × β)) :
    m.putAll (e :: es) = (m.put e.1 e.2).putAll es := rfl

/-- The last entry of a list is written last. -/
lemma ofList_append_singleton (es : List (α × β)) (e : α × β) :
    ofList (es ++ [e]) = (ofList es).put e.1 e.2 := by
  unfold ofList
  rw [List.foldl_append]
  rfl

/-! ### Keys and values -/

/-- The keys are what the map contains. -/
lemma mem_keys_iff {m : OrderedMap α β} {k : α} : k ∈ m.keys ↔ m.contains k = true := by
  have hentries : ∀ es : List (α × β),
      k ∈ es.map Prod.fst ↔ (lookup k es).isSome = true := by
    intro es
    induction es with
    | nil => simp [lookup]
    | cons e es ih =>
      rw [List.map_cons, List.mem_cons, ih, lookup]
      by_cases h : e.1 = k
      · simp [h]
      · simp [h, Ne.symm h]
  exact hentries m.entries

/-- The keys stand in the order of their first entries. -/
theorem keys_ofList (es : List (α × β)) : (ofList es).keys = (es.map Prod.fst).eraseDups := by
  induction es using List.reverseRecOn with
  | nil => rfl
  | append_singleton es e ih =>
    rw [ofList_append_singleton, keys_put, ih, List.map_append, List.eraseDups_append]
    by_cases h : e.1 ∈ es.map Prod.fst
    · have hmem : e.1 ∈ (es.map Prod.fst).eraseDups := List.mem_eraseDups.mpr h
      have hnew : ([e].map Prod.fst).removeAll (es.map Prod.fst) = [] := by
        simpa [List.removeAll] using h
      rw [if_pos hmem, hnew]
      simp
    · have hmem : e.1 ∉ (es.map Prod.fst).eraseDups := fun hm => h (List.mem_eraseDups.mp hm)
      have hnew : ([e].map Prod.fst).removeAll (es.map Prod.fst) = [e.1] := by
        simpa [List.removeAll] using h
      rw [if_neg hmem, hnew]
      simp [List.eraseDups_cons]

/-- A key has the value of its last entry. -/
theorem get?_ofList_append_cons {k : α} {es : List (α × β)} (h : k ∉ es.map Prod.fst)
    (before : List (α × β)) (v : β) : (ofList (before ++ (k, v) :: es)).get? k = some v := by
  induction es using List.reverseRecOn with
  | nil => rw [ofList_append_singleton, get?_put, if_pos rfl]
  | append_singleton es e ih =>
    have hes : k ∉ es.map Prod.fst := fun hm => h (by simp [hm])
    have he : e.1 ≠ k := fun he => h (by simp [he])
    have hassoc : before ++ (k, v) :: (es ++ [e]) = (before ++ (k, v) :: es) ++ [e] := by simp
    rw [hassoc, ofList_append_singleton, get?_put, if_neg he]
    exact ih hes

/-- A key has the value of its last entry, and without one it has none. -/
theorem get?_ofList (es : List (α × β)) (k : α) : (ofList es).get? k = lookup k es.reverse := by
  induction es using List.reverseRecOn with
  | nil => rfl
  | append_singleton es e ih =>
    rw [ofList_append_singleton, get?_put, ih, List.reverse_append, List.reverse_singleton,
      List.singleton_append, lookup]

/-! ### Names beside values -/

/-- The names are the keys, each at its first place. -/
lemma keys_ofList_zip {ks : List α} {vs : List β} (hlen : ks.length = vs.length) :
    (ofList (ks.zip vs)).keys = ks.eraseDups := by
  rw [keys_ofList, List.map_fst_zip (Nat.le_of_eq hlen)]

/-- The value at a name is the one beside its last place. -/
theorem get?_ofList_zip {ks : List α} {vs : List β} (hlen : ks.length = vs.length) {i : Nat} {k : α}
    (hi : ks[i]? = some k) (hlast : k ∉ ks.drop (i + 1)) :
    (ofList (ks.zip vs)).get? k = vs[i]? := by
  obtain ⟨hik, hk⟩ := List.getElem?_eq_some_iff.mp hi
  have hiv : i < vs.length := hlen ▸ hik
  have hzip : ks.zip vs =
      (ks.take i).zip (vs.take i) ++ (k, vs[i]) :: (ks.drop (i + 1)).zip (vs.drop (i + 1)) := by
    conv_lhs => rw [← List.take_append_drop i ks, ← List.take_append_drop i vs]
    rw [List.zip_append (by simp [hlen]), List.drop_eq_getElem_cons hik,
      List.drop_eq_getElem_cons hiv, hk, List.zip_cons_cons]
  have hrest : k ∉ ((ks.drop (i + 1)).zip (vs.drop (i + 1))).map Prod.fst := by
    intro hm
    obtain ⟨e, he, rfl⟩ := List.mem_map.mp hm
    exact hlast (List.of_mem_zip he).1
  rw [hzip, get?_ofList_append_cons hrest, List.getElem?_eq_getElem hiv]

/-- Reading a map at each name of a list. -/
lemma mapM_get?_eq_some {m : OrderedMap α β} {ks : List α} {vs : List β}
    (hlen : ks.length = vs.length) (h : ∀ (i : Nat) (k : α), ks[i]? = some k → m.get? k = vs[i]?) :
    ks.mapM m.get? = some vs := by
  induction ks generalizing vs with
  | nil =>
    have hvs : vs = [] := List.length_eq_zero_iff.mp hlen.symm
    rw [hvs]
    rfl
  | cons k ks ih =>
    cases vs with
    | nil => simp at hlen
    | cons v vs =>
      have hk : m.get? k = some v := h 0 k rfl
      have hks : ks.mapM m.get? = some vs :=
        ih (by simpa using hlen) fun i j hij => h (i + 1) j (by simpa using hij)
      rw [List.mapM_cons, hk, hks]
      rfl

/-- Without repeated names all values are read back. -/
theorem mapM_get?_ofList_zip {ks : List α} {vs : List β} (hnd : ks.Nodup)
    (hlen : ks.length = vs.length) : ks.mapM (ofList (ks.zip vs)).get? = some vs := by
  refine mapM_get?_eq_some hlen fun i k hi => get?_ofList_zip hlen hi ?_
  obtain ⟨hik, hk⟩ := List.getElem?_eq_some_iff.mp hi
  have hsplit : ks = ks.take i ++ k :: ks.drop (i + 1) := by
    rw [← hk, ← List.drop_eq_getElem_cons hik, List.take_append_drop]
  rw [hsplit, List.nodup_append, List.nodup_cons] at hnd
  exact hnd.2.1.1

end PathRouter.OrderedMap
