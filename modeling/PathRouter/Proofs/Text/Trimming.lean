import Mathlib.Data.List.DropRight
import Mathlib.Tactic.Common
import PathRouter.Text.Pieces

/-!
# Trimmed texts and their pieces

`trimEnds` takes away the separators at both ends of a text and nothing else
(`eq_replicate_append_trimEnds`).  What is left neither begins nor ends with a separator, so its
first and its last piece are not empty, unless nothing is left at all (`splitOn_trimEnds_ends`).
A text with a separator at an end has an empty piece there (`head?_splitOn_cons`,
`getLast?_splitOn_concat`).

Conversely a text that neither begins nor ends with a separator is what is left of itself with
separators around it (`trimEnds_replicate_append`), so separators around a text make no difference
(`trimEnds_surrounded`).
-/

namespace PathRouter.Text

/-- Trimming drops from the left, then from the right. -/
lemma trimEnds_eq_rdropWhile (sep : Char) (cs : List Char) :
    trimEnds sep cs = (cs.dropWhile (· == sep)).rdropWhile (· == sep) := rfl

/-- Only separators are taken away. -/
theorem eq_replicate_append_trimEnds (sep : Char) (cs : List Char) :
    ∃ m n, cs = List.replicate m sep ++ trimEnds sep cs ++ List.replicate n sep := by
  have hleft : ∀ c ∈ cs.takeWhile (· == sep), c = sep := by
    intro c hc
    have hsep := List.mem_takeWhile_imp hc
    exact beq_iff_eq.mp hsep
  have hright : ∀ c ∈ (cs.dropWhile (· == sep)).rtakeWhile (· == sep), c = sep := by
    intro c hc
    have hsep := List.mem_rtakeWhile_imp hc
    exact beq_iff_eq.mp hsep
  refine ⟨(cs.takeWhile (· == sep)).length,
    ((cs.dropWhile (· == sep)).rtakeWhile (· == sep)).length, ?_⟩
  rw [← List.eq_replicate_of_mem hleft, trimEnds_eq_rdropWhile, List.append_assoc,
    ← List.eq_replicate_of_mem hright, List.rdropWhile_append_rtakeWhile,
    List.takeWhile_append_dropWhile]

/-- A trimmed text does not end with a separator. -/
lemma getLast?_trimEnds_ne (sep : Char) (cs : List Char) :
    (trimEnds sep cs).getLast? ≠ some sep := by
  intro h
  rw [trimEnds_eq_rdropWhile] at h
  have hne : (cs.dropWhile (· == sep)).rdropWhile (· == sep) ≠ [] := by
    intro hnil
    simp [hnil] at h
  rw [List.getLast?_eq_some_getLast hne, Option.some_inj] at h
  exact List.rdropWhile_last_not (· == sep) _ hne (beq_iff_eq.mpr h)

/-- A trimmed text does not begin with a separator. -/
lemma head?_trimEnds_ne (sep : Char) (cs : List Char) : (trimEnds sep cs).head? ≠ some sep := by
  intro h
  have hprefix : trimEnds sep cs <+: cs.dropWhile (· == sep) :=
    List.rdropWhile_prefix (· == sep) _
  obtain ⟨rest, hrest⟩ := hprefix
  have hhead : (cs.dropWhile (· == sep)).head? = some sep := by
    rw [← hrest, List.head?_append, h]
    rfl
  have hnot := List.head?_dropWhile_not (· == sep) cs
  rw [hhead] at hnot
  simp at hnot

/-- Nothing is left of a text exactly when it consists of separators. -/
lemma trimEnds_eq_nil_iff {sep : Char} {cs : List Char} :
    trimEnds sep cs = [] ↔ ∀ c ∈ cs, c = sep := by
  constructor
  · intro h c hc
    obtain ⟨m, n, hcs⟩ := eq_replicate_append_trimEnds sep cs
    rw [h, List.append_nil] at hcs
    rw [hcs, List.mem_append] at hc
    rcases hc with hc | hc
    · exact List.eq_of_mem_replicate hc
    · exact List.eq_of_mem_replicate hc
  · intro h
    have hdrop : cs.dropWhile (· == sep) = [] :=
      List.dropWhile_eq_nil_iff.mpr fun c hc => beq_iff_eq.mpr (h c hc)
    rw [trimEnds, hdrop]
    rfl

/-- Separators in front of a text are dropped up to the first other character. -/
lemma dropWhile_replicate_append {sep : Char} {cs : List Char} (h : cs.head? ≠ some sep) (m : Nat) :
    (List.replicate m sep ++ cs).dropWhile (· == sep) = cs := by
  rw [List.dropWhile_append_of_pos fun c hc => beq_iff_eq.mpr (List.eq_of_mem_replicate hc)]
  cases cs with
  | nil => rfl
  | cons c cs =>
    have hc : c ≠ sep := fun hsep => h (by rw [hsep]; rfl)
    exact List.dropWhile_cons_of_neg (by simpa using hc)

/-- A text that neither begins nor ends with a separator is left when those around it are taken
away. -/
theorem trimEnds_replicate_append {sep : Char} {cs : List Char} (hhead : cs.head? ≠ some sep)
    (hlast : cs.getLast? ≠ some sep) (m n : Nat) :
    trimEnds sep (List.replicate m sep ++ cs ++ List.replicate n sep) = cs := by
  by_cases hnil : cs = []
  · subst hnil
    refine trimEnds_eq_nil_iff.mpr fun c hc => ?_
    rw [List.append_nil, List.mem_append] at hc
    exact hc.elim List.eq_of_mem_replicate List.eq_of_mem_replicate
  · have hfront : (cs ++ List.replicate n sep).head? ≠ some sep := by
      rw [List.head?_append_of_ne_nil _ hnil]
      exact hhead
    have hback : cs.reverse.head? ≠ some sep := by
      rw [List.head?_reverse]
      exact hlast
    rw [trimEnds, List.append_assoc, dropWhile_replicate_append hfront, List.reverse_append,
      List.reverse_replicate, dropWhile_replicate_append hback, List.reverse_reverse]

/-- Separators around a text make no difference. -/
theorem trimEnds_surrounded (sep : Char) (cs : List Char) (m n : Nat) :
    trimEnds sep (List.replicate m sep ++ cs ++ List.replicate n sep) = trimEnds sep cs := by
  obtain ⟨k, l, hcs⟩ := eq_replicate_append_trimEnds sep cs
  have hmore : List.replicate m sep ++ cs ++ List.replicate n sep =
      List.replicate (m + k) sep ++ trimEnds sep cs ++ List.replicate (l + n) sep := by
    conv_lhs => rw [hcs]
    simp only [List.replicate_add, List.append_assoc]
  rw [hmore, trimEnds_replicate_append (head?_trimEnds_ne sep cs) (getLast?_trimEnds_ne sep cs)]

/-! ### Pieces -/

/-- A last piece stands after a separator. -/
lemma joinWith_append_singleton (sep : Char) {ps : List (List Char)} (h : ps ≠ [])
    (q : List Char) : joinWith sep (ps ++ [q]) = joinWith sep ps ++ sep :: q := by
  induction ps with
  | nil => exact absurd rfl h
  | cons p ps ih =>
    cases ps with
    | nil => rfl
    | cons r ps =>
      have hrest : joinWith sep (r :: ps ++ [q]) = joinWith sep (r :: ps) ++ sep :: q :=
        ih (by simp)
      simp only [List.cons_append, joinWith, List.append_assoc] at hrest ⊢
      rw [hrest]

/-- Pieces of a text that does not begin with a separator do not begin with an empty one. -/
lemma head?_splitOn_ne {sep : Char} {cs : List Char} (hne : cs ≠ []) (h : cs.head? ≠ some sep) :
    (splitOn sep cs).head? ≠ some [] := by
  intro hhead
  have hjoin := joinWith_splitOn sep cs
  obtain ⟨ps, hps⟩ := List.head?_eq_some_iff.mp hhead
  rw [hps] at hjoin
  cases ps with
  | nil => exact hne hjoin.symm
  | cons p ps => exact h (by rw [← hjoin]; rfl)

/-- Pieces of a text that does not end with a separator do not end with an empty one. -/
lemma getLast?_splitOn_ne {sep : Char} {cs : List Char} (hne : cs ≠ [])
    (h : cs.getLast? ≠ some sep) : (splitOn sep cs).getLast? ≠ some [] := by
  intro hlast
  have hjoin := joinWith_splitOn sep cs
  obtain ⟨ps, hps⟩ := List.getLast?_eq_some_iff.mp hlast
  rw [hps] at hjoin
  by_cases hnil : ps = []
  · rw [hnil] at hjoin
    exact hne hjoin.symm
  · rw [joinWith_append_singleton sep hnil] at hjoin
    exact h (by rw [← hjoin]; simp)

/-- A text that begins with a separator begins with an empty piece. -/
lemma head?_splitOn_cons (sep : Char) (cs : List Char) :
    (splitOn sep (sep :: cs)).head? = some [] := by
  rw [splitOn, if_pos rfl, List.head?_cons]

/-- A text that ends with a separator ends with an empty piece. -/
lemma getLast?_splitOn_concat (sep : Char) (cs : List Char) :
    (splitOn sep (cs ++ [sep])).getLast? = some [] := by
  have hjoin : joinWith sep (splitOn sep cs ++ [[]]) = cs ++ [sep] := by
    rw [joinWith_append_singleton sep (splitOn_ne_nil sep cs), joinWith_splitOn]
  have hpieces : ∀ p ∈ splitOn sep cs ++ [[]], sep ∉ p := by
    intro p hp
    rcases List.mem_append.mp hp with hp | hp
    · exact not_mem_of_mem_splitOn hp
    · rw [List.mem_singleton.mp hp]
      exact List.not_mem_nil
  rw [← hjoin, splitOn_joinWith (by simp) hpieces, List.getLast?_concat]

/-- A joined text begins and ends with a separator only if its first or last piece is empty. -/
lemma ends_joinWith {sep : Char} {ps : List (List Char)} (hne : ps ≠ []) (h : ∀ p ∈ ps, sep ∉ p)
    (hfirst : ps.head? ≠ some []) (hlast : ps.getLast? ≠ some []) :
    (joinWith sep ps).head? ≠ some sep ∧ (joinWith sep ps).getLast? ≠ some sep := by
  have hsplit := splitOn_joinWith hne h
  constructor
  · intro hhead
    obtain ⟨rest, hrest⟩ := List.head?_eq_some_iff.mp hhead
    rw [hrest] at hsplit
    exact hfirst (hsplit ▸ head?_splitOn_cons sep rest)
  · intro hend
    obtain ⟨rest, hrest⟩ := List.getLast?_eq_some_iff.mp hend
    rw [hrest] at hsplit
    exact hlast (hsplit ▸ getLast?_splitOn_concat sep rest)

/-- The pieces of a trimmed text: one empty piece, or neither the first nor the last is empty. -/
theorem splitOn_trimEnds_ends (sep : Char) (cs : List Char) :
    splitOn sep (trimEnds sep cs) = [[]] ∨
      ((splitOn sep (trimEnds sep cs)).head? ≠ some [] ∧
        (splitOn sep (trimEnds sep cs)).getLast? ≠ some []) := by
  by_cases hne : trimEnds sep cs = []
  · left
    rw [hne]
    rfl
  · right
    exact ⟨head?_splitOn_ne hne (head?_trimEnds_ne sep cs),
      getLast?_splitOn_ne hne (getLast?_trimEnds_ne sep cs)⟩

end PathRouter.Text
