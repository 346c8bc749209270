/-!
# Pieces of a text between separators

Paths and patterns are lists of pieces with a separator character between them.  This file cuts a
text at a separator (`splitOn`), puts pieces together again (`joinWith`) and removes separators at
both ends (`trimEnds`).

Main statements: `joinWith_splitOn` and `splitOn_joinWith`, which make the two operations inverse on
nonempty lists of pieces that do not contain the separator.  A text always has at least one piece
(`splitOn_ne_nil`), and none holds the separator (`not_mem_of_mem_splitOn`).
-/

namespace PathRouter.Text

/-- Puts a character in front of the first piece. -/
def consFirst (c : Char) : List (List Char) → List (List Char)
  | [] => [[c]]
  | p :: ps => (c :: p) :: ps

/-- The pieces of a text between the occurrences of `sep`.  A text without `sep` is one piece, and
two neighbouring separators have an empty piece between them. -/
def splitOn (sep : Char) : List Char → List (List Char)
  | [] => [[]]
  | c :: cs => if c = sep then [] :: splitOn sep cs else consFirst c (splitOn sep cs)

/-- The pieces in order with `sep` between neighbours. -/
def joinWith (sep : Char) : List (List Char) → List Char
  | [] => []
  | [p] => p
  | p :: q :: ps => p ++ sep :: joinWith sep (q :: ps)

/-- The text without the separators at its beginning and at its end. -/
def trimEnds (sep : Char) (cs : List Char) : List Char :=
  ((cs.dropWhile (· == sep)).reverse.dropWhile (· == sep)).reverse

/-! ### Splitting and joining -/

theorem splitOn_ne_nil (sep : Char) (cs : List Char) : splitOn sep cs ≠ [] := by
  cases cs with
  | nil => simp [splitOn]
  | cons c cs =>
    by_cases h : c = sep
    · simp [splitOn, h]
    · cases hs : splitOn sep cs <;> simp [splitOn, h, hs, consFirst]

theorem joinWith_consFirst (sep c : Char) {ps : List (List Char)} (h : ps ≠ []) :
    joinWith sep (consFirst c ps) = c :: joinWith sep ps := by
  match ps, h with
  | [p], _ => rfl
  | p :: q :: ps, _ => rfl

/-- Joining the pieces gives the text back. -/
theorem joinWith_splitOn (sep : Char) (cs : List Char) : joinWith sep (splitOn sep cs) = cs := by
  induction cs with
  | nil => rfl
  | cons c cs ih =>
    by_cases h : c = sep
    · cases hs : splitOn sep cs with
      | nil => exact absurd hs (splitOn_ne_nil sep cs)
      | cons p ps =>
        rw [hs] at ih
        simp [splitOn, h, hs, joinWith, ih]
    · simp [splitOn, h, joinWith_consFirst sep c (splitOn_ne_nil sep cs), ih]

/-- A piece that does not hold the separator is one piece. -/
theorem splitOn_of_not_mem {sep : Char} {cs : List Char} (h : sep ∉ cs) :
    splitOn sep cs = [cs] := by
  induction cs with
  | nil => rfl
  | cons c cs ih =>
    have hc : ¬c = sep := fun e => h (by simp [e])
    have hcs : sep ∉ cs := fun m => h (List.mem_cons_of_mem c m)
    simp [splitOn, hc, ih hcs, consFirst]

/-- A separator after a piece ends that piece. -/
theorem splitOn_append_cons {sep : Char} {p : List Char} (h : sep ∉ p) (cs : List Char) :
    splitOn sep (p ++ sep :: cs) = p :: splitOn sep cs := by
  induction p with
  | nil => simp [splitOn]
  | cons c p ih =>
    have hc : ¬c = sep := fun e => h (by simp [e])
    have hp : sep ∉ p := fun m => h (List.mem_cons_of_mem c m)
    simp [splitOn, hc, ih hp, consFirst]

/-- Splitting a joined text gives its pieces back. -/
theorem splitOn_joinWith {sep : Char} {ps : List (List Char)} (hne : ps ≠ [])
    (h : ∀ p ∈ ps, sep ∉ p) : splitOn sep (joinWith sep ps) = ps := by
  induction ps with
  | nil => exact absurd rfl hne
  | cons p ps ih =>
    cases ps with
    | nil => exact splitOn_of_not_mem (h p (by simp))
    | cons q ps =>
      rw [joinWith, splitOn_append_cons (h p (by simp)),
        ih (by simp) fun r hr => h r (List.mem_cons_of_mem p hr)]

/-- No piece holds the separator. -/
theorem not_mem_of_mem_splitOn {sep : Char} {cs p : List Char} (h : p ∈ splitOn sep cs) :
    sep ∉ p := by
  induction cs generalizing p with
  | nil => simp_all [splitOn]
  | cons c cs ih =>
    by_cases hc : c = sep
    · simp only [splitOn, hc, if_true, List.mem_cons] at h
      rcases h with rfl | h
      · simp
      · exact ih h
    · cases hs : splitOn sep cs with
      | nil => exact absurd hs (splitOn_ne_nil sep cs)
      | cons q qs =>
        simp only [splitOn, hc, if_false, hs, consFirst, List.mem_cons] at h
        rcases h with rfl | h
        · have := ih (p := q) (by simp [hs])
          simp [this, Ne.symm hc]
        · exact ih (by simp [hs, h])

end PathRouter.Text
