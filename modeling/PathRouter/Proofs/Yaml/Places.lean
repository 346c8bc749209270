import Mathlib.Data.List.Infix
import Mathlib.Data.List.TakeWhile
import Mathlib.Tactic.Common
import PathRouter.Yaml.Token.Scalar

/-!
# Reading goes forward

Every reader of a text ends at a later place than it started.  Here this is shown for those that
never fail: what is left of the text after them is a suffix of what was left before.
-/

namespace PathRouter.Yaml.Cursor

/-! ### Characters -/

lemma rest_next (c : Cursor) : c.next.rest = c.rest.tail := by
  obtain ⟨rest, index, line, column⟩ := c
  cases rest with
  | nil => rfl
  | cons ch rest =>
    unfold next
    dsimp only
    split <;> rfl

lemma rest_skip (n : Nat) (c : Cursor) : (c.skip n).rest = c.rest.drop n := by
  induction n generalizing c with
  | zero => rfl
  | succ n ih => rw [skip, ih, rest_next, ← List.drop_one, List.drop_drop, Nat.add_comm]

lemma next_suffix (c : Cursor) : c.next.rest <:+ c.rest := by
  rw [rest_next]
  exact List.tail_suffix _

/-- The character at the cursor comes before what is left after it. -/
lemma rest_eq_cons {c : Cursor} {ch : Char} (h : c.char? = some ch) :
    c.rest = ch :: c.next.rest := by
  rw [rest_next]
  exact (List.cons_head?_tail h).symm

lemma skip_suffix (n : Nat) (c : Cursor) : (c.skip n).rest <:+ c.rest := by
  rw [rest_skip]
  exact List.drop_suffix _ _

/-- The characters of a class and what is left after them make up what was left before. -/
lemma span_append (p : Char → Bool) (c : Cursor) : (c.span p).1 ++ (c.span p).2.rest = c.rest := by
  rw [span, rest_skip]
  exact List.prefix_iff_eq_append.mp (List.takeWhile_prefix p)

lemma of_mem_span {p : Char → Bool} {c : Cursor} {ch : Char} (h : ch ∈ (c.span p).1) :
    p ch = true :=
  List.mem_takeWhile_imp h

lemma span_suffix (p : Char → Bool) (c : Cursor) : (c.span p).2.rest <:+ c.rest :=
  ⟨_, span_append p c⟩

lemma skipSpaces_suffix (c : Cursor) : c.skipSpaces.rest <:+ c.rest := span_suffix _ c

lemma skipComment_suffix (c : Cursor) : c.skipComment.rest <:+ c.rest := by
  unfold skipComment
  split
  · exact span_suffix _ c
  · exact List.suffix_refl _

lemma lineBreak?_suffix {c d : Cursor} {b : Char} (h : c.lineBreak? = some (b, d)) :
    d.rest <:+ c.rest := by
  have hnext : d = c.next := by
    unfold lineBreak? at h
    split at h
    · simp at h
    · split at h
      · simpa using (congrArg (Option.map Prod.snd) h).symm
      · split at h
        · simpa using (congrArg (Option.map Prod.snd) h).symm
        · simp at h
  rw [hnext]
  exact next_suffix c

lemma skipBreak_suffix (c : Cursor) : c.skipBreak.rest <:+ c.rest := by
  unfold skipBreak
  split
  · exact List.suffix_refl _
  · exact lineBreak?_suffix ‹_›

/-! ### Plain scalars -/

lemma plainBreaks_suffix (fuel : Nat) (c : Cursor) : (plainBreaks fuel c).2.rest <:+ c.rest := by
  induction fuel generalizing c with
  | zero => exact List.suffix_refl _
  | succ fuel ih =>
    unfold plainBreaks
    split
    · exact (ih c.next).trans (next_suffix c)
    · split
      · exact List.suffix_refl _
      · rename_i b d hbreak
        have hd := lineBreak?_suffix hbreak
        split
        · exact hd
        · have hmore := (ih d).trans hd
          cases hbreaks : plainBreaks fuel d with
          | mk bs? e =>
            rw [hbreaks] at hmore
            cases bs? <;> exact hmore

lemma plainSpaces_suffix (c : Cursor) : c.plainSpaces.2.1.rest <:+ c.rest := by
  unfold plainSpaces
  cases hspan : c.span (· = ' ') with
  | mk spaces d =>
    have hd : d.rest <:+ c.rest := by
      have h := span_suffix (· = ' ') c
      rwa [hspan] at h
    dsimp only
    split
    · exact hd
    · rename_i b e hbreak
      have he := (lineBreak?_suffix hbreak).trans hd
      split
      · exact he
      · have hmore := (plainBreaks_suffix e.rest.length e).trans he
        cases hbreaks : plainBreaks e.rest.length e with
        | mk bs? f =>
          rw [hbreaks] at hmore
          cases bs? <;> exact hmore

lemma plainFrom_suffix (inFlow : Bool) (indent : Int) (fuel : Nat) (before : List Char)
    (broken : Bool) (c : Cursor) :
    (plainFrom inFlow indent fuel before broken c).2.1.rest <:+ c.rest := by
  induction fuel generalizing before broken c with
  | zero => exact List.suffix_refl _
  | succ fuel ih =>
    unfold plainFrom
    dsimp only
    generalize (if c.char? = some '#' then [] else plainWord inFlow c.rest) = word
    split
    · exact List.suffix_refl _
    · have hspaces := (plainSpaces_suffix (c.skip word.length)).trans (skip_suffix _ c)
      split
      · exact hspaces
      · exact (ih _ _ _).trans hspaces

lemma plain_suffix (inFlow : Bool) (indent : Int) (c : Cursor) :
    (c.plain inFlow indent).2.1.rest <:+ c.rest :=
  plainFrom_suffix inFlow indent _ [] false c

/-! ### Block scalars -/

lemma blockIndentation_suffix (fuel deepest : Nat) (c : Cursor) :
    (c.blockIndentation fuel deepest).2.2.rest <:+ c.rest := by
  induction fuel generalizing deepest c with
  | zero => exact List.suffix_refl _
  | succ fuel ih =>
    unfold blockIndentation
    split
    · exact (ih _ c.next).trans (next_suffix c)
    · split
      · exact List.suffix_refl _
      · exact (ih _ _).trans (lineBreak?_suffix ‹_›)

lemma skipIndent_suffix (column : Nat) (c : Cursor) : (c.skipIndent column).rest <:+ c.rest :=
  skip_suffix _ c

lemma blockBreaks_suffix (column fuel : Nat) (c : Cursor) :
    (c.blockBreaks column fuel).2.rest <:+ c.rest := by
  induction fuel generalizing c with
  | zero => exact List.suffix_refl _
  | succ fuel ih =>
    unfold blockBreaks
    dsimp only
    split
    · exact skipIndent_suffix column c
    · exact (ih _).trans ((lineBreak?_suffix ‹_›).trans (skipIndent_suffix column c))

lemma blockLines_suffix (folded : Bool) (chomp : Chomping) (column fuel : Nat) (breaks : List Char)
    (c : Cursor) : (blockLines folded chomp column fuel breaks c).2.rest <:+ c.rest := by
  induction fuel generalizing breaks c with
  | zero => exact List.suffix_refl _
  | succ fuel ih =>
    unfold blockLines
    dsimp only
    split
    · exact List.suffix_refl _
    · have hline := span_suffix (fun ch => !isBreak ch) c
      generalize c.span (fun ch => !isBreak ch) = line at hline ⊢
      -- Whether a line break follows the line or not, the lines after it are read from a later place.
      cases hbreak : line.2.lineBreak? with
      | none =>
        have hbreaks := (blockBreaks_suffix column line.2.rest.length line.2).trans hline
        dsimp only
        split
        · exact (ih _ _).trans hbreaks
        · exact hbreaks
      | some final =>
        obtain ⟨b, d⟩ := final
        have hbreaks := (blockBreaks_suffix column d.rest.length d).trans
          ((lineBreak?_suffix hbreak).trans hline)
        dsimp only
        split
        · exact (ih _ _).trans hbreaks
        · exact hbreaks

end PathRouter.Yaml.Cursor
