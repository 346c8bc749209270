import Mathlib.Tactic.Common
import PathRouter.Expression.Read
import PathRouter.Pattern.Grammar

/-!
# Reading the expression of a pattern

The expression of a pattern is a text, and a literal of the pattern may hold any characters: here it
is shown what the text is read as.  A character of a literal becomes one item for that character
(`read?_escape`), a parameter becomes one group (`read?_group`), and together `read?_expression`
gives the parts of every pattern.

Everything is read from the front, with an arbitrary rest of the text behind it that can itself be
read.  That the rest can be read also excludes that it begins with a `+`, which would repeat the
last character of a literal.
-/

namespace PathRouter

namespace Expression

/-- Reading goes through marks and symbols. -/
lemma read?_eq_some_iff {cs : List Char} {ps : List Part} :
    read? cs = some ps ↔
      ∃ ms ss, marks? cs = some ms ∧ symbolsFrom none ms = some ss ∧
        partsFrom none ss = some ps := by
  simp [read?, Option.bind_eq_some_iff]

/-! ### Literal characters -/

/-- A character of a literal is the set of itself. -/
lemma symbol?_ofChar (c : Char) : (Mark.ofChar c).symbol? = some (.set (.only c)) := by
  unfold Mark.ofChar
  by_cases h : isMeta c = true
  · have hd : c ≠ 'd' := by
      rintro rfl
      exact absurd h (by decide)
    rw [if_pos h, Mark.symbol?, if_neg hd, if_pos (isMeta_iff.mp h)]
  · rw [if_neg h]
    unfold Mark.symbol?
    split <;> rename_i heq <;> simp only [Mark.plain.injEq, reduceCtorEq] at heq
    · exact absurd (heq ▸ h) (by decide)
    · exact absurd (heq ▸ h) (by decide)
    · exact absurd (heq ▸ h) (by decide)
    · exact absurd (heq ▸ h) (by decide)
    · exact absurd (heq ▸ h) (by decide)
    · rw [← heq, if_neg fun hc => h (isMeta_iff.mpr hc)]

/-- No character of a literal opens brackets. -/
lemma ofChar_ne_bracket (c : Char) : Mark.ofChar c ≠ .plain '[' := by
  unfold Mark.ofChar
  split
  · simp
  · rename_i h
    intro heq
    rw [Mark.plain.injEq] at heq
    exact absurd (heq ▸ h) (by decide)

lemma symbolsFrom_ofChar (c : Char) (ms : List Mark) :
    symbolsFrom none (Mark.ofChar c :: ms) =
      (symbolsFrom none ms).map (.set (.only c) :: ·) := by
  rw [symbolsFrom, if_neg (ofChar_ne_bracket c), symbol?_ofChar]
  rfl

/-- Symbols that can be read do not begin with a repetition of what stands before them. -/
lemma partsFrom_set {s : CharSet} {ss : List Symbol} {ps : List Part}
    (h : partsFrom none ss = some ps) :
    partsFrom none (.set s :: ss) = some (.item (.one s) :: ps) := by
  have hplus : ∀ rest, ss ≠ .plus :: rest := by
    rintro rest rfl
    simp [partsFrom] at h
  rw [partsFrom, h]
  · rfl
  · exact hplus

lemma read?_escapeChar {cs : List Char} {ps : List Part} (h : read? cs = some ps) (c : Char) :
    read? (escapeChar c ++ cs) = some (.item (.one (.only c)) :: ps) := by
  obtain ⟨ms, ss, hms, hss, hps⟩ := read?_eq_some_iff.mp h
  refine read?_eq_some_iff.mpr ⟨Mark.ofChar c :: ms, .set (.only c) :: ss, ?_, ?_, ?_⟩
  · rw [marks?_escapeChar, hms]
    rfl
  · rw [symbolsFrom_ofChar, hss]
    rfl
  · exact partsFrom_set hps

/-- A literal text is read as its characters. -/
theorem read?_escape {cs : List Char} {ps : List Part} (h : read? cs = some ps) (t : List Char) :
    read? (escape t ++ cs) = some (t.map (fun c => .item (.one (.only c))) ++ ps) := by
  induction t with
  | nil => exact h
  | cons c t ih =>
    have hcons : escape (c :: t) ++ cs = escapeChar c ++ (escape t ++ cs) := by
      simp [escape]
    rw [hcons]
    exact read?_escapeChar ih c

/-- The slash stands for itself. -/
lemma read?_slash {cs : List Char} {ps : List Part} (h : read? cs = some ps) :
    read? ('/' :: cs) = some (.item (.one (.only '/')) :: ps) :=
  read?_escapeChar h '/'

/-! ### Groups and anchors -/

lemma read?_start {cs : List Char} {ps : List Part} (h : read? cs = some ps) :
    read? ('^' :: cs) = some (.item .start :: ps) := by
  obtain ⟨ms, ss, hms, hss, hps⟩ := read?_eq_some_iff.mp h
  refine read?_eq_some_iff.mpr ⟨.plain '^' :: ms, .anchor .start :: ss, ?_, ?_, ?_⟩
  · rw [marks?_cons_of_ne (by decide), hms]
    rfl
  · simp [symbolsFrom, Mark.symbol?, hss]
  · simp [partsFrom, hps]

lemma read?_finish : read? ['$'] = some [.item .finish] := by decide

end Expression

namespace ParamKind

/-- The characters of a kind as ranges. -/
def charSet : ParamKind → Expression.CharSet
  | int => .digits
  | string => [('a', 'z'), ('A', 'Z'), ('0', '9'), ('_', '_'), ('-', '-')]

/-- The marks of the constraint of a kind. -/
def marks : ParamKind → List Expression.Mark
  | int => [.escaped 'd', .plain '+']
  | string =>
    [.plain '[', .plain 'a', .plain '-', .plain 'z', .plain 'A', .plain '-', .plain 'Z',
      .plain '0', .plain '-', .plain '9', .plain '_', .plain '-', .plain ']', .plain '+']

/-- The ranges of a kind are its characters. -/
lemma has_charSet {k : ParamKind} {c : Char} : k.charSet.has c = true ↔ k.Admits c := by
  have hone (d : Char) : (d ≤ c ∧ c ≤ d) ↔ c = d :=
    ⟨fun h => Char.le_antisymm h.2 h.1, fun h => h ▸ ⟨Char.le_refl c, Char.le_refl c⟩⟩
  cases k with
  | int => simp [charSet, Admits, Expression.CharSet.digits, Expression.CharSet.has]
  | string =>
    simp only [charSet, Expression.CharSet.has, List.any_cons, List.any_nil, Admits,
      Segment.IsNameChar, Bool.or_eq_true, Bool.and_eq_true, decide_eq_true_eq, hone,
      Bool.false_eq_true, or_false, or_assoc]

end ParamKind

namespace Expression

/-- A parameter is read as one group. -/
theorem read?_group {cs : List Char} {ps : List Part} (h : read? cs = some ps) (k : ParamKind) :
    read? ('(' :: k.constraint.toList ++ ')' :: cs) = some (.group [.many k.charSet] :: ps) := by
  obtain ⟨ms, ss, hms, hss, hps⟩ := read?_eq_some_iff.mp h
  refine read?_eq_some_iff.mpr
    ⟨.plain '(' :: k.marks ++ .plain ')' :: ms,
      .opening :: .set k.charSet :: .plus :: .closing :: ss, ?_, ?_, ?_⟩
  · cases k <;> simp [ParamKind.constraint, ParamKind.marks, marks?, hms]
  · cases k with
    | int => simp [ParamKind.marks, ParamKind.charSet, symbolsFrom, Mark.symbol?, hss]
    | string =>
      simp [ParamKind.marks, ParamKind.charSet, symbolsFrom, Mark.symbol?, ranges?, hss]
  · simp [partsFrom, hps]

end Expression

namespace Segment

/-- What the expression of a segment is read as. -/
def parts : Segment → List Expression.Part
  | literal t => t.toList.map fun c => .item (.one (.only c))
  | param _ k => [.group [.many k.charSet]]

/-- What the expressions of segments with slashes between them are read as. -/
def partsAll : List Segment → List Expression.Part
  | [] => []
  | [s] => s.parts
  | s :: t :: ss => s.parts ++ .item (.one (.only '/')) :: partsAll (t :: ss)

lemma read?_expression {cs : List Char} {ps : List Expression.Part}
    (h : Expression.read? cs = some ps) (s : Segment) :
    Expression.read? (s.expression.toList ++ cs) = some (s.parts ++ ps) := by
  cases s with
  | literal t => simpa [expression, parts] using Expression.read?_escape h t.toList
  | param n k => simpa [expression, parts] using Expression.read?_group h k

lemma read?_joinWith {cs : List Char} {ps : List Expression.Part}
    (h : Expression.read? cs = some ps) (ss : List Segment) :
    Expression.read? (Text.joinWith '/' (ss.map fun s => s.expression.toList) ++ cs) =
      some (partsAll ss ++ ps) := by
  induction ss with
  | nil => exact h
  | cons s ss ih =>
    cases ss with
    | nil => exact read?_expression h s
    | cons t ss =>
      have hrest := read?_expression (Expression.read?_slash ih) s
      simpa [Text.joinWith, partsAll] using hrest

end Segment

namespace Pattern

/-- What the expression of a pattern is read as. -/
def parts (p : Pattern) : List Expression.Part :=
  .item .start :: .item (.one (.only '/')) :: (Segment.partsAll p.segments ++ [.item .finish])

/-- The expression of every pattern can be read. -/
theorem read?_expression (p : Pattern) :
    Expression.read? p.expression.toList = some p.parts := by
  have hbody := Segment.read?_joinWith Expression.read?_finish p.segments
  have hall := Expression.read?_start (Expression.read?_slash hbody)
  simpa [expression, parts] using hall

end Pattern

end PathRouter
