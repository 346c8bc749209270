import Mathlib.Tactic.Common
import PathRouter.Pattern.Basic
import PathRouter.Proofs.Expression.Escaping

/-!
# The groups of an expression

The expression of a pattern has one group for each parameter, in order, and each group is the
constraint of its kind (`Pattern.groups_are_parameters`).  Nothing is assumed of the literals: they
may hold parentheses, backslashes or a whole group, and none of this is taken for a group.

A text that has been read to its end does not change how the text behind it is read
(`Expression.marks?_append`), and the groups of both are those of the first and then those of the
second (`Expression.groups?_append`).  So the groups of an expression are put together from those of
its segments.
-/

namespace PathRouter

namespace Expression

/-! ### Reading on -/

/-- What stands behind a text is read as if it stood alone. -/
theorem marks?_append {cs : List Char} {ms : List Mark} (h : marks? cs = some ms)
    (ds : List Char) : marks? (cs ++ ds) = (marks? ds).map (ms ++ ·) := by
  refine marks?_induction
    (motive := fun cs ms => marks? (cs ++ ds) = (marks? ds).map (ms ++ ·)) ?_ ?_ ?_ h
  · simp
  · intro c cs ms ih
    rw [List.cons_append, List.cons_append, marks?, ih, Option.map_map]
    rfl
  · intro c cs ms hc ih
    rw [List.cons_append, marks?_cons_of_ne hc, ih, Option.map_map]
    rfl

/-- The groups behind marks whose groups are all closed come after these. -/
lemma groupsFrom_append {current : Option (List Mark)} {ms : List Mark} {gs : List (List Mark)}
    (h : groupsFrom current ms = some gs) (rest : List Mark) :
    groupsFrom current (ms ++ rest) = (groupsFrom none rest).map (gs ++ ·) := by
  induction ms generalizing current gs with
  | nil =>
    cases current with
    | none =>
      obtain rfl : [] = gs := Option.some_inj.mp h
      simp
    | some group => simp [groupsFrom] at h
  | cons m ms ih =>
    cases current with
    | none =>
      rw [groupsFrom] at h
      rw [List.cons_append, groupsFrom]
      split_ifs at h ⊢ with hopening hclosing
      · exact ih h
      · exact ih h
    | some group =>
      rw [groupsFrom] at h
      rw [List.cons_append, groupsFrom]
      split_ifs at h ⊢ with hopening hclosing
      · obtain ⟨later, hlater, rfl⟩ := Option.map_eq_some_iff.mp h
        rw [ih hlater, Option.map_map]
        rfl
      · exact ih h

/-- The groups of two texts are those of the first and then those of the second. -/
theorem groups?_append {cs : List Char} {gs : List (List Char)} (h : groups? cs = some gs)
    (ds : List Char) : groups? (cs ++ ds) = (groups? ds).map (gs ++ ·) := by
  obtain ⟨ms, hms, hgroups⟩ := Option.bind_eq_some_iff.mp h
  obtain ⟨groups, hall, rfl⟩ := Option.map_eq_some_iff.mp hgroups
  rw [groups?, groups?, marks?_append hms]
  cases marks? ds with
  | none => rfl
  | some rest =>
    rw [Option.map_some, Option.bind_some, Option.bind_some, groupsFrom_append hall]
    simp [Function.comp_def]

/-! ### Parentheses -/

/-- Whether a mark is a parenthesis that is not escaped. -/
def Mark.isParenthesis (m : Mark) : Bool := m = .plain '(' ∨ m = .plain ')'

/-- The parentheses of `n` groups that stand side by side. -/
def parentheses (n : Nat) : List Mark := (List.replicate n [.plain '(', .plain ')']).flatten

lemma count_parentheses (n : Nat) : (parentheses n).count (.plain '(') = n := by
  induction n with
  | zero => rfl
  | succ n ih =>
    have hsucc : parentheses (n + 1) = .plain '(' :: .plain ')' :: parentheses n := rfl
    rw [hsucc, List.count_cons_self, List.count_cons_of_ne (by decide), ih]

/-- Where groups can be read, the parentheses open and close them one after the other. -/
theorem parentheses_of_groupsFrom {current : Option (List Mark)} {ms : List Mark}
    {gs : List (List Mark)} (h : groupsFrom current ms = some gs) :
    (current.map fun _ => Mark.plain '(').toList ++ ms.filter Mark.isParenthesis =
      parentheses gs.length := by
  induction ms generalizing current gs with
  | nil =>
    cases current with
    | none =>
      obtain rfl : [] = gs := Option.some_inj.mp h
      rfl
    | some group => simp [groupsFrom] at h
  | cons m ms ih =>
    cases current with
    | none =>
      rw [groupsFrom] at h
      split_ifs at h with hopening hclosing
      · subst hopening
        exact ih h
      · rw [List.filter_cons_of_neg (by simp [Mark.isParenthesis, hopening, hclosing])]
        exact ih h
    | some group =>
      rw [groupsFrom] at h
      split_ifs at h with hopening hclosing
      · subst hclosing
        obtain ⟨later, hlater, rfl⟩ := Option.map_eq_some_iff.mp h
        have hrest : ms.filter Mark.isParenthesis = parentheses later.length := ih hlater
        rw [List.filter_cons_of_pos rfl, hrest]
        rfl
      · have hrest := ih h
        rw [List.filter_cons_of_neg (by simp [Mark.isParenthesis, hopening, hclosing])]
        exact hrest

/-! ### Literals -/

/-- A character of a literal is no parenthesis. -/
lemma isParenthesis_ofChar (c : Char) : (Mark.ofChar c).isParenthesis = false := by
  have hliteral := Mark.isLiteral_ofChar c
  cases hc : Mark.ofChar c with
  | escaped d => simp [Mark.isParenthesis]
  | plain d =>
    rw [hc] at hliteral
    have hopening : d ≠ '(' := fun h => hliteral (by rw [h]; decide)
    have hclosing : d ≠ ')' := fun h => hliteral (by rw [h]; decide)
    simp [Mark.isParenthesis, hopening, hclosing]

/-- Characters of a literal have no part in the groups. -/
lemma groupsFrom_ofChar (cs : List Char) : groupsFrom none (cs.map Mark.ofChar) = some [] := by
  induction cs with
  | nil => rfl
  | cons c cs ih =>
    have hc : ¬(Mark.ofChar c = .plain '(' ∨ Mark.ofChar c = .plain ')') := by
      simpa [Mark.isParenthesis] using isParenthesis_ofChar c
    rw [not_or] at hc
    rw [List.map_cons, groupsFrom, if_neg hc.1, if_neg hc.2, ih]

/-- A literal text has no groups. -/
lemma groups?_escape (cs : List Char) : groups? (escape cs) = some [] := by
  rw [groups?, marks?_escape_self, Option.bind_some, groupsFrom_ofChar]
  rfl

/-- A literal text has no parentheses, and does not change those around it. -/
lemma parentheses_around_escape {before : List Char} {ms : List Mark}
    (h : marks? before = some ms) (cs after : List Char) :
    (marks? (before ++ escape cs ++ after)).map (·.filter Mark.isParenthesis) =
      (marks? (before ++ after)).map (·.filter Mark.isParenthesis) := by
  have hnone : (cs.map Mark.ofChar).filter Mark.isParenthesis = [] := by
    simp [List.filter_eq_nil_iff, isParenthesis_ofChar]
  rw [List.append_assoc, marks?_append h, marks?_append h, marks?_escape]
  cases marks? after with
  | none => rfl
  | some rest => simp [hnone]

/-- A literal text leaves the groups before it and behind it as they are. -/
lemma groups?_around_escape {before : List Char} {gs : List (List Char)}
    (h : groups? before = some gs) (cs after : List Char) :
    groups? (before ++ escape cs ++ after) = (groups? after).map (gs ++ ·) := by
  rw [List.append_assoc, groups?_append h, groups?_append (groups?_escape cs)]
  simp

end Expression

/-! ### Segments and patterns -/

namespace Segment

/-- The name and the kind of a parameter. -/
def param? : Segment → Option (String × ParamKind)
  | literal _ => none
  | param n k => some (n, k)

/-- The group of a segment, if it is a parameter. -/
lemma groups?_expression (s : Segment) : Expression.groups? s.expression.toList =
    some (s.param?.map fun q => q.2.constraint.toList).toList := by
  cases s with
  | literal t => simpa [expression, param?] using Expression.groups?_escape t.toList
  | param n k => cases k <;> simp [expression, param?] <;> decide

/-- The groups of segments with slashes between them. -/
lemma groups?_joinWith (ss : List Segment) :
    Expression.groups? (Text.joinWith '/' (ss.map fun s => s.expression.toList)) =
      some ((ss.filterMap param?).map fun q => q.2.constraint.toList) := by
  induction ss with
  | nil => rfl
  | cons s ss ih =>
    have hhead : (List.filterMap param? (s :: ss)).map (fun q => q.2.constraint.toList) =
        (s.param?.map fun q => q.2.constraint.toList).toList ++
          (ss.filterMap param?).map fun q => q.2.constraint.toList := by
      cases hs : s.param? <;> simp [hs]
    rw [hhead]
    cases ss with
    | nil => simpa [Text.joinWith] using s.groups?_expression
    | cons t ss =>
      have hslash : Expression.groups? ['/'] = some [] := rfl
      have hrest := Expression.groups?_append hslash
        (Text.joinWith '/' ((t :: ss).map fun s => s.expression.toList))
      rw [ih] at hrest
      have hall := Expression.groups?_append s.groups?_expression
        ('/' :: Text.joinWith '/' ((t :: ss).map fun s => s.expression.toList))
      rw [List.singleton_append] at hrest
      rw [hrest] at hall
      simpa [Text.joinWith] using hall

end Segment

namespace Pattern

/-- The names and the kinds of the parameters from left to right. -/
def params (p : Pattern) : List (String × ParamKind) := p.segments.filterMap Segment.param?

/-- The names alone. -/
lemma map_fst_params (p : Pattern) : p.params.map Prod.fst = p.paramNames := by
  rw [params, paramNames, List.map_filterMap]
  congr 1
  funext s
  cases s <;> rfl

/-- The groups of an expression are the constraints of the parameters. -/
theorem groups?_expression (p : Pattern) : Expression.groups? p.expression.toList =
    some (p.params.map fun q => q.2.constraint.toList) := by
  have hstart : Expression.groups? ['^', '/'] = some [] := rfl
  have hfinish : Expression.groups? ['$'] = some [] := rfl
  have hbody := Expression.groups?_append (Segment.groups?_joinWith p.segments) ['$']
  have hall := Expression.groups?_append hstart
    (Text.joinWith '/' (p.segments.map fun s => s.expression.toList) ++ ['$'])
  rw [hbody, hfinish] at hall
  simpa [expression, params] using hall

/-- **Groups are parameters.**  The expression of a pattern, whatever its literals hold, is read to
its end.  Its parentheses open and close one group after the other, as many as there are parameters.
The groups are the constraints of the kinds, in the order of the names.  A literal text adds no
parenthesis to what can be read before it and behind it, and it leaves the groups there as they
are. -/
theorem groups_are_parameters (p : Pattern) :
    (∃ ms, Expression.marks? p.expression.toList = some ms ∧
      ms.filter Expression.Mark.isParenthesis = Expression.parentheses p.params.length ∧
      ms.count (.plain '(') = p.params.length) ∧
    p.paramNames = p.params.map Prod.fst ∧
    Expression.groups? p.expression.toList =
      some (p.params.map fun q => q.2.constraint.toList) ∧
    ∀ before text after : List Char,
      (∀ ms, Expression.marks? before = some ms →
        (Expression.marks? (before ++ Expression.escape text ++ after)).map
            (·.filter Expression.Mark.isParenthesis) =
          (Expression.marks? (before ++ after)).map (·.filter Expression.Mark.isParenthesis)) ∧
      ∀ gs, Expression.groups? before = some gs →
        Expression.groups? (before ++ Expression.escape text ++ after) =
          (Expression.groups? after).map (gs ++ ·) := by
  have hgroups := p.groups?_expression
  obtain ⟨ms, hms, hread⟩ := Option.bind_eq_some_iff.mp hgroups
  obtain ⟨groups, hall, hlen⟩ := Option.map_eq_some_iff.mp hread
  have hsame : groups.length = p.params.length := by
    simpa using congrArg List.length hlen
  have hfilter : ms.filter Expression.Mark.isParenthesis =
      Expression.parentheses p.params.length := by
    rw [← hsame]
    exact Expression.parentheses_of_groupsFrom hall
  have hcount : ms.count (.plain '(') = p.params.length := by
    rw [← Expression.count_parentheses p.params.length, ← hfilter]
    exact (List.count_filter rfl).symm
  exact ⟨⟨ms, hms, hfilter, hcount⟩, p.map_fst_params.symm, hgroups, fun before text after =>
    ⟨fun ms h => Expression.parentheses_around_escape h text after,
      fun gs h => Expression.groups?_around_escape h text after⟩⟩

/-- Neither a backslash in front of a group nor a literal that spells one changes the groups of the
two parameters.  Behind an escaped parenthesis a literal backslash does not hide the group that
follows it. -/
theorem groups_are_parameters_backslash :
    let p : Pattern := ⟨"", [.literal "\\", .param "id" .int, .literal "(\\d+)/\\(",
      .param "tab" .string]⟩
    p.paramNames = ["id", "tab"] ∧
    Expression.groups? p.expression.toList = some ["\\d+".toList, "[a-zA-Z0-9_-]+".toList] ∧
    (Expression.marks? ['\\', '('] = some [.escaped '('] ∧
      (Expression.marks? (['\\', '('] ++ Expression.escape ['\\'] ++ ['(', '\\', 'd', ')'])).map
        (·.filter Expression.Mark.isParenthesis) = some [.plain '(', .plain ')']) ∧
    Expression.groups? ['\\', '('] = some [] ∧
      Expression.groups? (['\\', '('] ++ Expression.escape ['\\'] ++ ['(', '\\', 'd', ')']) =
        some [['\\', 'd']] := by
  intro p
  obtain ⟨-, hnames, hgroups, haround⟩ := groups_are_parameters p
  obtain ⟨hparentheses, hkept⟩ := haround ['\\', '('] ['\\'] ['(', '\\', 'd', ')']
  have hbefore : Expression.marks? ['\\', '('] = some [.escaped '('] := by decide
  have hgroupless : Expression.groups? ['\\', '('] = some [] := by decide
  exact ⟨hnames, hgroups, ⟨hbefore, (hparentheses _ hbefore).trans (by decide)⟩, hgroupless,
    (hkept [] hgroupless).trans (by decide)⟩

end Pattern

end PathRouter
