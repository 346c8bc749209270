import PathRouter.Expression.Escape

/-!
# Groups of a regular expression

A group stands between an opening and a closing parenthesis that are not escaped.  Here groups are
not nested: the groups of an expression are the texts between its parentheses, from left to right.
-/

namespace PathRouter.Expression

/-- The text of a mark. -/
def Mark.text : Mark → List Char
  | plain c => [c]
  | escaped c => ['\\', c]

/-- The groups of an expression when the group that is being read, if any, began with the given
marks.  There are none when parentheses do not belong together or are nested. -/
def groupsFrom : Option (List Mark) → List Mark → Option (List (List Mark))
  | none, [] => some []
  | some _, [] => none
  | none, m :: ms =>
    if m = .plain '(' then groupsFrom (some []) ms
    else if m = .plain ')' then none
    else groupsFrom none ms
  | some group, m :: ms =>
    if m = .plain '(' then none
    else if m = .plain ')' then (groupsFrom none ms).map (group :: ·)
    else groupsFrom (some (group ++ [m])) ms

/-- The texts of the groups of an expression from left to right. -/
def groups? (cs : List Char) : Option (List (List Char)) :=
  (marks? cs).bind fun ms => (groupsFrom none ms).map (·.map (·.flatMap Mark.text))

end PathRouter.Expression
