import PathRouter.Expression.Basic
import PathRouter.Expression.Escape

/-!
# Reading regular expressions

In the text of an expression `^` and `$` are the anchors, `+` repeats the set before it, parentheses
make groups, brackets hold the ranges of a set, `\d` is the set of the digits, and a backslash before
a metacharacter makes it stand for itself.  Every other character stands for itself.  The
metacharacters that have no use here do not stand alone, and neither do groups in groups.
-/

namespace PathRouter.Expression

/-- A symbol of an expression. -/
inductive Symbol where
  | anchor (i : Item)
  | opening
  | closing
  | plus
  | set (s : CharSet)
  deriving DecidableEq, Repr

/-- The symbol that a mark is outside brackets. -/
def Mark.symbol? : Mark → Option Symbol
  | plain '^' => some (.anchor .start)
  | plain '$' => some (.anchor .finish)
  | plain '(' => some .opening
  | plain ')' => some .closing
  | plain '+' => some .plus
  | plain c => if IsMetacharacter c then none else some (.set (.only c))
  | escaped c =>
    if c = 'd' then some (.set .digits)
    else if IsMetacharacter c then some (.set (.only c))
    else none

/-- The ranges between brackets.  A hyphen between two characters makes a range. -/
def ranges? : List Mark → Option CharSet
  | [] => some []
  | .plain a :: .plain '-' :: .plain b :: ms => (ranges? ms).map ((a, b) :: ·)
  | .plain a :: ms => (ranges? ms).map ((a, a) :: ·)
  | .escaped _ :: _ => none

/-- The symbols of an expression when the brackets that are being read, if any, began with the given
marks. -/
def symbolsFrom : Option (List Mark) → List Mark → Option (List Symbol)
  | none, [] => some []
  | some _, [] => none
  | none, m :: ms =>
    if m = .plain '[' then symbolsFrom (some []) ms
    else m.symbol?.bind fun s => (symbolsFrom none ms).map (s :: ·)
  | some inner, m :: ms =>
    if m = .plain ']' then
      (ranges? inner).bind fun s => (symbolsFrom none ms).map (.set s :: ·)
    else symbolsFrom (some (inner ++ [m])) ms

/-- The parts that symbols make when the group that is being read, if any, began with the given
items. -/
def partsFrom : Option (List Item) → List Symbol → Option (List Part)
  | none, [] => some []
  | some _, [] => none
  | none, .opening :: ss => partsFrom (some []) ss
  | some _, .opening :: _ => none
  | none, .closing :: _ => none
  | some is, .closing :: ss => (partsFrom none ss).map (.group is :: ·)
  | _, .plus :: _ => none
  | none, .anchor i :: ss => (partsFrom none ss).map (.item i :: ·)
  | some is, .anchor i :: ss => partsFrom (some (is ++ [i])) ss
  | none, .set s :: .plus :: ss => (partsFrom none ss).map (.item (.many s) :: ·)
  | some is, .set s :: .plus :: ss => partsFrom (some (is ++ [.many s])) ss
  | none, .set s :: ss => (partsFrom none ss).map (.item (.one s) :: ·)
  | some is, .set s :: ss => partsFrom (some (is ++ [.one s])) ss

/-- Reads an expression. -/
def read? (cs : List Char) : Option (List Part) :=
  (marks? cs).bind fun ms => (symbolsFrom none ms).bind (partsFrom none)

end PathRouter.Expression
