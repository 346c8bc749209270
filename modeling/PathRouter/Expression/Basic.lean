/-!
# Regular expressions

The regular expressions of patterns are sequences of parts.  A part is an item or a group of items,
and an item is an anchor or a set of characters, of which a text has one or several.  A group
captures the text that its items read.

An expression is matched against a whole text; `Matches` says which texts it matches, and with which
captures.
-/

namespace PathRouter.Expression

/-- A character that does not stand for itself in the text of an expression. -/
def IsMetacharacter (c : Char) : Prop :=
  c = '.' ∨ c = '*' ∨ c = '+' ∨ c = '?' ∨ c = '^' ∨ c = '$' ∨ c = '\x7b' ∨ c = '\x7d' ∨
    c = '(' ∨ c = ')' ∨ c = '|' ∨ c = '[' ∨ c = ']' ∨ c = '\\'

instance : DecidablePred IsMetacharacter := fun c =>
  inferInstanceAs (Decidable
    (c = '.' ∨ c = '*' ∨ c = '+' ∨ c = '?' ∨ c = '^' ∨ c = '$' ∨ c = '\x7b' ∨ c = '\x7d' ∨
      c = '(' ∨ c = ')' ∨ c = '|' ∨ c = '[' ∨ c = ']' ∨ c = '\\'))

/-- A set of characters, as the ranges of which it is the union. -/
abbrev CharSet := List (Char × Char)

/-- Whether a character is in one of the ranges. -/
def CharSet.has (s : CharSet) (c : Char) : Bool := s.any fun r => r.1 ≤ c && c ≤ r.2

/-- The set of one character. -/
def CharSet.only (c : Char) : CharSet := [(c, c)]

/-- The ASCII digits. -/
def CharSet.digits : CharSet := [('0', '9')]

/-- An item of an expression. -/
inductive Item where
  /-- The beginning of the text. -/
  | start
  /-- The end of the text. -/
  | finish
  /-- One character of a set. -/
  | one (s : CharSet)
  /-- At least one character of a set. -/
  | many (s : CharSet)
  deriving DecidableEq, Repr

/-- A part of an expression. -/
inductive Part where
  | item (i : Item)
  | group (is : List Item)
  deriving DecidableEq, Repr

/-- An item reads a word between the text before it and the text after it. -/
def Item.Reads (i : Item) (before word after : List Char) : Prop :=
  match i with
  | start => before = [] ∧ word = []
  | finish => word = [] ∧ after = []
  | one s => ∃ c, s.has c = true ∧ word = [c]
  | many s => word ≠ [] ∧ ∀ c ∈ word, s.has c = true

/-- Items read a word when each reads its share of it. -/
inductive ItemsRead : List Item → List Char → List Char → List Char → Prop where
  | nil {before after : List Char} : ItemsRead [] before [] after
  | cons {i : Item} {is : List Item} {before v w after : List Char}
      (head : i.Reads before v (w ++ after)) (tail : ItemsRead is (before ++ v) w after) :
      ItemsRead (i :: is) before (v ++ w) after

/-- Parts read the rest of a text, and its groups capture what they read. -/
inductive PartsRead : List Part → List Char → List Char → List (List Char) → Prop where
  | nil {before : List Char} : PartsRead [] before [] []
  | item {i : Item} {ps : List Part} {before v w : List Char} {captures : List (List Char)}
      (head : i.Reads before v w) (tail : PartsRead ps (before ++ v) w captures) :
      PartsRead (.item i :: ps) before (v ++ w) captures
  | group {is : List Item} {ps : List Part} {before v w : List Char}
      {captures : List (List Char)}
      (head : ItemsRead is before v w) (tail : PartsRead ps (before ++ v) w captures) :
      PartsRead (.group is :: ps) before (v ++ w) (v :: captures)

/-- An expression matches a whole text, with what its groups capture from left to right. -/
def Matches (ps : List Part) (text : List Char) (captures : List (List Char)) : Prop :=
  PartsRead ps [] text captures

end PathRouter.Expression
