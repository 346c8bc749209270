import Mathlib.Tactic.Common
import PathRouter.Pattern.Basic

/-!
# The grammar of patterns

How the segments of a pattern are spelled, which values its parameters take, and how a pattern is
written, apart from how texts are read and matched.  The classes of characters are given by their
ranges; `Segment.isWordChar_iff` and `ParamKind.accepts_iff` say that the tests used in reading and
matching are tests for these classes.
-/

namespace PathRouter

namespace Segment

/-! ### Spelling -/

/-- The letters of names and keywords: ASCII letters, digits and the underscore. -/
def IsNameChar (c : Char) : Prop :=
  ('a' ≤ c ∧ c ≤ 'z') ∨ ('A' ≤ c ∧ c ≤ 'Z') ∨ ('0' ≤ c ∧ c ≤ '9') ∨ c = '_'

/-- A nonempty text of letters of names. -/
def IsWord (cs : List Char) : Prop := cs ≠ [] ∧ ∀ c ∈ cs, IsNameChar c

/-- `Spells cs s` holds if the text `cs` spells the segment `s` in a pattern. -/
inductive Spells : List Char → Segment → Prop where
  /-- A text that does not start with a colon spells itself. -/
  | literal {cs : List Char} (head : cs.head? ≠ some ':') : Spells cs (.literal (String.ofList cs))
  /-- A parameter is spelled as a colon, its name, and the keyword of its kind in parentheses. -/
  | param {name : List Char} (k : ParamKind) (word : IsWord name) :
      Spells (':' :: name ++ '(' :: k.keyword.toList ++ [')']) (.param (String.ofList name) k)

/-- Whether some text without slashes spells the segment. -/
def IsSpellable : Segment → Prop
  | literal t => '/' ∉ t.toList ∧ t.toList.head? ≠ some ':'
  | param n _ => IsWord n.toList

/-- The segments as they are written in a pattern. -/
def writtenAll (ss : List Segment) : String :=
  String.ofList ('/' :: Text.joinWith '/' (ss.map fun s => s.written.toList))

/-- Whether a pattern can have these segments: there is one empty literal, or every segment can be
spelled, and neither the first nor the last is an empty literal. -/
def IsCanonical (ss : List Segment) : Prop :=
  ss = [literal ""] ∨
    (ss ≠ [] ∧ ss.head? ≠ some (literal "") ∧ ss.getLast? ≠ some (literal "") ∧
      ∀ s ∈ ss, s.IsSpellable)

end Segment

/-- A pattern as its segments are written. -/
def Pattern.written (p : Pattern) : String := Segment.writtenAll p.segments

namespace ParamKind

/-! ### Values -/

/-- The characters that a value of a kind may hold: digits, or letters of names and hyphens. -/
def Admits : ParamKind → Char → Prop
  | int, c => '0' ≤ c ∧ c ≤ '9'
  | string, c => Segment.IsNameChar c ∨ c = '-'

/-- The values of a kind are the nonempty texts of its characters. -/
def IsValue (k : ParamKind) (value : String) : Prop :=
  value.toList ≠ [] ∧ ∀ c ∈ value.toList, k.Admits c

end ParamKind

/-! ### The tests for the classes -/

namespace Text

lemma isDigit_iff {c : Char} : c.isDigit = true ↔ '0' ≤ c ∧ c ≤ '9' := by
  rw [Char.isDigit_iff_toNat, Char.le_def, Char.le_def, UInt32.le_iff_toNat_le,
    UInt32.le_iff_toNat_le]
  rfl

/-- The letters and digits are three ranges. -/
lemma isAlphanum_iff {c : Char} :
    c.isAlphanum = true ↔
      ('a' ≤ c ∧ c ≤ 'z') ∨ ('A' ≤ c ∧ c ≤ 'Z') ∨ ('0' ≤ c ∧ c ≤ '9') := by
  have hlower : c.isLower = true ↔ 'a' ≤ c ∧ c ≤ 'z' := by
    have hand : c.isLower = (decide ('a' ≤ c) && decide (c ≤ 'z')) := rfl
    rw [hand, Bool.and_eq_true, decide_eq_true_iff, decide_eq_true_iff]
  have hupper : c.isUpper = true ↔ 'A' ≤ c ∧ c ≤ 'Z' := decide_eq_true_iff
  have hor : c.isAlphanum = (c.isUpper || c.isLower || c.isDigit) := rfl
  rw [hor, Bool.or_comm c.isUpper, Bool.or_eq_true, Bool.or_eq_true, hlower, hupper, isDigit_iff,
    or_assoc]

end Text

namespace Segment

/-- The letters of names are told by their ranges. -/
theorem isWordChar_iff {c : Char} : isWordChar c = true ↔ IsNameChar c := by
  rw [isWordChar, Bool.or_eq_true, Text.isAlphanum_iff, decide_eq_true_iff, IsNameChar, or_assoc,
    or_assoc]

instance : DecidablePred IsNameChar := fun _ => decidable_of_iff _ isWordChar_iff

lemma isWord_iff {cs : List Char} : (cs ≠ [] ∧ cs.all isWordChar = true) ↔ IsWord cs := by
  simp only [List.all_eq_true, isWordChar_iff, IsWord]

instance : DecidablePred IsWord := fun _ => decidable_of_iff _ isWord_iff

end Segment

namespace ParamKind

lemma admits_iff {k : ParamKind} {c : Char} : k.admits c = true ↔ k.Admits c := by
  cases k with
  | int => exact Text.isDigit_iff
  | string =>
    rw [Admits, ← Segment.isWordChar_iff, admits, Bool.or_eq_true, decide_eq_true_iff]
    rfl

/-- A text is accepted for a parameter if it is a value of its kind. -/
theorem accepts_iff {k : ParamKind} {value : String} : k.accepts value = true ↔ k.IsValue value := by
  simp [accepts, IsValue, admits_iff]

instance (k : ParamKind) : DecidablePred k.Admits := fun _ => decidable_of_iff _ admits_iff

instance (k : ParamKind) : DecidablePred k.IsValue := fun _ => decidable_of_iff _ accepts_iff

end ParamKind

end PathRouter
