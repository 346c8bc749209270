import PathRouter.Expression.Basic

/-!
# Escaped text in regular expressions

A literal text stands in a regular expression with a backslash before each metacharacter.  Reading
such a text from left to right, a backslash always takes the next character with it; the result is a
list of marks, each a plain or an escaped character.

Main statements: `escape_append`, by which texts are escaped piece by piece, and `marks?_escape`,
which says what is read from an escaped text.  `unescape?_escape` follows: nothing is lost.
-/

namespace PathRouter.Expression

/-- The characters that escaping puts a backslash before. -/
def metacharacters : List Char :=
  ['.', '*', '+', '?', '^', '$', '\x7b', '\x7d', '(', ')', '|', '[', ']', '\\']

/-- Whether escaping puts a backslash before a character. -/
def isMeta (c : Char) : Bool := metacharacters.contains c

/-- One character of a literal text. -/
def escapeChar (c : Char) : List Char := if isMeta c then ['\\', c] else [c]

/-- A literal text with a backslash before each metacharacter. -/
def escape (cs : List Char) : List Char := cs.flatMap escapeChar

/-- A character of an expression: it stands plainly or after a backslash. -/
inductive Mark where
  | plain (c : Char)
  | escaped (c : Char)
  deriving DecidableEq, Repr

/-- The character itself. -/
def Mark.char : Mark → Char
  | plain c => c
  | escaped c => c

/-- The mark by which a literal text shows one of its characters. -/
def Mark.ofChar (c : Char) : Mark := if isMeta c then .escaped c else .plain c

/-- Reads a text from left to right, each backslash together with the next character.  There is no
reading when the text ends after such a backslash. -/
def marks? : List Char → Option (List Mark)
  | [] => some []
  | ['\\'] => none
  | '\\' :: c :: cs => (marks? cs).map (.escaped c :: ·)
  | c :: cs => (marks? cs).map (.plain c :: ·)

/-- The text without its escaping backslashes. -/
def unescape? (cs : List Char) : Option (List Char) := (marks? cs).map (·.map Mark.char)

/-! ### Reading escaped text -/

/-- Escaping puts a backslash before the metacharacters, and before no other character. -/
theorem isMeta_iff {c : Char} : isMeta c = true ↔ IsMetacharacter c := by
  simp only [isMeta, metacharacters, List.contains_iff_mem, List.mem_cons, List.not_mem_nil,
    or_false, IsMetacharacter]

theorem escape_append (cs ds : List Char) : escape (cs ++ ds) = escape cs ++ escape ds :=
  List.flatMap_append

@[simp] theorem Mark.char_ofChar (c : Char) : (Mark.ofChar c).char = c := by
  unfold Mark.ofChar
  split <;> rfl

theorem marks?_cons_of_ne {c : Char} (h : c ≠ '\\') (cs : List Char) :
    marks? (c :: cs) = (marks? cs).map (.plain c :: ·) := by
  rw [marks?]
  · simpa using fun e => absurd e h
  · simpa using fun _ _ e => absurd e h

theorem marks?_escapeChar (c : Char) (cs : List Char) :
    marks? (escapeChar c ++ cs) = (marks? cs).map (Mark.ofChar c :: ·) := by
  by_cases h : isMeta c = true
  · simp [escapeChar, Mark.ofChar, h, marks?]
  · have hc : c ≠ '\\' := by
      rintro rfl
      exact h (by decide)
    simp [escapeChar, Mark.ofChar, h, marks?_cons_of_ne hc]

/-- An escaped text is read as its characters, the metacharacters escaped and the others plain,
whatever follows it. -/
theorem marks?_escape (cs ds : List Char) :
    marks? (escape cs ++ ds) = (marks? ds).map (cs.map Mark.ofChar ++ ·) := by
  induction cs with
  | nil => simp [escape]
  | cons c cs ih =>
    have : escape (c :: cs) ++ ds = escapeChar c ++ (escape cs ++ ds) := by
      simp [escape]
    rw [this, marks?_escapeChar, ih, Option.map_map]
    rfl

/-- Dropping the escaping backslashes gives the text back. -/
theorem unescape?_escape (cs : List Char) : unescape? (escape cs) = some cs := by
  have h := marks?_escape cs []
  rw [List.append_nil] at h
  simp [unescape?, h, marks?, Function.comp_def]

end PathRouter.Expression
