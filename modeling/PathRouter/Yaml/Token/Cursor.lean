/-!
# Cursors

A cursor is a place in a text, with the number of characters before it, its line and its column.
-/

namespace PathRouter.Yaml

/-- Whether a character ends a line. -/
def isBreak (c : Char) : Bool := c = '\n' || c = '\x85' || c = '\u2028' || c = '\u2029'

/-- Whether a character is a space or a tab. -/
def isBlank (c : Char) : Bool := c = ' ' || c = '\t'

/-- Whether a place is at the end of a line or of the text. -/
def endsLine (c? : Option Char) : Bool := c?.all isBreak

/-- Whether a place is at a space or at the end of a line or of the text. -/
def endsWord (c? : Option Char) : Bool := c?.all fun c => c = ' ' || isBreak c

/-- Whether a place is at a space or tab or at the end of a line or of the text. -/
def endsMark (c? : Option Char) : Bool := c?.all fun c => isBlank c || isBreak c

/-- The letters of names. -/
def isNameChar (c : Char) : Bool := c.isAlphanum || c = '-' || c = '_'

/-- A place in a text. -/
structure Cursor where
  rest : List Char
  index : Nat
  line : Nat
  column : Nat

namespace Cursor

/-- The beginning of a text. -/
def ofText (cs : List Char) : Cursor := ⟨cs, 0, 0, 0⟩

/-- The character at the cursor. -/
def char? (c : Cursor) : Option Char := c.rest.head?

/-- The character `k` places after the cursor. -/
def ahead? (c : Cursor) (k : Nat) : Option Char := c.rest[k]?

/-- The place after the character at the cursor.  A byte order mark takes no column. -/
def next (c : Cursor) : Cursor :=
  match c.rest with
  | [] => c
  | ch :: rest =>
    if isBreak ch then ⟨rest, c.index + 1, c.line + 1, 0⟩
    else ⟨rest, c.index + 1, c.line, if ch = '\ufeff' then c.column else c.column + 1⟩

/-- The place `n` characters further. -/
def skip : Nat → Cursor → Cursor
  | 0, c => c
  | n + 1, c => skip n c.next

/-- The characters of a class from the cursor on, and the place after them. -/
def span (p : Char → Bool) (c : Cursor) : List Char × Cursor :=
  let cs := c.rest.takeWhile p
  (cs, c.skip cs.length)

/-- The place after the characters of a class. -/
def skipWhile (p : Char → Bool) (c : Cursor) : Cursor := (c.span p).2

/-- The place after spaces. -/
def skipSpaces (c : Cursor) : Cursor := c.skipWhile (· = ' ')

/-- The place after a comment, if there is one at the cursor. -/
def skipComment (c : Cursor) : Cursor :=
  if c.char? = some '#' then c.skipWhile fun ch => !isBreak ch else c

/-- The line break at the cursor as it counts in a scalar, and the place after it. -/
def lineBreak? (c : Cursor) : Option (Char × Cursor) :=
  match c.char? with
  | none => none
  | some ch =>
    if ch = '\n' ∨ ch = '\x85' then some ('\n', c.next)
    else if isBreak ch then some (ch, c.next)
    else none

/-- The place after the line break at the cursor, if there is one. -/
def skipBreak (c : Cursor) : Cursor :=
  match c.lineBreak? with
  | none => c
  | some (_, d) => d

/-- Whether a document separator follows. -/
def startsWithMark (c : Cursor) (mark : Char) : Bool :=
  c.rest.take 3 = [mark, mark, mark] && endsMark (c.ahead? 3)

/-- Whether a document separator of either kind follows. -/
def atSeparator (c : Cursor) : Bool := c.startsWithMark '-' || c.startsWithMark '.'

end Cursor

end PathRouter.Yaml
