import PathRouter.Text.Printable

/-!
# Quoted text

Messages show a text between quotes, in a form that can be read back: the quote, the backslash and
every character that is not printable are escaped.  The quote is the apostrophe, unless the text
holds an apostrophe and no double quote.
-/

namespace PathRouter.Text

/-- The lower-case hexadecimal digits of a number, at least `width` of them. -/
def hexDigits (width n : Nat) : List Char :=
  let ds := Nat.toDigits 16 n
  List.replicate (width - ds.length) '0' ++ ds

/-- A code point as `\x`, `\u` or `\U` with two, four or eight hexadecimal digits, the shortest that
holds it. -/
def escapeCodePoint (c : Char) : List Char :=
  let n := c.toNat
  if n ≤ 0xff then '\\' :: 'x' :: hexDigits 2 n
  else if n ≤ 0xffff then '\\' :: 'u' :: hexDigits 4 n
  else '\\' :: 'U' :: hexDigits 8 n

/-- One character of a quoted text; characters that `shown` refuses are written as code points. -/
def quoteChar (shown : Char → Bool) (mark c : Char) : List Char :=
  if c = mark ∨ c = '\\' then ['\\', c]
  else if c = '\n' then ['\\', 'n']
  else if c = '\r' then ['\\', 'r']
  else if c = '\t' then ['\\', 't']
  else if shown c then [c]
  else escapeCodePoint c

/-- The quote that surrounds a text: the apostrophe, or the double quote where that saves escapes. -/
def quoteMark (cs : List Char) : Char :=
  if '\x27' ∈ cs ∧ '\x22' ∉ cs then '\x22' else '\x27'

/-- A text between quotes, with the characters that `shown` refuses written as code points. -/
def quoteWith (shown : Char → Bool) (s : String) : String :=
  let cs := s.toList
  let mark := quoteMark cs
  String.ofList (mark :: cs.flatMap (quoteChar shown mark) ++ [mark])

/-- A text between quotes, every printable character as itself. -/
def quote (s : String) : String := quoteWith isPrintable s

/-- A text between quotes in which all characters outside ASCII are escaped. -/
def quoteAscii (s : String) : String :=
  quoteWith (fun c => c.toNat < 0x80 && isPrintable c) s

end PathRouter.Text
