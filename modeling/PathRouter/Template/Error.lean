import PathRouter.Text.Quoted

/-!
# Errors of templates

A template is read and filled from left to right, and the first thing that goes wrong is the error
of the whole.
-/

namespace PathRouter

/-- What filling a template can fail with. -/
inductive TemplateError where
  /-- A closing brace that closes nothing. -/
  | singleClose
  /-- An opening brace at the end of the template. -/
  | singleOpen
  /-- An opening brace inside a field name. -/
  | openInName
  /-- The template ends inside a field name. -/
  | unclosedField
  /-- The template ends where a conversion should stand. -/
  | missingConversion
  /-- A conversion of more than one character. -/
  | afterConversion
  /-- The template ends inside a layout. -/
  | unclosedLayout
  /-- Fields are nested too deeply. -/
  | tooDeep
  /-- An index, a width or a precision that is too large. -/
  | tooManyDigits
  /-- A field is addressed by position, and there are no positional values. -/
  | noPosition (index : Nat)
  /-- No parameter has this name. -/
  | unknownName (name : String)
  /-- An attribute or an index without a name. -/
  | emptyAttribute
  /-- A text has no attribute of this name. -/
  | noAttribute (name : String)
  /-- An opening bracket without a closing one. -/
  | unclosedBracket
  /-- Something other than an attribute or an index follows an index. -/
  | afterBracket
  /-- An index beyond the end of a text. -/
  | indexOutOfRange
  /-- An index that is no number. -/
  | indexNotNumber
  /-- There is no such conversion. -/
  | unknownConversion (c : Char)
  /-- A comma and an underscore as separators of thousands. -/
  | bothSeparators
  /-- A point without a precision after it. -/
  | missingPrecision
  /-- A layout with something left over at its end. -/
  | invalidLayout (layout : String)
  /-- A separator of thousands with a presentation that has none. -/
  | separatorWith (separator presentation : Char)
  /-- A presentation that texts do not have. -/
  | unknownPresentation (c : Char)
  /-- A blank as sign. -/
  | signBlank
  /-- A sign. -/
  | sign
  /-- The normalisation of negative zero. -/
  | negativeZero
  /-- The alternate form. -/
  | alternateForm
  /-- Padding between sign and digits. -/
  | innerPadding
  /-- A width for which no memory suffices. -/
  | tooWide
  deriving DecidableEq, Repr

namespace TemplateError

/-- A character as messages about layouts show it: plainly below `limit`, otherwise by its code
point. -/
def shownBelow (limit : Nat) (c : Char) : String :=
  if 32 < c.toNat ∧ c.toNat < limit then c.toString
  else "\\x" ++ String.ofList (Nat.toDigits 16 c.toNat)

/-- The message of an error. -/
def message : TemplateError → String
  | singleClose => "Single '\x7d' encountered in format string"
  | singleOpen => "Single '\x7b' encountered in format string"
  | openInName => "unexpected '\x7b' in field name"
  | unclosedField => "expected '\x7d' before end of string"
  | missingConversion => "end of string while looking for conversion specifier"
  | afterConversion => "expected ':' after conversion specifier"
  | unclosedLayout => "unmatched '\x7b' in format spec"
  | tooDeep => "Max string recursion exceeded"
  | tooManyDigits => "Too many decimal digits in format string"
  | noPosition i =>
    "Replacement index " ++ toString i ++ " out of range for positional args tuple"
  | unknownName n => Text.quote n
  | emptyAttribute => "Empty attribute in format string"
  | noAttribute n => "'str' object has no attribute '" ++ n ++ "'"
  | unclosedBracket => "Missing ']' in format string"
  | afterBracket => "Only '.' or '[' may follow ']' in format field specifier"
  | indexOutOfRange => "string index out of range"
  | indexNotNumber => "string indices must be integers, not 'str'"
  | unknownConversion c => "Unknown conversion specifier " ++ shownBelow 127 c
  | bothSeparators => "Cannot specify both ',' and '_'."
  | missingPrecision => "Format specifier missing precision"
  | invalidLayout l => "Invalid format specifier '" ++ l ++ "' for object of type 'str'"
  | separatorWith s p =>
    "Cannot specify '" ++ s.toString ++ "' with '" ++ shownBelow 128 p ++ "'."
  | unknownPresentation c =>
    "Unknown format code '" ++ shownBelow 128 c ++ "' for object of type 'str'"
  | signBlank => "Space not allowed in string format specifier"
  | sign => "Sign not allowed in string format specifier"
  | negativeZero => "Negative zero coercion (z) not allowed in string format specifier"
  | alternateForm => "Alternate form (#) not allowed in string format specifier"
  | innerPadding => "'=' alignment not allowed in string format specifier"
  | tooWide => ""

end TemplateError

end PathRouter
