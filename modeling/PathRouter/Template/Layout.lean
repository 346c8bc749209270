import PathRouter.Template.Error
import PathRouter.Text.Decimal

/-!
# Layouts of fields

A layout says how a text is padded and cut.  Its parts come in a fixed order: fill character and
alignment, sign, `z`, `#`, `0`, width, separator of thousands, precision, presentation.  Layouts
serve numbers as well as texts; what only numbers have is refused once the whole has been read.
-/

namespace PathRouter.Template

/-- Where a text stands in a wider field. -/
inductive Align where
  | left
  | right
  | center
  /-- Between sign and digits of a number. -/
  | inner
  deriving DecidableEq, Repr

/-- The alignment that a character denotes. -/
def Align.ofChar? : Char → Option Align
  | '<' => some .left
  | '>' => some .right
  | '^' => some .center
  | '=' => some .inner
  | _ => none

/-- The parts of a layout.  The presentation of a text is `s`. -/
structure Layout where
  fill : Char
  align : Align
  sign? : Option Char
  coerceZero : Bool
  alternate : Bool
  width? : Option Nat
  separator? : Option Char
  precision? : Option Nat
  presentation : Char
  deriving DecidableEq, Repr

/-! ### Numbers -/

/-- The largest number that a template may hold. -/
def largestNumber : Nat := 0x7fffffffffffffff

/-- Reads decimal digits after those that gave `n`. -/
def readDigits (n : Nat) : List Char → Except TemplateError (Nat × List Char)
  | [] => .ok (n, [])
  | c :: cs =>
    match Text.decimalDigit? c with
    | none => .ok (n, c :: cs)
    | some d =>
      if largestNumber < 10 * n + d then .error .tooManyDigits else readDigits (10 * n + d) cs

/-- Reads a number if the text starts with a digit. -/
def readNumber (cs : List Char) : Except TemplateError (Option Nat × List Char) :=
  match readDigits 0 cs with
  | .error e => .error e
  | .ok (n, rest) => .ok (if rest.length = cs.length then none else some n, rest)

/-- The number that a whole text denotes, if it consists of digits. -/
def index? (cs : List Char) : Except TemplateError (Option Nat) :=
  match readNumber cs with
  | .error e => .error e
  | .ok (n?, []) => .ok n?
  | .ok (_, _ :: _) => .ok none

namespace Layout

/-! ### Reading -/

/-- Reads a fill character with an alignment, or an alignment. -/
def readAlign : List Char → Option Char × Option Align × List Char
  | [] => (none, none, [])
  | [a] =>
    match Align.ofChar? a with
    | some align => (none, some align, [])
    | none => (none, none, [a])
  | f :: a :: rest =>
    match Align.ofChar? a, Align.ofChar? f with
    | some align, _ => (some f, some align, rest)
    | none, some align => (none, some align, a :: rest)
    | none, none => (none, none, f :: a :: rest)

/-- Reads a character of a class if it comes first. -/
def readChar (p : Char → Bool) : List Char → Option Char × List Char
  | [] => (none, [])
  | c :: cs => if p c then (some c, cs) else (none, c :: cs)

/-- Reads a separator of thousands; the two separators exclude each other. -/
def readSeparator (cs : List Char) : Except TemplateError (Option Char × List Char) :=
  match readChar (· == ',') cs with
  | (some c, rest) => if rest.head? = some '_' then .error .bothSeparators else .ok (some c, rest)
  | (none, _) =>
    match readChar (· == '_') cs with
    | (some c, rest) => if rest.head? = some ',' then .error .bothSeparators else .ok (some c, rest)
    | (none, _) => .ok (none, cs)

/-- Reads a precision after its point. -/
def readPrecision (cs : List Char) : Except TemplateError (Option Nat × List Char) :=
  match readChar (· == '.') cs with
  | (none, _) => .ok (none, cs)
  | (some _, rest) =>
    match readNumber rest with
    | .error e => .error e
    | .ok (none, _) => .error .missingPrecision
    | .ok (some n, rest) => .ok (some n, rest)

/-- Whether numbers in a presentation can have a separator of thousands. -/
def separable (separator presentation : Char) : Bool :=
  "defgEG%F\x00".toList.contains presentation ||
    (separator == '_' && "boxX".toList.contains presentation)

/-- Reads a layout.  A width that starts with `0` is filled with zeros, unless another character is
given. -/
def read (cs : List Char) : Except TemplateError Layout :=
  let (fill?, align?, rest) := readAlign cs
  let (sign?, rest) := readChar (fun c => c == ' ' || c == '+' || c == '-') rest
  let (coerceZero?, rest) := readChar (· == 'z') rest
  let (alternate?, rest) := readChar (· == '#') rest
  let (zero?, rest) := if fill?.isSome then (none, rest) else readChar (· == '0') rest
  match readNumber rest with
  | .error e => .error e
  | .ok (width?, rest) =>
    match readSeparator rest with
    | .error e => .error e
    | .ok (separator?, rest) =>
      match readPrecision rest with
      | .error e => .error e
      | .ok (precision?, rest) =>
        let layout (presentation : Char) : Layout :=
          { fill := (fill?.or zero?).getD ' '
            align := align?.getD .left
            sign?, coerceZero := coerceZero?.isSome, alternate := alternate?.isSome
            width?, separator?, precision?, presentation }
        let checked (presentation : Char) : Except TemplateError Layout :=
          match separator? with
          | none => .ok (layout presentation)
          | some s =>
            if separable s presentation then .ok (layout presentation)
            else .error (.separatorWith s presentation)
        match rest with
        | [] => checked 's'
        | [c] => checked c
        | _ => .error (.invalidLayout (String.ofList cs))

/-! ### Use -/

/-- Pads a text to a width. -/
def pad (fill : Char) (align : Align) (width : Nat) (cs : List Char) : List Char :=
  let missing := width - cs.length
  let before :=
    match align with
    | .left | .inner => 0
    | .right => missing
    | .center => missing / 2
  List.replicate before fill ++ cs ++ List.replicate (missing - before) fill

/-- The largest width of a field. -/
def maxWidth : Nat := 0xffffffff

/-- Lays out a text: cuts it to the precision and pads it to the width. -/
def apply (l : Layout) (cs : List Char) : Except TemplateError (List Char) :=
  if l.presentation ≠ 's' then .error (.unknownPresentation l.presentation)
  else if l.sign? = some ' ' then .error .signBlank
  else if l.sign?.isSome then .error .sign
  else if l.coerceZero then .error .negativeZero
  else if l.alternate then .error .alternateForm
  else if l.align = .inner then .error .innerPadding
  else
    let cut :=
      match l.precision? with
      | none => cs
      | some n => cs.take n
    let width := l.width?.getD 0
    if maxWidth < width then .error .tooWide else .ok (pad l.fill l.align width cut)

end Layout

/-- Lays out a text as a layout says; the empty layout leaves it as it is. -/
def layOut (layout cs : List Char) : Except TemplateError (List Char) :=
  if layout = [] then .ok cs
  else
    match Layout.read layout with
    | .error e => .error e
    | .ok l => l.apply cs

end PathRouter.Template
