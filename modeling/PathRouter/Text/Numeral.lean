import PathRouter.Text.Decimal

/-!
# Numerals

Whole numbers are written in base 2, 8, 10 or 16, all but the decimal ones optionally with a `0` and
a letter in front.  Decimal fractions may have an exponent.  Both may have a sign, may be surrounded
by blanks, and may use the decimal digits of any script.
-/

namespace PathRouter.Text

/-- The longest decimal numeral that is read as a whole number. -/
def maxDecimalDigits : Nat := 4300

/-- The value of a digit in bases up to sixteen. -/
def digitValue? (c : Char) : Option Nat :=
  if 'a' ≤ c ∧ c ≤ 'f' then some (c.toNat - 87)
  else if 'A' ≤ c ∧ c ≤ 'F' then some (c.toNat - 55)
  else decimalDigit? c

/-- The number that digits denote in a base, most significant first. -/
def digitsNumber? (base : Nat) (cs : List Char) : Option Nat :=
  cs.foldl
    (fun n? c =>
      match n?, digitValue? c with
      | some n, some d => if d < base then some (base * n + d) else none
      | _, _ => none)
    (some 0)

/-- Splits off a sign; it holds if the sign is a minus. -/
def splitSign : List Char → Bool × List Char
  | '-' :: cs => (true, cs)
  | '+' :: cs => (false, cs)
  | cs => (false, cs)

/-- The letters after a zero in front of numerals in a base. -/
def baseLetters : Nat → List Char
  | 2 => ['b', 'B']
  | 8 => ['o', 'O']
  | 16 => ['x', 'X']
  | _ => []

/-- Reads a whole number. -/
def readInteger? (base : Nat) (cs : List Char) : Option Int :=
  let (negative, cs) := splitSign (trimBlanks cs)
  let ds :=
    match cs with
    | '0' :: c :: ds => if (baseLetters base).contains c then ds else cs
    | _ => cs
  if ds = [] ∨ (base = 10 ∧ maxDecimalDigits < ds.length) then none
  else (digitsNumber? base ds).map fun n => if negative then -(n : Int) else n

/-- The floating-point number nearest to `n · 10 ^ e`. -/
def scaledFloat (n : Nat) (e : Int) : Float :=
  let magnitude : Int := (Nat.toDigits 10 n).length + e
  if n = 0 ∨ magnitude < -400 then 0.0
  else if 400 < magnitude then 1.0 / 0.0
  else Float.ofScientific n (e < 0) e.natAbs

/-- Reads an exponent, the empty text being zero. -/
def readExponent? : List Char → Option Int
  | [] => some 0
  | c :: cs =>
    let (negative, ds) := splitSign cs
    if (c ≠ 'e' ∧ c ≠ 'E') ∨ ds = [] then none
    else (decimalNumber? ds).map fun n => if negative then -(n : Int) else n

/-- Reads a decimal fraction without sign, blanks and letters other than the exponent's. -/
def readFraction? (cs : List Char) : Option Float :=
  let isDigit (c : Char) : Bool := (decimalDigit? c).isSome
  let whole := cs.takeWhile isDigit
  let (fraction, rest) :=
    match cs.dropWhile isDigit with
    | '.' :: cs => (cs.takeWhile isDigit, cs.dropWhile isDigit)
    | cs => ([], cs)
  if whole ++ fraction = [] then none
  else
    match decimalNumber? (whole ++ fraction), readExponent? rest with
    | some n, some e => some (scaledFloat n (e - fraction.length))
    | _, _ => none

/-- Reads a floating-point number; the names of infinity and of what is no number are in lower
case. -/
def readFloat? (cs : List Char) : Option Float :=
  let (negative, cs) := splitSign (trimBlanks cs)
  let x? :=
    if cs = "inf".toList ∨ cs = "infinity".toList then some (1.0 / 0.0)
    else if cs = "nan".toList then some (0.0 / 0.0)
    else readFraction? cs
  x?.map fun x => if negative then -x else x

end PathRouter.Text
