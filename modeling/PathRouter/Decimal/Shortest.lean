/-!
# Shortest decimals

A binary floating-point number stands for every real number that rounds to it.  Its shortest decimal
is the number with the fewest digits in that interval, the one nearest to the exact value if there
are several.  All arithmetic is exact on natural numbers.

The search goes through the grids of 1, 2, 3, … significant digits.  On each grid only the two
neighbours of the exact value have to be tried: if any point of a grid lies in the interval around
the value, so does one of those two.
-/

namespace PathRouter.Decimal

/-- The number `digits · 10 ^ exponent`. -/
structure Scaled where
  digits : Nat
  exponent : Int
  deriving DecidableEq, Repr

/-- The finite positive number `mantissa · 2 ^ exponent` of a floating-point format.  At the bottom
of a binade, where `edge` holds, the next smaller number is only half as far away as the next larger
one. -/
structure Binary where
  mantissa : Nat
  exponent : Int
  edge : Bool
  deriving DecidableEq, Repr

namespace Binary

/-- The leading bit of a mantissa, which is not stored. -/
def hiddenBit : Nat := 0x10000000000000

/-- The parts of a double-precision number, without its sign; there is no such number for infinities
and for the numbers that are none. -/
def ofFloat? (x : Float) : Option Binary :=
  let bits : Nat := x.toBits.toNat
  let biased : Nat := (bits >>> 52) % 2048
  let fraction : Nat := bits % hiddenBit
  if biased = 2047 then none
  else if biased = 0 then some ⟨fraction, -1074, false⟩
  else some ⟨fraction + hiddenBit, (biased : Int) - 1075, fraction = 0 && 1 < biased⟩

/-- Four times the number, and the ends of four times the interval that rounds to it, over a common
denominator. -/
structure Interval where
  low : Nat
  value : Nat
  high : Nat
  denominator : Nat
  closed : Bool

/-- The interval of the real numbers that round to `x`: it reaches half way to both neighbours and
contains its ends when the mantissa is even. -/
def interval (x : Binary) : Interval :=
  let scale (n : Nat) : Nat := n <<< (x.exponent - 2).toNat
  { low := scale (4 * x.mantissa - if x.edge then 1 else 2)
    value := scale (4 * x.mantissa)
    high := scale (4 * x.mantissa + 2)
    denominator := 1 <<< (2 - x.exponent).toNat
    closed := x.mantissa % 2 = 0 }

end Binary

namespace Binary.Interval

/-- The number of digits before the decimal point of the value; zeros after the point of a number
below one tenth count negatively. -/
def point (i : Interval) : Int :=
  if i.denominator ≤ i.value then ((Nat.toDigits 10 (i.value / i.denominator)).length : Int)
  else
    match (List.range 400).find? fun j => i.denominator ≤ i.value * Nat.pow 10 (j + 1) with
    | some j => -(j : Int)
    | none => 0

/-- The interval in units of `10 ^ e`. -/
def inUnits (i : Interval) (e : Int) : Interval :=
  { i with
    low := i.low * Nat.pow 10 (-e).toNat
    value := i.value * Nat.pow 10 (-e).toNat
    high := i.high * Nat.pow 10 (-e).toNat
    denominator := i.denominator * Nat.pow 10 e.toNat }

/-- Whether the whole number `d` lies in the interval. -/
def holds (i : Interval) (d : Nat) : Bool :=
  let x := d * i.denominator
  if i.closed then i.low ≤ x && x ≤ i.high else i.low < x && x < i.high

/-- The whole number in the interval that is nearest to its value, the even one of two equally near
ones; only the two neighbours of the value are tried. -/
def nearest? (i : Interval) : Option Nat :=
  let d := i.value / i.denominator
  match i.holds d, i.holds (d + 1) with
  | false, false => none
  | true, false => some d
  | false, true => some (d + 1)
  | true, true =>
    let below := i.value - d * i.denominator
    let above := (d + 1) * i.denominator - i.value
    if below < above then some d
    else if above < below then some (d + 1)
    else some (if d % 2 = 0 then d else d + 1)

/-- The shortest decimal in the interval, tried with `n`, `n + 1`, … digits. -/
def shortestFrom (i : Interval) (n : Nat) : Nat → Scaled
  | 0 => ⟨0, 0⟩
  | fuel + 1 =>
    let e := i.point - n
    match (i.inUnits e).nearest? with
    | some d => ⟨d, e⟩
    | none => shortestFrom i (n + 1) fuel

end Binary.Interval

/-- The shortest decimal that rounds to `x`; seventeen digits always suffice. -/
def shortest (x : Binary) : Scaled :=
  if x.mantissa = 0 then ⟨0, 0⟩ else x.interval.shortestFrom 1 17

end PathRouter.Decimal
