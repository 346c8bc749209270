import PathRouter.Decimal.Shortest
import PathRouter.Text.Quoted
import PathRouter.Value.Basic

/-!
# Written values

Log messages show the values of a request.  A text is quoted, a list stands in brackets and a map in
braces, and a floating-point number has the fewest digits that read back as the same number.
-/

namespace PathRouter

/-! ### Floating-point numbers -/

/-- A whole number with at least two digits. -/
def twoDigits (n : Nat) : List Char :=
  let ds := Nat.toDigits 10 n
  List.replicate (2 - ds.length) '0' ++ ds

/-- The digits of a decimal with its point.  The point is written in place while it lies among the
first sixteen digits or after at most four zeros; elsewhere an exponent says where it is. -/
def Decimal.Scaled.written (x : Decimal.Scaled) : List Char :=
  let all := Nat.toDigits 10 x.digits
  let point : Int := all.length + x.exponent
  let ds := (all.reverse.dropWhile (· == '0')).reverse
  if x.digits = 0 then ['0', '.', '0']
  else if -4 < point ∧ point ≤ 16 then
    if point ≤ 0 then ['0', '.'] ++ List.replicate (-point).toNat '0' ++ ds
    else
      let whole := ds.take point.toNat ++ List.replicate (point.toNat - ds.length) '0'
      let fraction := ds.drop point.toNat
      whole ++ '.' :: (if fraction.isEmpty then ['0'] else fraction)
  else
    let e := point - 1
    ds.take 1 ++ (if ds.length ≤ 1 then [] else '.' :: ds.drop 1) ++
      'e' :: (if e < 0 then '-' else '+') :: twoDigits e.natAbs

/-- A floating-point number as text. -/
def floatText (x : Float) : String :=
  if x.isNaN then "nan"
  else
    let sign := if x.toBits.toNat >>> 63 = 1 then "-" else ""
    match Decimal.Binary.ofFloat? x with
    | none => sign ++ "inf"
    | some b => sign ++ String.ofList (Decimal.shortest b).written

/-! ### Dates -/

/-- A number with zeros in front up to a width. -/
def padded (width n : Nat) : String :=
  let ds := Nat.toDigits 10 n
  String.ofList (List.replicate (width - ds.length) '0' ++ ds)

/-- Year, month and day with hyphens between them. -/
def Date.written (d : Date) : String :=
  padded 4 d.year ++ "-" ++ padded 2 d.month ++ "-" ++ padded 2 d.day

/-- Day and time of day with a `T` between them, the microseconds only where there are some, and the
offset where it is known. -/
def Timestamp.written (t : Timestamp) : String :=
  let time := padded 2 t.hour ++ ":" ++ padded 2 t.minute ++ ":" ++ padded 2 t.second
  let fraction := if t.microsecond = 0 then "" else "." ++ padded 6 t.microsecond
  let offset :=
    match t.offset? with
    | none => ""
    | some m =>
      (if m < 0 then "-" else "+") ++ padded 2 (m.natAbs / 60) ++ ":" ++ padded 2 (m.natAbs % 60)
  t.date.written ++ "T" ++ time ++ fraction ++ offset

/-! ### Values -/

namespace Value

mutual

/-- A value as text. -/
def written : Value → String
  | null => "None"
  | bool true => "True"
  | bool false => "False"
  | int n => toString n
  | float x => floatText x
  | text s => Text.quote s
  | list items => "[" ++ ", ".intercalate (writtenItems items) ++ "]"
  | map entries => "\x7b" ++ ", ".intercalate (writtenEntries entries) ++ "\x7d"
  | date d => d.written
  | timestamp t => t.written
  | bytes content => "b" ++ Text.quoteAscii (String.ofList (content.map fun b => Char.ofNat b.toNat))
  | set members => "\x7b" ++ ", ".intercalate (writtenItems members) ++ "\x7d"
  | pair a b => "(" ++ a.written ++ ", " ++ b.written ++ ")"

/-- The items of a list as texts. -/
def writtenItems : List Value → List String
  | [] => []
  | v :: vs => v.written :: writtenItems vs

/-- The entries of a map as texts, key and value with a colon between them. -/
def writtenEntries : List (Value × Value) → List String
  | [] => []
  | (k, v) :: es => (k.written ++ ": " ++ v.written) :: writtenEntries es

end

/-- A value as text, where a text stands for itself without quotes. -/
def shown : Value → String
  | text s => s
  | v => v.written

end Value

end PathRouter
