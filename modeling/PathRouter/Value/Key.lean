import PathRouter.Decimal.Shortest
import PathRouter.Value.Calendar

/-!
# Keys of maps

Two values are the same key when they are equal as numbers, texts, bytes, dates or moments.  Truth
values count as the numbers zero and one.
-/

namespace PathRouter

/-- The whole number that a floating-point number is, if it is one. -/
def wholeNumber? (x : Float) : Option Int :=
  match Decimal.Binary.ofFloat? x with
  | none => none
  | some b =>
    let scaled := b.mantissa <<< b.exponent.toNat
    let divisor := 1 <<< (-b.exponent).toNat
    if scaled % divisor ≠ 0 then none
    else
      let n : Int := scaled / divisor
      some (if x < 0.0 then -n else n)

namespace Value

/-- The whole number that a value is, if it is one. -/
def whole? : Value → Option Int
  | bool b => some (if b then 1 else 0)
  | int n => some n
  | float x => wholeNumber? x
  | _ => none

/-- Whether two values are the same key. -/
def isSameKey : Value → Value → Bool
  | null, null => true
  | text s, text t => s = t
  | bytes a, bytes b => a = b
  | date d, date e => d = e
  | timestamp t, timestamp u => t.isSame u
  | v, w =>
    match v.whole?, w.whole? with
    | some m, some n => m = n
    | none, none =>
      match v, w with
      | float x, float y => x.toBits = y.toBits
      | _, _ => false
    | _, _ => false

/-- Writes a value to a key of a map; the entry of a key that is there keeps its place. -/
def putEntry (k v : Value) : Entries → Entries
  | [] => [(k, v)]
  | e :: es => if e.1.isSameKey k then (e.1, v) :: es else e :: putEntry k v es

/-- The map in which the later of two entries with one key counts. -/
def entriesOf (es : List (Value × Value)) : Entries :=
  es.foldl (fun acc e => putEntry e.1 e.2 acc) []

end Value

end PathRouter
