/-!
# Plain data

Configurations, request inputs and handler results are plain data: the values that a data format can
hold.  A map keeps the order of its entries; its keys may be any value.
-/

namespace PathRouter

/-- A day of the calendar. -/
structure Date where
  year : Nat
  month : Nat
  day : Nat
  deriving DecidableEq, Repr

/-- A moment, with an offset from universal time in minutes where one is known. -/
structure Timestamp where
  date : Date
  hour : Nat
  minute : Nat
  second : Nat
  microsecond : Nat
  offset? : Option Int
  deriving DecidableEq, Repr

/-- A value of plain data. -/
inductive Value where
  | null
  | bool (b : Bool)
  | int (n : Int)
  | float (x : Float)
  | text (s : String)
  | list (items : List Value)
  | map (entries : List (Value × Value))
  | date (d : Date)
  | timestamp (t : Timestamp)
  /-- Raw bytes. -/
  | bytes (content : List UInt8)
  /-- A set, kept in the order in which its members were first given. -/
  | set (members : List Value)
  /-- Two values that belong together. -/
  | pair (first second : Value)
  deriving Inhabited

namespace Value

/-- The entries of a map. -/
abbrev Entries := List (Value × Value)

/-- The name of a value's type as messages give it. -/
def typeName : Value → String
  | null => "NoneType"
  | bool _ => "bool"
  | int _ => "int"
  | float _ => "float"
  | text _ => "str"
  | list _ => "list"
  | map _ => "dict"
  | date _ => "date"
  | timestamp _ => "datetime"
  | bytes _ => "bytes"
  | set _ => "set"
  | pair _ _ => "tuple"

/-- The value in a map at a text key. -/
def field? (name : String) : Entries → Option Value
  | [] => none
  | (text k, v) :: es => if k = name then some v else field? name es
  | _ :: es => field? name es

end Value

end PathRouter
