import PathRouter.Value.Basic

/-!
# Calendar

Which days and times exist, and when two moments are the same.
-/

namespace PathRouter

/-- Whether a year has 366 days. -/
def isLeapYear (year : Nat) : Bool := year % 4 = 0 && (year % 100 ≠ 0 || year % 400 = 0)

/-- The number of days in a month. -/
def daysInMonth (year month : Nat) : Nat :=
  if month = 2 then if isLeapYear year then 29 else 28
  else if [4, 6, 9, 11].contains month then 30
  else 31

namespace Date

/-- Whether there is such a day; years start at one. -/
def isValid (d : Date) : Bool :=
  1 ≤ d.year && d.year ≤ 9999 && 1 ≤ d.month && d.month ≤ 12 && 1 ≤ d.day &&
    d.day ≤ daysInMonth d.year d.month

/-- The number of days from the first of January of the year one. -/
def dayNumber (d : Date) : Nat :=
  let y := d.year - 1
  let months := (List.range (d.month - 1)).map fun m => daysInMonth d.year (m + 1)
  365 * y + y / 4 - y / 100 + y / 400 + months.foldl Nat.add 0 + (d.day - 1)

end Date

namespace Timestamp

/-- Whether there is such a moment; offsets are less than a day. -/
def isValid (t : Timestamp) : Bool :=
  t.date.isValid && t.hour < 24 && t.minute < 60 && t.second < 60 && t.microsecond < 1000000 &&
    t.offset?.all fun m => m.natAbs < 1440

/-- The microseconds from the beginning of the year one, in universal time if the offset is
known. -/
def instant (t : Timestamp) : Int :=
  let minutes : Int := (t.date.dayNumber * 24 + t.hour) * 60 + t.minute - t.offset?.getD 0
  (minutes * 60 + t.second) * 1000000 + t.microsecond

/-- Whether two moments are the same: both with an offset or both without, at one instant. -/
def isSame (t u : Timestamp) : Bool :=
  t.offset?.isSome = u.offset?.isSome && t.instant = u.instant

end Timestamp

end PathRouter
