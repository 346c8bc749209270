import PathRouter.Value.Calendar
import PathRouter.Yaml.Fault
import PathRouter.Yaml.Token.Cursor

/-!
# Dates and timestamps

A date is year, month and day with hyphens between them.  A timestamp adds the time of day, which
may have a fraction of a second and an offset from universal time.
-/

namespace PathRouter.Yaml

/-- The digits of a time of day, and the offset as written: nothing, `Z`, or sign, hours and
minutes. -/
structure ClockText where
  hour : List Char
  minute : List Char
  second : List Char
  fraction : List Char
  zone? : Option (Option (Bool × List Char × List Char))

/-- The digits of a date or a timestamp. -/
structure MomentText where
  year : List Char
  month : List Char
  day : List Char
  clock? : Option ClockText

/-- Splits off digits, as many as possible between two numbers. -/
def splitDigits? (least most : Nat) (cs : List Char) : Option (List Char × List Char) :=
  let ds := (cs.take most).takeWhile Char.isDigit
  if least ≤ ds.length then some (ds, cs.drop ds.length) else none

/-- Splits off a given character. -/
def splitChar? (c : Char) : List Char → Option (List Char)
  | [] => none
  | d :: cs => if d = c then some cs else none

namespace MomentText

/-- Reads an offset up to the end of the text. -/
def readZone? (cs : List Char) : Option (Option (Option (Bool × List Char × List Char))) :=
  if cs = [] then some none
  else
    match cs.dropWhile isBlank with
    | ['Z'] => some (some none)
    | s :: cs =>
      if s ≠ '+' ∧ s ≠ '-' then none
      else
        match splitDigits? 1 2 cs with
        | none => none
        | some (hours, []) => some (some (some (s = '-', hours, [])))
        | some (hours, cs) =>
          match (splitChar? ':' cs).bind (splitDigits? 2 2) with
          | some (minutes, []) => some (some (some (s = '-', hours, minutes)))
          | _ => none
    | [] => none

/-- Reads the time of day after its separator. -/
def readClock? (cs : List Char) : Option ClockText := do
  let (hour, cs) ← splitDigits? 1 2 cs
  let (minute, cs) ← splitDigits? 2 2 (← splitChar? ':' cs)
  let (second, cs) ← splitDigits? 2 2 (← splitChar? ':' cs)
  let (fraction, cs) :=
    match splitChar? '.' cs with
    | some cs => (cs.takeWhile Char.isDigit, cs.dropWhile Char.isDigit)
    | none => ([], cs)
  let zone? ← readZone? cs
  pure ⟨hour, minute, second, fraction, zone?⟩

/-- Reads a date or a timestamp. -/
def ofText? (cs : List Char) : Option MomentText := do
  let (year, cs) ← splitDigits? 4 4 cs
  let (month, cs) ← splitDigits? 1 2 (← splitChar? '-' cs)
  let (day, cs) ← splitDigits? 1 2 (← splitChar? '-' cs)
  match cs with
  | [] => pure ⟨year, month, day, none⟩
  | c :: rest =>
    let rest ←
      if c = 'T' ∨ c = 't' then some rest
      else if isBlank c then some (rest.dropWhile isBlank)
      else none
    let clock ← readClock? rest
    pure ⟨year, month, day, some clock⟩

/-- Whether a text without tag is read as a moment: dates need two digits for month and day. -/
def isPlain (m : MomentText) : Bool :=
  m.clock?.isSome || (m.month.length = 2 && m.day.length = 2)

/-- The number that digits denote. -/
def number (ds : List Char) : Nat := ds.foldl (fun n c => 10 * n + (c.toNat - 48)) 0

/-- The microseconds of a fraction of a second: its first six digits. -/
def microseconds (ds : List Char) : Nat :=
  let six := ds.take 6
  number six * Nat.pow 10 (6 - six.length)

/-- The date or moment, if there is one. -/
def value (m : MomentText) : Except Fault Value :=
  let date : Date := ⟨number m.year, number m.month, number m.day⟩
  match m.clock? with
  | none => if date.isValid then .ok (.date date) else .error .badScalar
  | some c =>
    let offset? : Option Int :=
      c.zone?.map fun
        | none => 0
        | some (negative, hours, minutes) =>
          let n : Int := number hours * 60 + number minutes
          if negative then -n else n
    let t : Timestamp :=
      ⟨date, number c.hour, number c.minute, number c.second, microseconds c.fraction, offset?⟩
    if t.isValid then .ok (.timestamp t) else .error .badScalar

end MomentText

end PathRouter.Yaml
