import PathRouter.Text.Base64
import PathRouter.Text.Numeral
import PathRouter.Yaml.Moment
import PathRouter.Yaml.Tag

/-!
# Values of scalars

What a scalar stands for under its tag, and the tag that its text has by itself.  A tag that is
written explicitly admits more texts than those that have the tag by themselves.
-/

namespace PathRouter.Yaml

/-- The text without one line feed at its end. -/
def dropFinalBreak (cs : List Char) : List Char :=
  if cs.getLast? = some '\n' then cs.dropLast else cs

namespace Tag

/-- Dates and timestamps. -/
def isTimestamp (cs : List Char) : Bool := (MomentText.ofText? cs).any MomentText.isPlain

/-- The tag of a text by itself.  One line feed at the end does not count, unless it is all there
is. -/
def ofText (cs : List Char) : Tag :=
  if cs = ['\n'] then text
  else
    let cs := dropFinalBreak cs
    if isBool cs then bool
    else if isFloat cs then float
    else if isInt cs then int
    else if cs = "<<".toList then merge
    else if isNull cs then null
    else if isTimestamp cs then timestamp
    else if cs = ['='] then default
    else text

end Tag

namespace Scalar

/-- The pieces of a text between colons, at least one. -/
def colonParts (cs : List Char) : List (List Char) :=
  let (head, tail) := Tag.colonPieces cs
  head :: tail

/-- A text without its underscores and without its sign, which holds if it is a minus. -/
def signedText (cs : List Char) : Except Fault (Bool × List Char) :=
  match cs.filter (· ≠ '_') with
  | [] => .error .emptyNumber
  | cs => .ok (Text.splitSign cs)

/-- Reads a whole number in a base. -/
def integer (base : Nat) (cs : List Char) : Except Fault Int :=
  match Text.readInteger? base cs with
  | none => .error .badScalar
  | some n => .ok n

/-- Reads whole numbers as parts of sixty, the last one least significant. -/
def sixtieths : List (List Char) → Except Fault Int
  | ps => ps.foldl
    (fun n? p =>
      match n?, integer 10 p with
      | .error e, _ => .error e
      | _, .error e => .error e
      | .ok n, .ok d => .ok (60 * n + d))
    (.ok 0)

/-- The value of a whole number. -/
def int (cs : List Char) : Except Fault Int := do
  let (negative, cs) ← signedText cs
  let n ← match cs with
    | [] => throw .emptyNumber
    | ['0'] => pure 0
    | '0' :: 'b' :: ds => integer 2 ds
    | '0' :: 'x' :: ds => integer 16 ds
    | '0' :: _ => integer 8 cs
    | _ => if cs.contains ':' then sixtieths (colonParts cs) else integer 10 cs
  pure (if negative then -n else n)

/-- Reads a floating-point number. -/
def floating (cs : List Char) : Except Fault Float :=
  match Text.readFloat? cs with
  | none => .error .badScalar
  | some x => .ok x

/-- Reads floating-point numbers one by one. -/
def floatings : List (List Char) → Except Fault (List Float)
  | [] => .ok []
  | p :: ps =>
    match floating p with
    | .error e => .error e
    | .ok x =>
      match floatings ps with
      | .error e => .error e
      | .ok xs => .ok (x :: xs)

/-- Adds up floating-point numbers, each multiplied by sixty times the unit of the one before. -/
def sumSixtieths : Nat → Float → List Float → Except Fault Float
  | _, sum, [] => .ok sum
  | unit, sum, x :: xs =>
    if Nat.pow 2 1024 ≤ unit then .error .tooLarge
    else sumSixtieths (unit * 60) (sum + x * Float.ofNat unit) xs

/-- The value of a floating-point number. -/
def float (cs : List Char) : Except Fault Float := do
  let (negative, cs) ← signedText (cs.map Char.toLower)
  if cs = ".nan".toList then pure (0.0 / 0.0)
  else
    let x ←
      if cs = ".inf".toList then pure (1.0 / 0.0)
      else if cs.contains ':' then do
        let xs ← floatings (colonParts cs)
        sumSixtieths 1 0.0 xs.reverse
      else floating cs
    pure (if negative then -x else x)

/-- The truth value that a word stands for. -/
def truth (cs : List Char) : Except Fault Bool :=
  let word := String.ofList (cs.map Char.toLower)
  if ["yes", "true", "on"].contains word then .ok true
  else if ["no", "false", "off"].contains word then .ok false
  else .error (.unknownTruth word)

/-- The bytes that a text in base 64 stands for. -/
def binary (cs : List Char) : Except Fault (List UInt8) :=
  if !cs.all fun c => c.toNat < 0x80 then .error .malformed
  else
    match Text.decodeBase64 cs with
    | none => .error .malformed
    | some bs => .ok bs

/-- The date or moment that a text stands for. -/
def moment (cs : List Char) : Except Fault Value :=
  match MomentText.ofText? (dropFinalBreak cs) with
  | none => .error .notDate
  | some m => m.value

/-- The value of a scalar under a tag. -/
def value (tag : Tag) (cs : List Char) : Except Fault Value :=
  match tag with
  | .null => .ok .null
  | .bool => (truth cs).map .bool
  | .int => (int cs).map .int
  | .float => (float cs).map .float
  | .binary => (binary cs).map .bytes
  | .timestamp => moment cs
  | .text => .ok (.text (String.ofList cs))
  | _ => .error .malformed

end Scalar

end PathRouter.Yaml
