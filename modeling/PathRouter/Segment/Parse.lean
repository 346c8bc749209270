import PathRouter.Segment.Basic
import PathRouter.Text.Quoted

/-!
# Reading one segment of a pattern

A segment that does not start with a colon is literal text.  All others must be a parameter: a
colon, a nonempty word as name, and the keyword of a kind in parentheses.  The letters of words are
ASCII letters, digits and the underscore.
-/

namespace PathRouter.Segment

/-- Why a segment that starts with a colon is no parameter. -/
inductive Fault where
  /-- It does not have the shape of a parameter. -/
  | malformed
  /-- It holds a character outside ASCII. -/
  | notAscii
  /-- It has the right shape, but this word is no keyword of a kind. -/
  | unsupportedKind (kind : String)
  /-- A reason given in words. -/
  | stated (reason : String)
  deriving DecidableEq, Repr

namespace Fault

/-- The reason in words. -/
def reason : Fault → String
  | malformed => "expected ':<name>(int)' or ':<name>(string)'"
  | notAscii => "parameter segments must be ASCII"
  | unsupportedKind k =>
    "unsupported parameter type " ++ Text.quote k ++ " (supported: " ++
      ", ".intercalate (ParamKind.all.map ParamKind.keyword) ++ ")"
  | stated r => r

/-- The fault with a given reason; without a reason the shape is at fault. -/
def ofReason (r : String) : Fault := if r = "" then malformed else stated r

end Fault

/-- The letters of names and kinds. -/
def isWordChar (c : Char) : Bool := c.isAlphanum || c = '_'

/-- Splits `:name(kind)` into its name and its kind, where any word may stand for the kind. -/
def splitParam? : List Char → Option (List Char × List Char)
  | ':' :: cs =>
    let name := cs.takeWhile isWordChar
    match cs.dropWhile isWordChar with
    | '(' :: ds =>
      let kind := ds.takeWhile isWordChar
      if name ≠ [] ∧ ds.dropWhile isWordChar = [')'] then some (name, kind) else none
    | _ => none
  | _ => none

/-- Reads a segment. -/
def parse (cs : List Char) : Except Fault Segment :=
  if cs.head? = some ':' then
    if !cs.all fun c => c.toNat < 0x80 then .error .notAscii
    else
      match splitParam? cs with
      | none => .error .malformed
      | some (name, kind) =>
        match ParamKind.ofKeyword? (String.ofList kind) with
        | none => .error (.unsupportedKind (String.ofList kind))
        | some k => .ok (.param (String.ofList name) k)
  else .ok (.literal (String.ofList cs))

end PathRouter.Segment
