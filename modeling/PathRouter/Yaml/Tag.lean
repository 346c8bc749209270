import PathRouter.Yaml.Token.Cursor

/-!
# Tags

A tag says what a node stands for.  It is written with the node; a plain scalar without one gets it
from its text.
-/

namespace PathRouter.Yaml

/-- What a node stands for. -/
inductive Tag where
  | null
  | bool
  | int
  | float
  | binary
  | timestamp
  | orderedMap
  | pairs
  | set
  | text
  | sequence
  | mapping
  /-- The key of a mapping that is merged into another. -/
  | merge
  /-- The key of the value by which a mapping stands for a scalar. -/
  | default
  | unknown
  deriving DecidableEq, Repr

namespace Tag

/-- The beginning of the addresses of the standard tags. -/
def standard : String := "tag:yaml.org,2002:"

/-- The standard tags by name. -/
def names : List (String × Tag) :=
  [("null", null), ("bool", bool), ("int", int), ("float", float), ("binary", binary),
    ("timestamp", timestamp), ("omap", orderedMap), ("pairs", pairs), ("set", set), ("str", text),
    ("seq", sequence), ("map", mapping), ("merge", merge), ("value", default)]

/-- The tag with an address. -/
def ofAddress (uri : String) : Tag :=
  match names.find? fun n => standard ++ n.1 = uri with
  | some n => n.2
  | none => unknown

/-- Whether nodes with this tag stand for collections. -/
def isCollection : Tag → Bool
  | orderedMap | pairs | set | sequence | mapping => true
  | _ => false

/-! ### Texts of scalars -/

/-- A digit or an underscore. -/
def isSpacedDigit (c : Char) : Bool := c.isDigit || c = '_'

/-- The text after a sign, if there is one. -/
def unsigned : List Char → List Char
  | [] => []
  | c :: cs => if c = '+' ∨ c = '-' then cs else c :: cs

/-- Parts of sixty after colons: one or two digits each, below sixty. -/
def isSixtieth : List Char → Bool
  | [a] => a.isDigit
  | [a, b] => '0' ≤ a && a ≤ '5' && b.isDigit
  | _ => false

/-- The pieces of a text between colons. -/
def colonPieces (cs : List Char) : List Char × List (List Char) :=
  cs.foldr
    (fun c (head, tail) => if c = ':' then ([], head :: tail) else (c :: head, tail)) ([], [])

/-- Whole numbers: binary, octal, hexadecimal, decimal, and in parts of sixty. -/
def isInt (cs : List Char) : Bool :=
  match unsigned cs with
  | [] => false
  | '0' :: cs =>
    match cs with
    | 'b' :: ds => ds ≠ [] && ds.all fun c => c = '0' || c = '1' || c = '_'
    | 'x' :: ds =>
      ds ≠ [] && ds.all fun c =>
        isSpacedDigit c || ('a' ≤ c && c ≤ 'f') || ('A' ≤ c && c ≤ 'F')
    | ds => ds.all fun c => ('0' ≤ c && c ≤ '7') || c = '_'
  | c :: cs =>
    let (head, tail) := colonPieces cs
    c.isDigit && head.all isSpacedDigit && tail.all isSixtieth

/-- An exponent with its sign, or nothing. -/
def isExponent : List Char → Bool
  | [] => true
  | e :: s :: ds =>
    (e = 'e' || e = 'E') && (s = '+' || s = '-') && ds ≠ [] && ds.all Char.isDigit
  | _ => false

/-- Digits and underscores with an exponent after them. -/
def isFraction (cs : List Char) : Bool := isExponent (cs.dropWhile isSpacedDigit)

/-- Floating-point numbers: with a point, in parts of sixty with a point, or not finite. -/
def isFloat (cs : List Char) : Bool :=
  let finite (cs : List Char) : Bool :=
    match cs with
    | [] => false
    | c :: _ =>
      let whole := cs.takeWhile (· ≠ '.')
      let (head, tail) := colonPieces whole
      match cs.dropWhile (· ≠ '.') with
      | [] => false
      | _ :: fraction =>
        c.isDigit && head.all isSpacedDigit && tail.all isSixtieth &&
          if tail = [] then isFraction fraction else fraction.all isSpacedDigit
  let small (cs : List Char) : Bool :=
    match cs with
    | '.' :: d :: ds => d.isDigit && isFraction ds
    | _ => false
  finite (unsigned cs) || small cs ||
    [".inf", ".Inf", ".INF"].contains (String.ofList (unsigned cs)) ||
    [".nan", ".NaN", ".NAN"].contains (String.ofList cs)

/-- Truth values. -/
def isBool (cs : List Char) : Bool :=
  ["yes", "Yes", "YES", "no", "No", "NO", "true", "True", "TRUE", "false", "False", "FALSE", "on",
    "On", "ON", "off", "Off", "OFF"].contains (String.ofList cs)

/-- Spellings of nothing. -/
def isNull (cs : List Char) : Bool :=
  ["", "~", "null", "Null", "NULL"].contains (String.ofList cs)

end Tag

end PathRouter.Yaml
