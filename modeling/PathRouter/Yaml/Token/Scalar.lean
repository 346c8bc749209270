import PathRouter.Yaml.Fault
import PathRouter.Yaml.Token.Cursor

/-!
# Scalars in a text

A scalar is written plainly, in quotes, or as a block of lines.  In the first two forms a single
line break counts as a space, and further ones as themselves; escapes stand in double quotes only.
In a block the indentation says where it ends.
-/

namespace PathRouter.Yaml

/-- What a line break and the further breaks after it count as: the first of several line feeds is
dropped, a single one is a space. -/
def foldBreaks (first : Char) (more : List Char) : List Char :=
  if first ≠ '\n' then first :: more else if more = [] then [' '] else more

namespace Cursor

/-! ### Plain scalars -/

/-- The characters of a plain scalar on one line, without blanks. -/
def plainWord (inFlow : Bool) : List Char → List Char
  | [] => []
  | ch :: cs =>
    let ends :=
      isBlank ch || isBreak ch || (inFlow && ",?[]\x7b\x7d".toList.contains ch) ||
        (ch = ':' && (endsMark cs.head? || (inFlow && cs.head?.any ",[]\x7b\x7d".toList.contains)))
    if ends then [] else ch :: plainWord inFlow cs

/-- The line breaks from the cursor on, spaces left out.  A document separator ends them, and then
they count for nothing. -/
def plainBreaks : Nat → Cursor → Option (List Char) × Cursor
  | 0, c => (some [], c)
  | fuel + 1, c =>
    if c.char? = some ' ' then plainBreaks fuel c.next
    else
      match c.lineBreak? with
      | none => (some [], c)
      | some (b, d) =>
        if d.atSeparator then (none, d)
        else
          match plainBreaks fuel d with
          | (none, e) => (none, e)
          | (some bs, e) => (some (b :: bs), e)

/-- What stands between two words of a plain scalar, the place after it, and whether that is on
another line. -/
def plainSpaces (c : Cursor) : List Char × Cursor × Bool :=
  let (spaces, c) := c.span (· = ' ')
  match c.lineBreak? with
  | none => (spaces, c, false)
  | some (b, c) =>
    if c.atSeparator then ([], c, true)
    else
      match plainBreaks c.rest.length c with
      | (none, c) => ([], c, true)
      | (some bs, c) => (foldBreaks b bs, c, true)

/-- Reads the words of a plain scalar, the first of them with the given spaces before it. -/
def plainFrom (inFlow : Bool) (indent : Int) :
    Nat → List Char → Bool → Cursor → List Char × Cursor × Bool
  | 0, _, broken, c => ([], c, broken)
  | fuel + 1, before, broken, c =>
    let word := if c.char? = some '#' then [] else plainWord inFlow c.rest
    if word = [] then ([], c, broken)
    else
      let (spaces, c, broken) := (c.skip word.length).plainSpaces
      if spaces = [] ∨ c.char? = some '#' ∨ (!inFlow ∧ (c.column : Int) < indent) then
        (before ++ word, c, broken)
      else
        let (text, c, broken) := plainFrom inFlow indent fuel spaces broken c
        (before ++ word ++ text, c, broken)

/-- Reads a plain scalar.  Outside flow collections it ends at a line that is indented less than
`indent`.  The last component says whether a line break follows the last word. -/
def plain (inFlow : Bool) (indent : Int) (c : Cursor) : List Char × Cursor × Bool :=
  plainFrom inFlow indent c.rest.length [] false c

/-! ### Quoted scalars -/

/-- The line breaks from the cursor on, blanks left out. -/
def quotedBreaks : Nat → Cursor → Except Fault (List Char × Cursor)
  | 0, c => .ok ([], c)
  | fuel + 1, c =>
    if c.atSeparator then .error .malformed
    else
      let c := c.skipWhile isBlank
      match c.lineBreak? with
      | none => .ok ([], c)
      | some (b, d) =>
        match quotedBreaks fuel d with
        | .error e => .error e
        | .ok (bs, e) => .ok (b :: bs, e)

/-- The characters that a backslash and one character stand for. -/
def shortEscapes : List (Char × Char) :=
  [('0', '\x00'), ('a', '\x07'), ('b', '\x08'), ('t', '\t'), ('\t', '\t'), ('n', '\n'),
    ('v', '\x0b'), ('f', '\x0c'), ('r', '\r'), ('e', '\x1b'), (' ', ' '), ('\x22', '\x22'),
    ('\\', '\\'), ('/', '/'), ('N', '\x85'), ('_', '\xa0'), ('L', '\u2028'), ('P', '\u2029')]

/-- The number of hexadecimal digits after a backslash and a letter. -/
def escapeWidth? : Char → Option Nat
  | 'x' => some 2
  | 'u' => some 4
  | 'U' => some 8
  | _ => none

/-- The value of a hexadecimal digit. -/
def hexDigit? (c : Char) : Option Nat :=
  if c.isDigit then some (c.toNat - 48)
  else if 'a' ≤ c ∧ c ≤ 'f' then some (c.toNat - 87)
  else if 'A' ≤ c ∧ c ≤ 'F' then some (c.toNat - 55)
  else none

/-- The number that hexadecimal digits denote. -/
def hexNumber? (cs : List Char) : Option Nat :=
  cs.foldl (fun n? c => n?.bind fun n => (hexDigit? c).map (16 * n + ·)) (some 0)

/-- The character with a code point.  Code points beyond all characters are none.  A text holds no
surrogates: an escape that names one stands for the replacement character, also where a surrogate
alone would be kept by texts that are sequences of code points. -/
def charOfCode (n : Nat) : Except Fault Char :=
  if 0x7fffffff < n then .error .tooLarge
  else if 0x10ffff < n then .error .badScalar
  else .ok (if 0xd800 ≤ n ∧ n < 0xe000 then '\ufffd' else Char.ofNat n)

/-- Reads an escape after its backslash: what it stands for, and the place after it. -/
def escaped (c : Cursor) : Except Fault (List Char × Cursor) :=
  match c.char? with
  | none => .error .malformed
  | some ch =>
    match shortEscapes.lookup ch, escapeWidth? ch with
    | some r, _ => .ok ([r], c.next)
    | none, some width =>
      let digits := c.next.rest.take width
      match hexNumber? digits with
      | none => .error .malformed
      | some n =>
        if digits.length < width then .error .malformed
        else
          match charOfCode n with
          | .error e => .error e
          | .ok r => .ok ([r], c.next.skip width)
    | none, none =>
      match c.lineBreak? with
      | none => .error .malformed
      | some (_, d) => quotedBreaks d.rest.length d

/-- Reads blanks and line breaks within quotes. -/
def quotedSpaces (c : Cursor) : Except Fault (List Char × Cursor) :=
  let (blanks, c) := c.span isBlank
  match c.lineBreak? with
  | none => .ok (blanks, c)
  | some (b, d) =>
    match quotedBreaks d.rest.length d with
    | .error e => .error e
    | .ok (bs, e) => .ok (foldBreaks b bs, e)

/-- Reads a quoted scalar after its first quote; `none` is the fault of a text that ends before the
last quote. -/
def quotedFrom (double : Bool) : Nat → Cursor → Except (Option Fault) (List Char × Cursor)
  | 0, _ => .error none
  | fuel + 1, c =>
    let before : Except Fault (List Char × Cursor) → Except (Option Fault) (List Char × Cursor)
      | .error e => .error (some e)
      | .ok (cs, d) =>
        match quotedFrom double fuel d with
        | .error e => .error e
        | .ok (text, e) => .ok (cs ++ text, e)
    match c.char? with
    | none => .error none
    | some ch =>
      if isBlank ch || isBreak ch then before c.quotedSpaces
      else if double then
        if ch = '\x22' then .ok ([], c.next)
        else if ch = '\\' then before c.next.escaped
        else before (.ok ([ch], c.next))
      else if ch ≠ '\x27' then before (.ok ([ch], c.next))
      else if c.ahead? 1 = some '\x27' then before (.ok ([ch], c.skip 2))
      else .ok ([], c.next)

/-- Reads a quoted scalar. -/
def quoted (c : Cursor) : Except (Option Fault) (List Char × Cursor) :=
  quotedFrom (c.char? = some '\x22') c.rest.length c.next

/-! ### Block scalars -/

/-- What happens to the line breaks at the end of a block. -/
inductive Chomping where
  | strip
  | clip
  | keep
  deriving DecidableEq, Repr

/-- The chomping that a character asks for. -/
def chomping? : Option Char → Option Chomping
  | some '-' => some .strip
  | some '+' => some .keep
  | _ => none

/-- Reads a digit as indentation; zero is none. -/
def indentation (c : Cursor) : Except Fault (Option Nat × Cursor) :=
  match c.char? with
  | none => .ok (none, c)
  | some ch =>
    if ch.isDigit then
      if ch = '0' then .error .malformed else .ok (some (ch.toNat - 48), c.next)
    else .ok (none, c)

/-- Reads the header of a block after its first character: chomping and indentation in any order,
and nothing but a comment after them. -/
def blockHeader (c : Cursor) : Except Fault (Chomping × Option Nat × Cursor) := do
  let (chomp, width?, c) ← (do
    match chomping? c.char? with
    | some chomp =>
      let (width?, c) ← c.next.indentation
      pure (chomp, width?, c)
    | none =>
      let (width?, c) ← c.indentation
      match width?, chomping? c.char? with
      | some _, some chomp => pure (chomp, width?, c.next)
      | _, _ => pure (.clip, width?, c))
  if !endsWord c.char? then throw .malformed
  let c := c.skipSpaces.skipComment
  if !endsLine c.char? then throw .malformed
  pure (chomp, width?, c.skipBreak)

/-- The line breaks before the first line of a block, the largest column that spaces among them
reach, and the place after them. -/
def blockIndentation : Nat → Nat → Cursor → List Char × Nat × Cursor
  | 0, deepest, c => ([], deepest, c)
  | fuel + 1, deepest, c =>
    if c.char? = some ' ' then blockIndentation fuel (max deepest c.next.column) c.next
    else
      match c.lineBreak? with
      | none => ([], deepest, c)
      | some (b, d) =>
        let (bs, deepest, e) := blockIndentation fuel deepest d
        (b :: bs, deepest, e)

/-- The place after spaces, but not beyond a column. -/
def skipIndent (column : Nat) (c : Cursor) : Cursor :=
  c.skip (min (c.rest.takeWhile (· = ' ')).length (column - c.column))

/-- The line breaks between two lines of a block. -/
def blockBreaks (column : Nat) : Nat → Cursor → List Char × Cursor
  | 0, c => ([], c)
  | fuel + 1, c =>
    let c := c.skipIndent column
    match c.lineBreak? with
    | none => ([], c)
    | some (b, d) =>
      let (bs, e) := blockBreaks column fuel d
      (b :: bs, e)

/-- The lines of a block from the cursor on, with the line breaks before them.  In a folded block a
line break between lines that start with no blank counts as a space, or for nothing where others
follow. -/
def blockLines (folded : Bool) (chomp : Chomping) (column : Nat) :
    Nat → List Char → Cursor → List Char × Cursor
  | 0, _, c => ([], c)
  | fuel + 1, breaks, c =>
    let starts (c : Cursor) : Bool := c.char?.isSome && c.column = column
    let blank (c : Cursor) : Bool := c.char?.any isBlank
    let kept (breaks : List Char) : List Char := if chomp = .keep then breaks else []
    if !starts c then (kept breaks, c)
    else
      let leading := blank c
      let (line, c) := c.span fun ch => !isBreak ch
      let (final, c) :=
        match c.lineBreak? with
        | none => ([], c)
        | some (b, d) => ([b], d)
      let (after, c) := c.blockBreaks column c.rest.length
      if starts c then
        let joined :=
          if folded && final = ['\n'] && !leading && !blank c then
            if after = [] then [' '] else []
          else final
        let (text, c) := blockLines folded chomp column fuel after c
        (breaks ++ line ++ joined ++ text, c)
      else (breaks ++ line ++ (if chomp = .strip then [] else final) ++ kept after, c)

/-- Reads a block scalar within a collection that is indented by `indent`. -/
def block (indent : Int) (c : Cursor) : Except Fault (List Char × Cursor) :=
  match c.next.blockHeader with
  | .error e => .error e
  | .ok (chomp, width?, d) =>
    let least := (max (indent + 1) 1).toNat
    let (breaks, column, d) :=
      match width? with
      | none =>
        let (breaks, deepest, e) := d.blockIndentation d.rest.length 0
        (breaks, max least deepest, e)
      | some width =>
        let column := least + width - 1
        let (breaks, e) := d.blockBreaks column d.rest.length
        (breaks, column, e)
    .ok (blockLines (c.char? = some '>') chomp column (d.rest.length + 1) breaks d)

end Cursor

end PathRouter.Yaml
