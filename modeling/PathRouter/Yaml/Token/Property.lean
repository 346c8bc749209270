import PathRouter.Text.Utf8
import PathRouter.Yaml.Token.Basic
import PathRouter.Yaml.Token.Scalar

/-!
# Names, tags and directives in a text

Anchors, aliases, tags and directives stand at the cursor as a name or an address after a mark.
-/

namespace PathRouter.Yaml.Cursor

/-- The longest number of digits in the version of a directive. -/
def maxVersionDigits : Nat := 4300

/-- Reads the name of an anchor or an alias after its mark. -/
def name (c : Cursor) : Except Fault (String × Cursor) :=
  let (cs, c) := c.span isNameChar
  let ends := endsMark c.char? || c.char?.any "?:,]\x7d%@\x60".toList.contains
  if cs = [] ∨ !ends then .error .malformed else .ok (String.ofList cs, c)

/-- The characters of the address of a tag. -/
def isAddressChar (c : Char) : Bool := c.isAlphanum || "-;/?:@&=+$,_.!~*\x27()[]%".toList.contains c

/-- The bytes that percent signs and two hexadecimal digits each stand for, and the rest. -/
def percentBytes : List Char → Except Fault (List UInt8 × List Char)
  | '%' :: a :: b :: cs =>
    match hexNumber? [a, b], percentBytes cs with
    | none, _ => .error .malformed
    | some _, .error e => .error e
    | some n, .ok (bs, rest) => .ok (n.toUInt8 :: bs, rest)
  | '%' :: _ => .error .malformed
  | cs => .ok ([], cs)

/-- Replaces the bytes in an address by the characters that they encode. -/
def resolvePercent : Nat → List Char → Except Fault (List Char)
  | 0, _ => .ok []
  | _, [] => .ok []
  | fuel + 1, c :: cs =>
    if c = '%' then
      match percentBytes (c :: cs) with
      | .error e => .error e
      | .ok (bs, rest) =>
        match Text.decodeUtf8 bs, resolvePercent fuel rest with
        | (decoded, []), .ok more => .ok (decoded ++ more)
        | _, _ => .error .malformed
    else
      match resolvePercent fuel cs with
      | .error e => .error e
      | .ok more => .ok (c :: more)

/-- Reads the address of a tag. -/
def address (c : Cursor) : Except Fault (String × Cursor) :=
  let (cs, c) := c.span isAddressChar
  if cs = [] then .error .malformed
  else
    match resolvePercent cs.length cs with
    | .error e => .error e
    | .ok text => .ok (String.ofList text, c)

/-- Reads the handle of a tag: exclamation marks around a name, or one of them. -/
def handle (c : Cursor) : Except Fault (String × Cursor) :=
  if c.char? ≠ some '!' then .error .malformed
  else if c.ahead? 1 = some ' ' then .ok ("!", c.next)
  else
    let (cs, d) := c.next.span isNameChar
    if d.char? ≠ some '!' then .error .malformed
    else .ok (String.ofList ('!' :: cs ++ ['!']), d.next)

/-- Reads a tag. -/
def tag (c : Cursor) : Except Fault (Token × Cursor) := do
  let (handle?, suffix, d) ← (do
    if c.ahead? 1 = some '<' then
      let (uri, d) ← (c.skip 2).address
      if d.char? ≠ some '>' then throw .malformed
      pure (none, uri, d.next)
    else if endsMark (c.ahead? 1) then pure (none, "!", c.next)
    else
      let word := c.next.rest.takeWhile fun ch => ch ≠ '!' && !(ch = ' ' || isBreak ch)
      let (h, d) ←
        if c.ahead? (word.length + 1) = some '!' then c.handle else pure ("!", c.next)
      let (suffix, d) ← d.address
      pure (some h, suffix, d))
  if !endsWord d.char? then throw .malformed
  pure (.tag handle? suffix, d)

/-- Reads one number of a version. -/
def versionNumber (c : Cursor) : Except Fault (Nat × Cursor) :=
  let (cs, c) := c.span Char.isDigit
  if cs = [] then .error .malformed
  else if maxVersionDigits < cs.length then .error .badScalar
  else .ok (cs.foldl (fun n ch => 10 * n + (ch.toNat - 48)) 0, c)

/-- Reads what follows the name of a directive. -/
def directiveValue (word : List Char) (c : Cursor) : Except Fault (Directive × Cursor) := do
  if word = "YAML".toList then
    let (major, c) ← c.skipSpaces.versionNumber
    if c.char? ≠ some '.' then throw .malformed
    let (minor, c) ← c.next.versionNumber
    if !endsWord c.char? then throw .malformed
    pure (.version major minor, c)
  else if word = "TAG".toList then
    let (h, c) ← c.skipSpaces.handle
    if c.char? ≠ some ' ' then throw .malformed
    let (uri, c) ← c.skipSpaces.address
    if !endsWord c.char? then throw .malformed
    pure (.handle h uri, c)
  else pure (.other, c.skipWhile fun ch => !isBreak ch)

/-- Reads a directive; only a comment may follow it on its line. -/
def directive (c : Cursor) : Except Fault (Token × Cursor) := do
  let (word, c) := c.next.span isNameChar
  if word = [] || !endsWord c.char? then throw .malformed
  let (d, c) ← c.directiveValue word
  let c := c.skipSpaces.skipComment
  if !endsLine c.char? then throw .malformed
  pure (.directive d, c.skipBreak)

end PathRouter.Yaml.Cursor
