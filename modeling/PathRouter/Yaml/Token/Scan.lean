import PathRouter.Yaml.Source
import PathRouter.Yaml.Token.Property

/-!
# Scanning a text into tokens

Tokens are read from left to right.  Two things are known only later: that a node is the key of a
mapping, which the colon after it tells, and that a block collection has ended, which the indentation
of a later token tells.  A node that may be a key is remembered; when its colon comes, the tokens
that announce the key are put in front of it.  Such a key must end on its line, within 1024
characters.

Until that is decided nobody can use the tokens from the node on.  So when a fault ends the scan,
the tokens before the first undecided node are those that can be read.
-/

namespace PathRouter.Yaml

/-- A node that may turn out to be a key: the number of its first token and its place.  It is
required if it could be nothing else. -/
structure PossibleKey where
  level : Nat
  number : Nat
  required : Bool
  index : Nat
  line : Nat
  column : Nat

/-- A scan in progress.  The tokens read so far are in reverse order; `indent` is the column of the
innermost block collection, -1 outside of all, and `flow` counts the open flow collections. -/
structure Scanner where
  cursor : Cursor
  flow : Nat
  indent : Int
  outer : List Int
  keyAllowed : Bool
  keys : List PossibleKey
  reversed : List Token
  count : Nat

namespace Scanner

/-- The scan at its beginning. -/
def ofText (cs : List Char) : Scanner :=
  { cursor := Cursor.ofText cs, flow := 0, indent := -1, outer := [], keyAllowed := true,
    keys := [], reversed := [], count := 0 }

/-- Appends a token. -/
def push (s : Scanner) (t : Token) : Scanner :=
  { s with reversed := t :: s.reversed, count := s.count + 1 }

/-- Puts a token in front of the one with a number. -/
def insertAt (s : Scanner) (number : Nat) (t : Token) : Scanner :=
  { s with reversed := s.reversed.insertIdx (s.count - number) t, count := s.count + 1 }

/-- Moves to another place. -/
def goto (s : Scanner) (c : Cursor) : Scanner := { s with cursor := c }

/-! ### Possible keys -/

/-- Whether a node can no longer be a key. -/
def isStale (s : Scanner) (k : PossibleKey) : Bool :=
  k.line ≠ s.cursor.line || 1024 < s.cursor.index - k.index

/-- Forgets nodes that can no longer be keys; it is a fault if one had to be. -/
def dropStale (s : Scanner) : Except Fault Scanner :=
  if s.keys.any fun k => s.isStale k && k.required then .error .malformed
  else .ok { s with keys := s.keys.filter fun k => !s.isStale k }

/-- Forgets the possible key of the current level. -/
def dropKey (s : Scanner) : Except Fault Scanner :=
  if s.keys.any fun k => k.level = s.flow && k.required then .error .malformed
  else .ok { s with keys := s.keys.filter fun k => k.level ≠ s.flow }

/-- Remembers that the next token may be a key. -/
def saveKey (s : Scanner) : Except Fault Scanner :=
  if !s.keyAllowed then .ok s
  else
    match s.dropKey with
    | .error e => .error e
    | .ok s =>
      let key : PossibleKey :=
        { level := s.flow, number := s.count
          required := s.flow = 0 && s.indent = s.cursor.column
          index := s.cursor.index, line := s.cursor.line, column := s.cursor.column }
      .ok { s with keys := key :: s.keys }

/-! ### Indentation -/

/-- Ends the block collections that are indented more than a column. -/
def unindentTo (column : Int) : List Int → Scanner → Scanner
  | [], s => s
  | i :: outer, s =>
    if column < s.indent then
      unindentTo column outer { s.push .blockEnd with indent := i, outer := outer }
    else s

/-- Ends block collections, unless a flow collection is open. -/
def unindent (s : Scanner) (column : Int) : Scanner :=
  if s.flow = 0 then unindentTo column s.outer s else s

/-- Opens a block collection at a column if it is indented more than the innermost one; `start` adds
the token. -/
def indentTo (s : Scanner) (column : Nat) (start : Scanner → Scanner) : Scanner :=
  if s.indent < column then
    start { s with indent := column, outer := s.indent :: s.outer }
  else s

/-! ### Tokens -/

/-- The place of the next token, and whether a line break comes before it. -/
def nextToken (fuel : Nat) (c : Cursor) : Cursor × Bool :=
  match fuel with
  | 0 => (c, false)
  | fuel + 1 =>
    let c := c.skipSpaces.skipComment
    match c.lineBreak? with
    | none => (c, false)
    | some (_, d) => ((nextToken fuel d).1, true)

/-- Moves to the next token.  A byte order mark at the beginning is skipped. -/
def toNextToken (s : Scanner) : Scanner :=
  let c := s.cursor
  let c := if c.index = 0 && c.char? = some '\ufeff' then c.next else c
  let (c, broken) := nextToken (c.rest.length + 1) c
  { s with cursor := c, keyAllowed := s.keyAllowed || (broken && s.flow = 0) }

/-- Reads a token of one character. -/
def single (s : Scanner) (t : Token) : Scanner := (s.goto s.cursor.next).push t

/-- Reads a mark between documents. -/
def documentMark (s : Scanner) (t : Token) : Except Fault Scanner := do
  let s ← (s.unindent (-1)).dropKey
  pure ({ s with keyAllowed := false }.goto (s.cursor.skip 3) |>.push t)

/-- Reads a directive. -/
def directive (s : Scanner) : Except Fault Scanner := do
  let s ← (s.unindent (-1)).dropKey
  let (t, c) ← s.cursor.directive
  pure ({ s with keyAllowed := false }.goto c |>.push t)

/-- Ends the scan. -/
def streamEnd (s : Scanner) : Except Fault Scanner := do
  let s ← (s.unindent (-1)).dropKey
  pure ({ s with keyAllowed := false, keys := [] }.push .streamEnd)

/-- Opens a flow collection. -/
def flowStart (s : Scanner) (t : Token) : Except Fault Scanner := do
  let s ← s.saveKey
  pure ({ s with flow := s.flow + 1, keyAllowed := true }.single t)

/-- Closes a flow collection. -/
def flowEnd (s : Scanner) (t : Token) : Except Fault Scanner := do
  let s ← s.dropKey
  if s.flow = 0 then throw .malformed
  pure ({ s with flow := s.flow - 1, keyAllowed := false }.single t)

/-- Reads a comma in a flow collection. -/
def flowEntry (s : Scanner) : Except Fault Scanner := do
  let s ← s.dropKey
  pure ({ s with keyAllowed := true }.single .flowEntry)

/-- Opens a block collection for an entry, a key or a value at the cursor, which must be at the
beginning of a line or after another such mark. -/
def blockMark (s : Scanner) (start : Token) : Except Fault Scanner :=
  if s.flow ≠ 0 then .ok s
  else if !s.keyAllowed then .error .malformed
  else .ok (s.indentTo s.cursor.column fun s => s.push start)

/-- Reads the mark of an entry in a block sequence. -/
def blockEntry (s : Scanner) : Except Fault Scanner := do
  let s ← (← s.blockMark .blockSequenceStart).dropKey
  pure ({ s with keyAllowed := true }.single .blockEntry)

/-- Reads the mark of a key. -/
def key (s : Scanner) : Except Fault Scanner := do
  let s ← (← s.blockMark .blockMappingStart).dropKey
  pure ({ s with keyAllowed := s.flow = 0 }.single .key)

/-- Reads the mark of a value.  If the node before it may be a key, it is one. -/
def value (s : Scanner) : Except Fault Scanner :=
  match s.keys.find? fun k => k.level = s.flow with
  | some k =>
    let s := { s with keys := s.keys.filter fun k => k.level ≠ s.flow, keyAllowed := false }
    let s := s.insertAt k.number .key
    let s :=
      if s.flow = 0 then s.indentTo k.column fun s => s.insertAt k.number .blockMappingStart else s
    .ok (s.single .value)
  | none => do
    let s ← (← s.blockMark .blockMappingStart).dropKey
    pure ({ s with keyAllowed := s.flow = 0 }.single .value)

/-- Reads a token that may be a key. -/
def node (s : Scanner) (read : Cursor → Except Fault (Token × Cursor)) : Except Fault Scanner := do
  let s ← s.saveKey
  let (t, c) ← read s.cursor
  pure ({ s with keyAllowed := false }.goto c |>.push t)

/-- Reads the name of an anchor or an alias. -/
def nameToken (make : String → Token) (c : Cursor) : Except Fault (Token × Cursor) := do
  let (n, c) ← c.next.name
  pure (make n, c)

/-- Reads a quoted scalar; `unfinished` is the fault of a text that ends within it. -/
def quotedToken (unfinished : Fault) (c : Cursor) : Except Fault (Token × Cursor) :=
  match c.quoted with
  | .error e => .error (e.getD unfinished)
  | .ok (text, c) => .ok (.scalar text false, c)

/-- Reads a plain scalar.  After a line break a key is allowed. -/
def plainScalar (s : Scanner) : Except Fault Scanner := do
  let s ← s.saveKey
  let (text, c, broken) := s.cursor.plain (s.flow ≠ 0) (s.indent + 1)
  pure ({ s with keyAllowed := broken }.goto c |>.push (.scalar text true))

/-- Reads a block scalar. -/
def blockScalar (s : Scanner) : Except Fault Scanner := do
  let s ← s.dropKey
  let (text, c) ← s.cursor.block s.indent
  pure ({ s with keyAllowed := true }.goto c |>.push (.scalar text false))

/-- Whether a plain scalar can start with the character at the cursor. -/
def startsPlain (s : Scanner) (ch : Char) : Bool :=
  !(isBlank ch || isBreak ch || "-?:,[]\x7b\x7d#&*!|>\x27\x22%@\x60".toList.contains ch) ||
    (!endsMark (s.cursor.ahead? 1) && (ch = '-' || (s.flow = 0 && (ch = '?' || ch = ':'))))

/-- Reads the token at the cursor; the flag says whether it is the last one. -/
def token (unfinished : Fault) (s : Scanner) : Except Fault (Scanner × Bool) :=
  let c := s.cursor
  let more (r : Except Fault Scanner) : Except Fault (Scanner × Bool) := r.map (·, false)
  match c.char? with
  | none => s.streamEnd.map (·, true)
  | some ch =>
    let spaced := endsMark (c.ahead? 1)
    if ch = '%' && c.column = 0 then more s.directive
    else if c.column = 0 && c.startsWithMark '-' then more (s.documentMark .documentStart)
    else if c.column = 0 && c.startsWithMark '.' then more (s.documentMark .documentEnd)
    else if ch = '[' then more (s.flowStart .flowSequenceStart)
    else if ch = '\x7b' then more (s.flowStart .flowMappingStart)
    else if ch = ']' then more (s.flowEnd .flowSequenceEnd)
    else if ch = '\x7d' then more (s.flowEnd .flowMappingEnd)
    else if ch = ',' then more s.flowEntry
    else if ch = '-' && spaced then more s.blockEntry
    else if ch = '?' && (s.flow ≠ 0 || spaced) then more s.key
    else if ch = ':' && (s.flow ≠ 0 || spaced) then more s.value
    else if ch = '*' then more (s.node (nameToken .alias))
    else if ch = '&' then more (s.node (nameToken .anchor))
    else if ch = '!' then more (s.node Cursor.tag)
    else if (ch = '|' || ch = '>') && s.flow = 0 then more s.blockScalar
    else if ch = '\x27' || ch = '\x22' then more (s.node (quotedToken unfinished))
    else if s.startsPlain ch then more s.plainScalar
    else .error .malformed

/-- Moves to the next token and reads it. -/
def step (unfinished : Fault) (s : Scanner) : Except Fault (Scanner × Bool) :=
  match s.toNextToken.dropStale with
  | .error e => .error e
  | .ok s => (s.unindent s.cursor.column).token unfinished

/-- The tokens that can be read when a fault ends the scan: those before the first node that may
still be a key. -/
def readable (s : Scanner) (fault : Fault) : Tokens :=
  match s.dropStale with
  | .error e => ⟨(s.reversed.drop (s.count - firstKey s.keys)).reverse, e⟩
  | .ok s => ⟨(s.reversed.drop (s.count - firstKey s.keys)).reverse, fault⟩
where
  /-- The number of the first undecided node. -/
  firstKey (keys : List PossibleKey) : Nat := keys.foldl (fun n k => min n k.number) s.count

/-- Scans to the end or to the first fault.  A token that reaches the end of what can be read of a
faulty source is not known in full. -/
def scanFrom (source : Source) : Nat → Scanner → Tokens
  | 0, s => s.readable .malformed
  | fuel + 1, s =>
    match s.step (source.fault?.getD .malformed) with
    | .error e => s.readable e
    | .ok (t, last) =>
      match source.fault? with
      | some fault => if t.cursor.rest = [] then s.readable fault else scanFrom source fuel t
      | none => if last then ⟨t.reversed.reverse, .malformed⟩ else scanFrom source fuel t

end Scanner

/-- The tokens of a text. -/
def Tokens.ofSource (source : Source) : Tokens :=
  Scanner.scanFrom source (source.text.length + 1) (Scanner.ofText source.text)

end PathRouter.Yaml
