import PathRouter.Text.Utf8
import PathRouter.Yaml.Fault

/-!
# Source text

A document is a file of UTF-8 text in which every line break is one character.  The text may hold
printable characters only, and a file is read in blocks: a fault in a later block is met only by who
reads that far.
-/

namespace PathRouter.Yaml

/-- The text that can be read, and the fault that is met after it, if any. -/
structure Source where
  text : List Char
  fault? : Option Fault

namespace Source

/-- The bytes of a file that are decoded at a time. -/
def chunkSize : Nat := 8192

/-- The characters that are read at a time. -/
def blockSize : Nat := 4096

/-- Writes every line break as a line feed. -/
def unifyBreaks : List Char → List Char
  | [] => []
  | '\r' :: '\n' :: cs => '\n' :: unifyBreaks cs
  | c :: cs => (if c = '\r' then '\n' else c) :: unifyBreaks cs

/-- Whether a document may hold a character. -/
def isAllowed (c : Char) : Bool :=
  let n := c.toNat
  n == 9 || n == 10 || n == 13 || (0x20 ≤ n && n ≤ 0x7e) || n == 0x85 ||
    (0xa0 ≤ n && n ≤ 0xd7ff) || (0xe000 ≤ n && n ≤ 0xfffd) || 0x10000 ≤ n

/-- The whole blocks of a text.  The first two blocks are read together. -/
def wholeBlocks (cs : List Char) : List Char :=
  let n := cs.length / blockSize * blockSize
  if n < 2 * blockSize then [] else cs.take n

/-- The source of a text; characters that a document may not hold are a fault. -/
def ofText (cs : List Char) (fault? : Option Fault) : Source :=
  let allowed := cs.takeWhile isAllowed
  if allowed.length = cs.length then ⟨cs, fault?⟩ else ⟨wholeBlocks allowed, some .malformed⟩

/-- The source of a file. -/
def ofBytes (bytes : List UInt8) : Source :=
  match Text.decodeUtf8 bytes with
  | (cs, []) => ofText (unifyBreaks cs) none
  | (_, left) =>
    let good := (bytes.length - left.length) / chunkSize * chunkSize
    let cs := (Text.decodeUtf8 (bytes.take good)).1
    ofText (wholeBlocks (unifyBreaks cs)) (some .notUtf8)

end Source

end PathRouter.Yaml
