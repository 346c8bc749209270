/-!
# UTF-8

A text is read from bytes.  Every character has one form only: overlong forms, surrogates and code
points above the last one are refused, as are stray and missing trailing bytes.
-/

namespace PathRouter.Text

/-- The six bits of a trailing byte. -/
def trailBits? (b : UInt8) : Option Nat :=
  if 0x80 ≤ b ∧ b < 0xc0 then some (b.toNat - 0x80) else none

/-- Adds the bits of `k` trailing bytes to those read so far. -/
def readTrail (n : Nat) : Nat → List UInt8 → Option (Nat × List UInt8)
  | 0, bs => some (n, bs)
  | _ + 1, [] => none
  | k + 1, b :: bs =>
    match trailBits? b with
    | none => none
    | some t => readTrail (n * 64 + t) k bs

/-- Whether a code point needs exactly `k` trailing bytes and stands for a character. -/
def isEncodedIn (k n : Nat) : Bool :=
  match k with
  | 1 => 0x80 ≤ n && n < 0x800
  | 2 => (0x800 ≤ n && n < 0xd800) || (0xe000 ≤ n && n < 0x10000)
  | _ => 0x10000 ≤ n && n < 0x110000

/-- The first character of an encoded text and the bytes after it. -/
def nextChar? : List UInt8 → Option (Char × List UInt8)
  | [] => none
  | b :: bs =>
    let n := b.toNat
    let read (k bits : Nat) : Option (Char × List UInt8) :=
      match readTrail bits k bs with
      | none => none
      | some (code, rest) => if isEncodedIn k code then some (Char.ofNat code, rest) else none
    if n < 0x80 then some (Char.ofNat n, bs)
    else if n < 0xc0 then none
    else if n < 0xe0 then read 1 (n - 0xc0)
    else if n < 0xf0 then read 2 (n - 0xe0)
    else if n < 0xf8 then read 3 (n - 0xf0)
    else none

/-- Reads at most `fuel` characters, and returns the bytes that are left. -/
def decodeFrom : Nat → List UInt8 → List Char × List UInt8
  | 0, bs => ([], bs)
  | fuel + 1, bs =>
    match nextChar? bs with
    | none => ([], bs)
    | some (c, rest) =>
      let (cs, left) := decodeFrom fuel rest
      (c :: cs, left)

/-- The characters up to the first bytes that encode none, and the bytes from there on. -/
def decodeUtf8 (bs : List UInt8) : List Char × List UInt8 := decodeFrom bs.length bs

end PathRouter.Text
