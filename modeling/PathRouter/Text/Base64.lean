/-!
# Base 64

Four characters of six bits each stand for three bytes.  Characters of no value are skipped.  The
text ends at its padding, and a group that is not full needs one.
-/

namespace PathRouter.Text

/-- The six bits that a character stands for. -/
def base64Bits? (c : Char) : Option Nat :=
  if c.isUpper then some (c.toNat - 65)
  else if c.isLower then some (c.toNat - 71)
  else if c.isDigit then some (c.toNat + 4)
  else if c = '+' then some 62
  else if c = '/' then some 63
  else none

/-- Reads bytes; `place` is the number of characters in the current group, `left` holds the bits of
the last one that are not used yet, and `pads` counts the padding. -/
def decodeBase64From (place left pads : Nat) : List Char → Option (List UInt8)
  | [] => if place = 0 then some [] else none
  | c :: cs =>
    if c = '=' then
      if place < 2 then decodeBase64From place left pads cs
      else if 4 ≤ place + pads + 1 then some []
      else decodeBase64From place left (pads + 1) cs
    else
      match base64Bits? c with
      | none => decodeBase64From place left pads cs
      | some b =>
        match place with
        | 0 => decodeBase64From 1 b 0 cs
        | 1 => (decodeBase64From 2 (b % 16) 0 cs).map ((left * 4 + b / 16).toUInt8 :: ·)
        | 2 => (decodeBase64From 3 (b % 4) 0 cs).map ((left * 16 + b / 4).toUInt8 :: ·)
        | _ => (decodeBase64From 0 0 0 cs).map ((left * 64 + b).toUInt8 :: ·)

/-- The bytes that a text stands for. -/
def decodeBase64 (cs : List Char) : Option (List UInt8) := decodeBase64From 0 0 0 cs

end PathRouter.Text
