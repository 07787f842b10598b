import GridRobot.Text

/-!
# Text from bytes

Bytes are read as UTF-8. Where they are no UTF-8, the longest piece that starts like a character, or
else a single byte, becomes one replacement character.
-/

namespace GridRobot.Utf8

/-- A character that has begun: the bytes still to come, the range of the next one, and the bits so
far. -/
structure Begun where
  left : Nat
  low : Nat
  high : Nat
  bits : Nat
deriving DecidableEq, Repr

/-- What a byte that starts a character stands for: a whole character, or one that has begun. -/
def start (b : Nat) : Except Char Begun :=
  if b < 0x80 then .error (Char.ofNat b)
  else if 0xc2 ≤ b && b ≤ 0xdf then .ok ⟨1, 0x80, 0xbf, b - 0xc0⟩
  else if b = 0xe0 then .ok ⟨2, 0xa0, 0xbf, 0⟩
  else if b = 0xed then .ok ⟨2, 0x80, 0x9f, 0xd⟩
  else if 0xe1 ≤ b && b ≤ 0xef then .ok ⟨2, 0x80, 0xbf, b - 0xe0⟩
  else if b = 0xf0 then .ok ⟨3, 0x90, 0xbf, 0⟩
  else if b = 0xf4 then .ok ⟨3, 0x80, 0x8f, 4⟩
  else if 0xf1 ≤ b && b ≤ 0xf3 then .ok ⟨3, 0x80, 0xbf, b - 0xf0⟩
  else .error Glyph.replacement

/-- Read bytes, given the character that has begun. -/
def decodeFrom : Option Begun → List UInt8 → List Char
  | none, [] => []
  | some _, [] => [Glyph.replacement]
  | none, b :: bytes =>
    match start b.toNat with
    | .error c => c :: decodeFrom none bytes
    | .ok begun => decodeFrom (some begun) bytes
  | some begun, b :: bytes =>
    if begun.low ≤ b.toNat && b.toNat ≤ begun.high then
      let bits := begun.bits * 64 + (b.toNat - 0x80)
      if begun.left = 1 then Char.ofNat bits :: decodeFrom none bytes
      else decodeFrom (some ⟨begun.left - 1, 0x80, 0xbf, bits⟩) bytes
    else
      match start b.toNat with
      | .error c => Glyph.replacement :: c :: decodeFrom none bytes
      | .ok begun => Glyph.replacement :: decodeFrom (some begun) bytes

/-- The text of bytes. -/
def decode (bytes : List UInt8) : String := String.ofList (decodeFrom none bytes)

end GridRobot.Utf8
