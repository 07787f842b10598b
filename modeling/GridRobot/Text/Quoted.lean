import GridRobot.Text
import GridRobot.Text.Printable

/-!
# Quoted text

Text inside a message stands in single quotes, or in double quotes if it holds a single quote and no
double one. The quote in use, the backslash, the common line controls and all glyphs that are not
printable are written as escapes.
-/

namespace GridRobot.Quoted

/-- The digits of a number in base sixteen, padded with zeros to a width. -/
def hex (width n : Nat) : List Char :=
  let ds := Nat.toDigits 16 n
  List.replicate (width - ds.length) '0' ++ ds

/-- The escape of a glyph that is not printable, by the size of its code point. -/
def escape (n : Nat) : List Char :=
  if n < 0x100 then '\\' :: 'x' :: hex 2 n
  else if n < 0x10000 then '\\' :: 'u' :: hex 4 n
  else '\\' :: 'U' :: hex 8 n

/-- One character between the given quotes. -/
def encodeChar (quote c : Char) : List Char :=
  if c = quote ∨ c = '\\' then ['\\', c]
  else if c = '\n' then ['\\', 'n']
  else if c = '\r' then ['\\', 'r']
  else if c = '\t' then ['\\', 't']
  else if Printable.isPrintable c then [c]
  else escape c.toNat

/-- One glyph between the given quotes. -/
def encodeGlyph (quote : Char) : Glyph → List Char
  | .char c => encodeChar quote c
  | .half index => escape (Glyph.half index).code

/-- The quote for a text: double if it holds single quotes only. -/
def quoteFor (t : Text) : Char :=
  if t.glyphs.contains (.char '\'') && !t.glyphs.contains (.char '"') then '"' else '\''

/-- A text in quotes. -/
def encode (t : Text) : List Char :=
  let quote := quoteFor t
  quote :: (t.glyphs.flatMap (encodeGlyph quote) ++ [quote])

end GridRobot.Quoted
