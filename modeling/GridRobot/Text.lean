/-!
# Texts

A text is a row of glyphs. Most are characters; a text that was written with escapes may also hold
half of a surrogate pair that stands alone, which is no character. A text without halves is whole,
and the whole texts are the strings.
-/

namespace GridRobot

/-- A place of a text: a character, or half of a surrogate pair that stands alone. -/
inductive Glyph where
  | char (c : Char)
  | half (index : Fin 2048)
deriving DecidableEq, Repr, Inhabited

namespace Glyph

/-- The code point of the first half. -/
def firstHalf : Nat := 0xd800

/-- The code point of a glyph. -/
def code : Glyph → Nat
  | char c => c.toNat
  | half index => firstHalf + index

/-- The character that stands for what is none. -/
def replacement : Char := Char.ofNat 0xfffd

/-- The glyph with a code point; one that is out of range becomes the replacement character. -/
def ofCode (n : Nat) : Glyph :=
  if n.isValidChar then .char (Char.ofNat n)
  else if h : n - firstHalf < 2048 then .half ⟨n - firstHalf, h⟩
  else .char replacement

/-- The character of a glyph; a half gives the replacement character. -/
def toChar : Glyph → Char
  | char c => c
  | half _ => replacement

/-- The glyphs of characters. -/
def ofChars (cs : List Char) : List Glyph := cs.map char

/-- Is the glyph a character? -/
def isChar : Glyph → Bool
  | char _ => true
  | half _ => false

end Glyph

/-- A text. -/
structure Text where
  glyphs : List Glyph
deriving DecidableEq, Repr, Inhabited

namespace Text

/-- The text of a string. -/
def ofString (s : String) : Text := ⟨s.toList.map .char⟩

instance : Coe String Text := ⟨ofString⟩

/-- The string of a text, with the replacement character for each half. -/
def toString (t : Text) : String := String.ofList (t.glyphs.map Glyph.toChar)

/-- Is the text made of characters only? -/
def isWhole (t : Text) : Bool := t.glyphs.all Glyph.isChar

/-- Has the text no glyphs? -/
def isEmpty (t : Text) : Bool := t.glyphs.isEmpty

/-- Does the text begin with a string? -/
def startsWith (t : Text) (s : String) : Bool := (ofString s).glyphs.isPrefixOf t.glyphs

/-- The string of a text that is whole. -/
def toString? (t : Text) : Option String := if t.isWhole then some t.toString else none

instance : Append Text := ⟨fun s t => ⟨s.glyphs ++ t.glyphs⟩⟩

/-- Texts one after the other. -/
def join (ts : List Text) : Text := ⟨ts.flatMap glyphs⟩

/-- Texts one after the other, with the same text between each two. -/
def intercalate (between : Text) (ts : List Text) : Text :=
  ⟨List.intercalate between.glyphs (ts.map glyphs)⟩

@[simp] theorem glyphs_append (s t : Text) : (s ++ t).glyphs = s.glyphs ++ t.glyphs := rfl

theorem ofString_append (s t : String) : ofString (s ++ t) = ofString s ++ ofString t := by
  show Text.mk _ = Text.mk _
  simp [ofString]

@[simp] theorem toString_ofString (s : String) : (ofString s).toString = s := by
  have : Glyph.toChar ∘ Glyph.char = id := rfl
  simp [toString, ofString, this]

theorem ofString_inj {s t : String} : ofString s = ofString t ↔ s = t :=
  ⟨fun h => by rw [← toString_ofString s, h, toString_ofString], fun h => h ▸ rfl⟩

@[simp] theorem isWhole_ofString (s : String) : (ofString s).isWhole = true := by
  simp [isWhole, ofString, Glyph.isChar]

@[simp] theorem toString?_ofString (s : String) : (ofString s).toString? = some s := by
  simp [toString?]

end Text

end GridRobot
