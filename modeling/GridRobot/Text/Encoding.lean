import GridRobot.Text.Quoted

/-!
# Bytes from text

A text is written in bytes as UTF-8. A half of a character has no bytes, so a text that holds one
cannot be written; the fault tells where the first half stands and how many there are side by side.
In the name of a file some halves are allowed: each stands for a byte that belongs to no character.
-/

namespace GridRobot

/-- Why a text has no bytes: the first half that has none, the glyphs in front of it, and the number
of halves that stand there side by side. -/
structure EncodingFault where
  first : Glyph
  place : Nat
  count : Nat
deriving DecidableEq, Repr

/-- The wording of a fault. -/
def EncodingFault.message (f : EncodingFault) : String :=
  if f.count ≤ 1 then
    let half := String.ofList (Quoted.encode ⟨[f.first]⟩)
    s!"'utf-8' codec can't encode character {half} in position {f.place}: surrogates not allowed"
  else
    let last := f.place + f.count - 1
    s!"'utf-8' codec can't encode characters in position {f.place}-{last}: surrogates not allowed"

namespace Encoding

/-- The bytes of a glyph. -/
def plain : Glyph → Option (List UInt8)
  | .char c => some (String.singleton c).toUTF8.toList
  | .half _ => none

/-- The index of the half that stands for the byte zero, if that byte were allowed. -/
def firstStray : Nat := 0x400

/-- The bytes of a glyph in the name of a file: a half may stand for a byte that is not plain. -/
def fileName : Glyph → Option (List UInt8)
  | .half index =>
    if firstStray + 0x80 ≤ index && index < firstStray + 0x100 then
      some [(index - firstStray).toUInt8]
    else none
  | g => plain g

/-- The bytes of a text, given the bytes of its glyphs. -/
def encode (bytes? : Glyph → Option (List UInt8)) (t : Text) : Except EncodingFault (List UInt8) :=
  match t.glyphs.dropWhile (fun g => (bytes? g).isSome) with
  | [] => .ok (t.glyphs.flatMap (fun g => (bytes? g).getD []))
  | g :: rest =>
    .error ⟨g, t.glyphs.length - (rest.length + 1), (rest.takeWhile (!·.isChar)).length + 1⟩

/-- Every glyph of a whole text has bytes. -/
theorem dropWhile_plain {gs : List Glyph} (h : gs.all Glyph.isChar = true) :
    gs.dropWhile (fun g => (plain g).isSome) = [] := by
  induction gs with
  | nil => rfl
  | cons g gs ih =>
    cases g with
    | char c => exact ih h
    | half index => cases h

end Encoding

/-- The bytes of a text. -/
def Text.bytes (t : Text) : Except EncodingFault (List UInt8) := Encoding.encode Encoding.plain t

/-- A whole text has bytes. -/
theorem Text.isOk_bytes {t : Text} (h : t.isWhole = true) : t.bytes.isOk = true := by
  have hd := Encoding.dropWhile_plain h
  simp [Text.bytes, Encoding.encode, hd, Except.isOk, Except.toBool]

/-- The bytes of a text that is the name of a file. -/
def Text.fileBytes (t : Text) : Except EncodingFault (List UInt8) :=
  Encoding.encode Encoding.fileName t

end GridRobot
