import GridRobot.Proofs.Number.Numeral
import GridRobot.Value.Source
import Mathlib.Tactic.IntervalCases

/-!
# Tokens

The smallest parts of a written value are read back as they were written, whatever stands behind
them: texts one character after the other, through their escapes, and integers up to the first glyph
that could not be a part of them.

* `text_writeText`: a text of characters is read back;
* `number_int`: an integer that has not too many digits is read back.
-/

namespace GridRobot.Source

/-! ## White space -/

/-- White space and nothing else. -/
def Blank (gap : List Glyph) : Prop := ∀ g ∈ gap, isSpace g = true

instance (gap : List Glyph) : Decidable (Blank gap) := inferInstanceAs (Decidable (∀ g ∈ gap, _))

theorem skip_append {gap : List Glyph} (h : Blank gap) (cs : List Glyph) :
    skip (gap ++ cs) = skip cs := List.dropWhile_append_of_pos h

theorem skip_cons {g : Glyph} (h : isSpace g = false) (cs : List Glyph) :
    skip (g :: cs) = g :: cs := by
  rw [skip, List.dropWhile_cons, if_neg (by simp [h])]

/-! ## Escapes -/

theorem hexValue?_digitChar {d : Nat} (h : d < 16) :
    hexValue? (.char (Nat.digitChar d)) = some d := by
  interval_cases d <;> decide

theorem hex_one {n : Nat} (h : n < 16) : Quoted.hex 1 n = [Nat.digitChar n] := by
  rw [Quoted.hex, Nat.toDigits_of_lt_base h]
  rfl

/-- The last digit stands behind the digits of the rest. -/
theorem hex_succ {width : Nat} (h : 0 < width) (n : Nat) :
    Quoted.hex (width + 1) n = Quoted.hex width (n / 16) ++ [Nat.digitChar (n % 16)] := by
  unfold Quoted.hex
  rw [Nat.toDigits_eq_if (n := n) (by decide)]
  split
  · have hzero : n / 16 = 0 := by omega
    have hlast : n % 16 = n := by omega
    obtain ⟨width, rfl⟩ : ∃ w, width = w + 1 := ⟨width - 1, by omega⟩
    rw [hzero, hlast]
    simp [List.replicate_succ']
  · simp

theorem length_hex_four {n : Nat} (h : n < 0x10000) : (Quoted.hex 4 n).length = 4 := by
  rw [hex_succ (by decide), hex_succ (by decide), hex_succ (by decide), hex_one (by omega)]
  rfl

/-- Four hexadecimal digits are read back. -/
theorem hexFour?_hex {n : Nat} (h : n < 0x10000) :
    hexFour? (Glyph.ofChars (Quoted.hex 4 n)) = some n := by
  rw [hex_succ (by decide), hex_succ (by decide), hex_succ (by decide), hex_one (by omega)]
  simp only [Glyph.ofChars, List.map_cons, List.map_nil, List.cons_append, List.nil_append,
    hexFour?]
  rw [hexValue?_digitChar (by omega), hexValue?_digitChar (by omega),
    hexValue?_digitChar (by omega), hexValue?_digitChar (by omega)]
  simp only [Option.bind_eq_bind, Option.bind_some, Option.some.injEq]
  omega

/-- Four digits are taken off the front of a text. -/
theorem take_drop_hex {n : Nat} (h : n < 0x10000) (tail : List Glyph) :
    hexFour? ((Glyph.ofChars (Quoted.hex 4 n) ++ tail).take 4) = some n ∧
      (Glyph.ofChars (Quoted.hex 4 n) ++ tail).drop 4 = tail := by
  have hlength : (Glyph.ofChars (Quoted.hex 4 n)).length = 4 := by
    rw [Glyph.ofChars, List.length_map, length_hex_four h]
  rw [List.take_left' hlength, List.drop_left' hlength]
  exact ⟨hexFour?_hex h, rfl⟩

/-- One unit that needs no second one. -/
theorem unitEscape_single {n : Nat} (h : n < 0x10000) (hlone : isHighUnit n = false)
    {tail : List Glyph} (htail : tail ≠ []) :
    unitEscape (Glyph.ofChars (Quoted.hex 4 n) ++ tail) = .ok (.ofCode n, tail) := by
  obtain ⟨hunit, hrest⟩ := take_drop_hex h tail
  unfold unitEscape
  rw [hunit, hrest]
  dsimp only
  rw [if_neg (by simpa using htail)]
  split
  · rw [hlone]
    rfl
  · rfl

/-- Two units that make up one character. -/
theorem unitEscape_pair {high low : Nat} (hhigh : isHighUnit high = true)
    (hlow : isLowUnit low = true) {tail : List Glyph} (htail : tail ≠ []) :
    unitEscape (Glyph.ofChars (Quoted.hex 4 high ++ Value.writeUnit low) ++ tail) =
      .ok (joinUnits high low, tail) := by
  have hsize : high < 0x10000 ∧ low < 0x10000 := by
    simp only [isHighUnit, isLowUnit, Bool.and_eq_true, decide_eq_true_eq] at hhigh hlow
    omega
  have hshape : Glyph.ofChars (Quoted.hex 4 high ++ Value.writeUnit low) ++ tail =
      Glyph.ofChars (Quoted.hex 4 high) ++
        (.char '\\' :: .char 'u' :: (Glyph.ofChars (Quoted.hex 4 low) ++ tail)) := by
    simp [Glyph.ofChars, Value.writeUnit]
  rw [hshape]
  obtain ⟨hfirst, hrest⟩ := take_drop_hex hsize.1
    (.char '\\' :: .char 'u' :: (Glyph.ofChars (Quoted.hex 4 low) ++ tail))
  obtain ⟨hsecond, hmore⟩ := take_drop_hex hsize.2 tail
  have hlong : 4 < (Glyph.ofChars (Quoted.hex 4 low) ++ tail).length := by
    have hpos := List.length_pos_iff.2 htail
    rw [List.length_append, Glyph.ofChars, List.length_map, length_hex_four hsize.2]
    omega
  unfold unitEscape
  rw [hfirst, hrest]
  simp only [List.isEmpty_cons, Bool.false_eq_true, if_false, hhigh, hlong, decide_true,
    Bool.and_self, if_true, hsecond, hlow, hmore]

/-! ## Texts -/

theorem ofCode_toNat (c : Char) : Glyph.ofCode c.toNat = .char c := by
  have hvalid : c.toNat.isValidChar := c.valid
  rw [Glyph.ofCode, if_pos hvalid, Char.ofNat_toNat]

theorem readText_unit (opening : List Glyph) (g : Glyph) (steps seen cs : List Glyph) {d : Glyph}
    {rest : List Glyph} (h : unitEscape cs = .ok (d, rest)) :
    readText opening (g :: steps) seen (.char '\\' :: .char 'u' :: cs) =
      readText opening steps (d :: seen) rest := by
  rw [readText, if_neg (by decide), if_neg (by decide), if_pos rfl, h]

theorem readText_quote (opening : List Glyph) (g : Glyph) (steps seen cs : List Glyph) :
    readText opening (g :: steps) seen (.char '"' :: cs) = .ok (⟨seen.reverse⟩, cs) := by
  rw [readText.eq_def]
  exact if_pos rfl

theorem readText_plain (opening : List Glyph) (g : Glyph) (steps seen cs : List Glyph) {c : Char}
    (hquote : c ≠ '"') (hslash : c ≠ '\\') (hcode : 0x20 ≤ c.toNat) :
    readText opening (g :: steps) seen (.char c :: cs) =
      readText opening steps (.char c :: seen) cs := by
  have hcode : ¬ (Glyph.char c).code < 0x20 := Nat.not_lt.2 hcode
  rw [readText.eq_def]
  dsimp only
  rw [if_neg (by simpa using hquote), if_neg hcode, if_neg (by simpa using hslash)]

theorem readText_letter (opening : List Glyph) (g : Glyph) (steps seen cs : List Glyph) {e c : Char}
    (hunit : e ≠ 'u') (hletter : letterEscape? (.char e) = some c) :
    readText opening (g :: steps) seen (.char '\\' :: .char e :: cs) =
      readText opening steps (.char c :: seen) cs := by
  rw [readText, if_neg (by decide), if_neg (by decide), if_pos rfl, hletter]
  simpa using hunit

/-- A pair of units is read as the one character that it stands for. -/
theorem readText_pair (opening : List Glyph) (g : Glyph) (steps seen : List Glyph) {high low : Nat}
    (hhigh : isHighUnit high = true) (hlow : isLowUnit low = true) {tail : List Glyph}
    (htail : tail ≠ []) :
    readText opening (g :: steps) seen
        (Glyph.ofChars (Value.writeUnit high ++ Value.writeUnit low) ++ tail) =
      readText opening steps (joinUnits high low :: seen) tail :=
  readText_unit opening g steps seen _ (unitEscape_pair hhigh hlow htail)

/-- How a character is written: by a letter behind a backslash, as it is, as one unit or as two. -/
theorem writeChar_cases (c : Char) :
    (∃ e, Value.writeChar c = ['\\', e] ∧ e ≠ 'u' ∧ letterEscape? (.char e) = some c) ∨
      (Value.writeChar c = [c] ∧ c ≠ '"' ∧ c ≠ '\\' ∧ 0x20 ≤ c.toNat) ∨
      (Value.writeChar c = Value.writeUnit c.toNat ∧ c.toNat < 0x10000) ∨
      Value.writeChar c = Value.writeUnit (0xd800 + (c.toNat - 0x10000) / 0x400) ++
        Value.writeUnit (0xdc00 + (c.toNat - 0x10000) % 0x400) ∧ 0x10000 ≤ c.toNat := by
  unfold Value.writeChar
  by_cases hquote : c = '"'
  · exact Or.inl ⟨'"', if_pos hquote, by decide, by rw [hquote]; rfl⟩
  rw [if_neg hquote]
  by_cases hslash : c = '\\'
  · exact Or.inl ⟨'\\', if_pos hslash, by decide, by rw [hslash]; rfl⟩
  rw [if_neg hslash]
  by_cases hline : c = '\n'
  · exact Or.inl ⟨'n', if_pos hline, by decide, by rw [hline]; rfl⟩
  rw [if_neg hline]
  by_cases hreturn : c = '\r'
  · exact Or.inl ⟨'r', if_pos hreturn, by decide, by rw [hreturn]; rfl⟩
  rw [if_neg hreturn]
  by_cases htab : c = '\t'
  · exact Or.inl ⟨'t', if_pos htab, by decide, by rw [htab]; rfl⟩
  rw [if_neg htab]
  by_cases hfeed : c = '\x0c'
  · exact Or.inl ⟨'f', if_pos hfeed, by decide, by rw [hfeed]; rfl⟩
  rw [if_neg hfeed]
  by_cases hback : c = '\x08'
  · exact Or.inl ⟨'b', if_pos hback, by decide, by rw [hback]; rfl⟩
  rw [if_neg hback]
  by_cases hplain : 0x20 ≤ c.toNat ∧ c.toNat < 0x7f
  · exact Or.inr (Or.inl ⟨if_pos hplain, hquote, hslash, hplain.1⟩)
  rw [if_neg hplain]
  by_cases hshort : c.toNat < 0x10000
  · exact Or.inr (Or.inr (Or.inl ⟨if_pos hshort, hshort⟩))
  · exact Or.inr (Or.inr (Or.inr ⟨if_neg hshort, Nat.not_lt.1 hshort⟩))

/-- A character is read back in one step. -/
theorem readText_writeChar (opening : List Glyph) (g : Glyph) (steps seen : List Glyph) (c : Char)
    {tail : List Glyph} (htail : tail ≠ []) :
    readText opening (g :: steps) seen (Glyph.ofChars (Value.writeChar c) ++ tail) =
      readText opening steps (.char c :: seen) tail := by
  -- no character is half of a pair, so one unit is never taken for the first of two
  have hvalid : c.toNat < 0xd800 ∨ 0xdfff < c.toNat ∧ c.toNat < 0x110000 := c.valid
  rcases writeChar_cases c with ⟨e, hwrite, hunit, hletter⟩ | ⟨hwrite, hquote, hslash, hcode⟩ |
    ⟨hwrite, hshort⟩ | ⟨hwrite, hlong⟩
  · rw [hwrite]
    exact readText_letter opening g steps seen tail hunit hletter
  · rw [hwrite]
    exact readText_plain opening g steps seen tail hquote hslash hcode
  · have hlone : isHighUnit c.toNat = false := by
      simp only [isHighUnit, Bool.and_eq_false_iff, decide_eq_false_iff_not]
      omega
    rw [hwrite, ← ofCode_toNat c]
    exact readText_unit opening g steps seen _ (unitEscape_single hshort hlone htail)
  · have hhigh : isHighUnit (0xd800 + (c.toNat - 0x10000) / 0x400) = true := by
      simp only [isHighUnit, Bool.and_eq_true, decide_eq_true_eq]
      omega
    have hlow : isLowUnit (0xdc00 + (c.toNat - 0x10000) % 0x400) = true := by
      simp only [isLowUnit, Bool.and_eq_true, decide_eq_true_eq]
      omega
    have hjoin : joinUnits (0xd800 + (c.toNat - 0x10000) / 0x400)
        (0xdc00 + (c.toNat - 0x10000) % 0x400) = .char c := by
      rw [joinUnits, ← ofCode_toNat]
      exact congrArg Glyph.ofCode (by omega)
    rw [hwrite, ← hjoin]
    exact readText_pair opening g steps seen hhigh hlow htail

/-- The characters of a text are read back one after the other, up to its closing quote. -/
theorem readText_writeChars (opening steps seen : List Glyph) (cs : List Char) (rest : List Glyph)
    (hsteps : cs.length < steps.length) :
    readText opening steps seen
        (Glyph.ofChars (cs.flatMap Value.writeChar) ++ .char '"' :: rest) =
      .ok (⟨seen.reverse ++ Glyph.ofChars cs⟩, rest) := by
  induction cs generalizing steps seen with
  | nil =>
    obtain ⟨g, steps, rfl⟩ := List.exists_cons_of_length_pos hsteps
    rw [List.flatMap_nil, Glyph.ofChars, List.map_nil, List.nil_append, readText_quote,
      List.append_nil]
  | cons c cs ih =>
    obtain ⟨g, steps, rfl⟩ := List.exists_cons_of_length_pos (Nat.zero_lt_of_lt hsteps)
    have hsplit : Glyph.ofChars ((c :: cs).flatMap Value.writeChar) ++ .char '"' :: rest =
        Glyph.ofChars (Value.writeChar c) ++
          (Glyph.ofChars (cs.flatMap Value.writeChar) ++ .char '"' :: rest) := by
      simp [Glyph.ofChars]
    rw [hsplit, readText_writeChar opening g steps seen c (by simp),
      ih steps (.char c :: seen) (Nat.lt_of_succ_lt_succ hsteps)]
    simp [Glyph.ofChars]

theorem writeChar_ne_nil (c : Char) : Value.writeChar c ≠ [] := by
  rcases writeChar_cases c with ⟨e, hwrite, -⟩ | ⟨hwrite, -⟩ | ⟨hwrite, -⟩ | ⟨hwrite, -⟩ <;>
    rw [hwrite] <;> exact List.cons_ne_nil _ _

theorem length_le_flatMap_writeChar (cs : List Char) :
    cs.length ≤ (cs.flatMap Value.writeChar).length := by
  induction cs with
  | nil => exact Nat.le_refl 0
  | cons c cs ih =>
    have hpos := List.length_pos_iff.2 (writeChar_ne_nil c)
    rw [List.flatMap_cons, List.length_append, List.length_cons]
    omega

/-- A whole text has characters only. -/
theorem exists_chars {t : Text} (h : t.isWhole = true) : ∃ cs, t = ⟨Glyph.ofChars cs⟩ := by
  obtain ⟨gs⟩ := t
  have hall : ∀ g ∈ gs, Glyph.isChar g = true := List.all_eq_true.1 h
  refine ⟨gs.map Glyph.toChar, ?_⟩
  rw [Glyph.ofChars, List.map_map, List.map_congr_left (g := id), List.map_id]
  intro g hg
  cases g with
  | char c => rfl
  | half index => cases hall _ hg

/-- A text of characters is read back. -/
theorem text_writeText {t : Text} (h : t.isWhole = true) (rest : List Glyph) :
    ∃ cs, Value.writeText t = .char '"' :: cs ∧ text (cs ++ rest) = .ok (t, rest) := by
  obtain ⟨cs, rfl⟩ := exists_chars h
  refine ⟨Glyph.ofChars (cs.flatMap Value.writeChar) ++ [.char '"'], ?_, ?_⟩
  · simp [Value.writeText, Glyph.ofChars, List.flatMap_map, Value.writeGlyph]
  · rw [List.append_assoc]
    refine readText_writeChars _ _ [] cs rest ?_
    have hlength := length_le_flatMap_writeChar cs
    simp only [Glyph.ofChars, List.length_cons, List.length_append, List.length_map]
    omega

/-! ## Integers -/

/-- Can the glyph not be a part of a number that is being read? -/
def endsNumber (g : Glyph) : Bool :=
  !isDigit g && g ≠ .char '.' && g ≠ .char 'e' && g ≠ .char 'E'

/-- A text that cannot go on with a number in front of it. -/
def Ends (rest : List Glyph) : Prop := ∀ g ∈ rest.head?, endsNumber g = true

theorem Ends.cons {g : Glyph} (h : endsNumber g = true) (rest : List Glyph) : Ends (g :: rest) := by
  intro g' hg'
  cases hg'
  exact h

/-- A number ends where no digit follows. -/
theorem Ends.takeWhile_isDigit {rest : List Glyph} (h : Ends rest) :
    rest.takeWhile isDigit = [] ∧ rest.dropWhile isDigit = rest := by
  cases rest with
  | nil => exact ⟨rfl, rfl⟩
  | cons g rest =>
    have hg : endsNumber g = true := h g rfl
    have hdigit : isDigit g = false := by
      simp only [endsNumber, Bool.and_eq_true, Bool.not_eq_true'] at hg
      exact hg.1.1.1
    rw [List.takeWhile_cons, List.dropWhile_cons, hdigit]
    exact ⟨rfl, rfl⟩

theorem Ends.fraction_eq {rest : List Glyph} (h : Ends rest) : fraction rest = ([], rest) := by
  unfold fraction
  split
  · have hpoint := h _ rfl
    simp [endsNumber] at hpoint
  · rfl

theorem Ends.exponent_eq {rest : List Glyph} (h : Ends rest) : exponent rest = (none, rest) := by
  unfold exponent
  split
  · rfl
  · have hletter := h _ rfl
    simp only [endsNumber, Bool.and_eq_true, decide_eq_true_eq] at hletter
    rw [if_neg (not_or.2 ⟨hletter.1.2, hletter.2⟩)]

theorem isDigit_of_mem_toDigits {n : Nat} {c : Char} (h : c ∈ Nat.toDigits 10 n) :
    isDigit (.char c) = true := by
  have hc := Nat.isDigit_of_mem_toDigits (by decide) (by decide) h
  simpa [isDigit, Char.isDigit, Char.le_def] using hc

theorem exists_toDigits (n : Nat) :
    ∃ c cs, Nat.toDigits 10 n = c :: cs ∧ isDigit (.char c) = true := by
  obtain ⟨c, cs, hcs⟩ := List.exists_cons_of_ne_nil (Nat.toDigits_ne_nil (n := n) (b := 10))
  exact ⟨c, cs, hcs, isDigit_of_mem_toDigits (hcs ▸ List.mem_cons_self)⟩

/-- Only zero is written with a zero in front. -/
theorem head_toDigits_ne {n : Nat} (h : 0 < n) : (Nat.toDigits 10 n).head? ≠ some '0' := by
  induction n using Nat.strongRecOn with
  | _ n ih =>
    rw [Nat.toDigits_eq_if (by decide)]
    split
    · interval_cases n <;> decide
    · obtain ⟨c, cs, hcs, -⟩ := exists_toDigits (n / 10)
      have hhead := ih (n / 10) (by omega) (by omega)
      rw [hcs] at hhead ⊢
      exact hhead

/-- The digits of a number are read as that number. -/
theorem natural_toDigits (n : Nat) : natural (Glyph.ofChars (Nat.toDigits 10 n)) = n := by
  rw [natural, Glyph.ofChars, List.foldl_map]
  exact Nat.ofDigitChars_toDigits (by decide) (by decide)

theorem whole_toDigits (n : Nat) {rest : List Glyph} (h : Ends rest) :
    whole (Glyph.ofChars (Nat.toDigits 10 n) ++ rest) =
      (Glyph.ofChars (Nat.toDigits 10 n), rest) := by
  rcases Nat.eq_zero_or_pos n with rfl | hpos
  · rfl
  · have hall : ∀ g ∈ Glyph.ofChars (Nat.toDigits 10 n), isDigit g = true := by
      intro g hg
      obtain ⟨c, hc, rfl⟩ := List.mem_map.1 hg
      exact isDigit_of_mem_toDigits hc
    obtain ⟨hnone, hrest⟩ := h.takeWhile_isDigit
    unfold whole
    split
    · next cs hcs =>
      obtain ⟨c, ds, hds, -⟩ := exists_toDigits n
      have hhead := head_toDigits_ne hpos
      rw [hds] at hcs hhead
      cases hcs
      exact absurd rfl hhead
    · rw [List.takeWhile_append_of_pos hall, List.dropWhile_append_of_pos hall, hnone, hrest,
        List.append_nil]

/-- A magnitude that is not too long is read back. -/
theorem magnitude_toDigits (negative : Bool) {n : Nat} (hlength : (Nat.toDigits 10 n).length ≤ 4300)
    {rest : List Glyph} (h : Ends rest) :
    magnitude negative (Glyph.ofChars (Nat.toDigits 10 n) ++ rest) =
      some (.ok (.int (if negative then -(n : Int) else (n : Int))), rest) := by
  have hsome : (Glyph.ofChars (Nat.toDigits 10 n)).isEmpty = false := by
    obtain ⟨c, cs, hcs, -⟩ := exists_toDigits n
    rw [hcs]
    rfl
  have hfew : ¬ 4300 < (Glyph.ofChars (Nat.toDigits 10 n)).length := by
    rw [Glyph.ofChars, List.length_map]
    exact Nat.not_lt.2 hlength
  unfold magnitude
  rw [whole_toDigits n h]
  dsimp only
  rw [hsome, h.fraction_eq]
  dsimp only
  rw [h.exponent_eq]
  dsimp only
  rw [if_neg Bool.false_ne_true, if_pos (by rfl), if_neg hfew, natural_toDigits]

theorem number_minus {cs rest : List Glyph} {v : Value}
    (h : magnitude true cs = some (.ok v, rest)) : number (.char '-' :: cs) = .ok (v, rest) := by
  unfold number
  simp only [h]

theorem number_digit {g : Glyph} (hg : isDigit g = true) {cs rest : List Glyph} {v : Value}
    (h : magnitude false (g :: cs) = some (.ok v, rest)) : number (g :: cs) = .ok (v, rest) := by
  unfold number
  split
  · next heq =>
    cases heq
    cases hg
  · rw [h]

/-- An integer that has not too many digits is read back. -/
theorem number_int {n : Int} (hlength : (Nat.toDigits 10 n.natAbs).length ≤ 4300)
    {rest : List Glyph} (h : Ends rest) :
    number (Glyph.ofChars (toString n).toList ++ rest) = .ok (.int n, rest) := by
  rw [Numeral.toList_toString]
  by_cases hneg : n < 0
  · have hvalue : -(n.natAbs : Int) = n := by omega
    have hmagnitude := magnitude_toDigits true hlength h
    rw [if_pos rfl, hvalue] at hmagnitude
    rw [if_pos hneg]
    exact number_minus hmagnitude
  · have hvalue : (n.natAbs : Int) = n := by omega
    have hmagnitude := magnitude_toDigits false hlength h
    obtain ⟨c, cs, hcs, hc⟩ := exists_toDigits n.natAbs
    rw [if_neg Bool.false_ne_true, hvalue, hcs] at hmagnitude
    rw [if_neg hneg, List.nil_append, hcs]
    exact number_digit hc hmagnitude

end GridRobot.Source
