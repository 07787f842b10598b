import GridRobot.Proofs.Value.Token

/-!
# Spellings

The notation as a relation between values and texts, with white space between any two tokens. Only
floating-point numbers are left out.

* `document_of_spelling`: every spelling is read as the value that it spells;
* `spelling_write`: what the writer puts down is a spelling, in every style that indents by white
  space.
-/

namespace GridRobot

namespace Source

/-! ## The relation -/

mutual
/-- The glyphs spell a value, and there is room for the levels of its lists and records. -/
inductive Spelling : (room : Nat) → Value → List Glyph → Prop
  | null {room : Nat} : Spelling room .null (Glyph.ofChars "null".toList)
  | bool {room : Nat} (b : Bool) : Spelling room (.bool b) (Glyph.ofChars (toString b).toList)
  | int {room : Nat} {n : Int} (hlength : (Nat.toDigits 10 n.natAbs).length ≤ 4300) :
      Spelling room (.int n) (Glyph.ofChars (toString n).toList)
  | text {room : Nat} {t : Text} (hwhole : t.isWhole = true) :
      Spelling room (.text t) (Value.writeText t)
  | noItems {room : Nat} {gap : List Glyph} (hgap : Blank gap) :
      Spelling (room + 1) (.list []) (.char '[' :: (gap ++ [.char ']']))
  | items {room : Nat} {vs : List Value} {gap cs : List Glyph} (hgap : Blank gap)
      (hitems : ItemsSpelling room vs cs) :
      Spelling (room + 1) (.list vs) (.char '[' :: (gap ++ cs))
  | noFields {room : Nat} {gap : List Glyph} (hgap : Blank gap) :
      Spelling (room + 1) (.record []) (.char '\x7b' :: (gap ++ [.char '\x7d']))
  | fields {room : Nat} {fs : List (Text × Value)} {gap cs : List Glyph} (hgap : Blank gap)
      (hfields : FieldsSpelling room fs cs) :
      Spelling (room + 1) (.record fs) (.char '\x7b' :: (gap ++ cs))

/-- The glyphs spell the items of a list, up to its closing bracket. -/
inductive ItemsSpelling : (room : Nat) → List Value → List Glyph → Prop
  | last {room : Nat} {v : Value} {cs gap : List Glyph} (hvalue : Spelling room v cs)
      (hgap : Blank gap) : ItemsSpelling room [v] (cs ++ (gap ++ [.char ']']))
  | more {room : Nat} {v : Value} {vs : List Value} {cs before after ds : List Glyph}
      (hvalue : Spelling room v cs) (hbefore : Blank before) (hafter : Blank after)
      (hrest : ItemsSpelling room vs ds) :
      ItemsSpelling room (v :: vs) (cs ++ (before ++ .char ',' :: (after ++ ds)))

/-- The glyphs spell the fields of a record, up to its closing brace; every key stands once. -/
inductive FieldsSpelling : (room : Nat) → List (Text × Value) → List Glyph → Prop
  | last {room : Nat} {key : Text} {v : Value} {a b cs gap : List Glyph}
      (hkey : key.isWhole = true) (ha : Blank a) (hb : Blank b) (hvalue : Spelling room v cs)
      (hgap : Blank gap) :
      FieldsSpelling room [(key, v)]
        (Value.writeText key ++ (a ++ .char ':' :: (b ++ (cs ++ (gap ++ [.char '\x7d'])))))
  | more {room : Nat} {key : Text} {v : Value} {fs : List (Text × Value)}
      {a b cs before after ds : List Glyph} (hkey : key.isWhole = true) (ha : Blank a)
      (hb : Blank b) (hvalue : Spelling room v cs) (hbefore : Blank before) (hafter : Blank after)
      (hnew : key ∉ fs.map Prod.fst) (hrest : FieldsSpelling room fs ds) :
      FieldsSpelling room ((key, v) :: fs)
        (Value.writeText key ++
          (a ++ .char ':' :: (b ++ (cs ++ (before ++ .char ',' :: (after ++ ds))))))
end

/-! ## First glyphs -/

/-- The glyphs that a spelling can start with. -/
def opensValue (g : Glyph) : Bool :=
  isDigit g || ['"', '[', '\x7b', '-', 'n', 't', 'f'].any (g = .char ·)

/-- A text that starts like a spelling. -/
def Opens (cs : List Glyph) : Prop := ∃ g gs, cs = g :: gs ∧ opensValue g = true

/-- What opens a value is no white space. -/
theorem not_isSpace_of_opensValue {g : Glyph} (h : opensValue g = true) : isSpace g = false := by
  cases g with
  | half index => rfl
  | char c =>
    by_contra hspace
    simp only [isSpace, Bool.not_eq_false, Bool.or_eq_true, beq_iff_eq] at hspace
    rcases hspace with ((rfl | rfl) | rfl) | rfl <;> exact absurd h (by decide)

theorem opens_int (n : Int) : Opens (Glyph.ofChars (toString n).toList) := by
  obtain ⟨c, cs, hcs, hc⟩ := exists_toDigits n.natAbs
  rw [Numeral.toList_toString, hcs]
  by_cases hneg : n < 0
  · rw [if_pos hneg]
    exact ⟨_, _, rfl, by decide⟩
  · rw [if_neg hneg]
    exact ⟨_, _, rfl, by rw [opensValue, hc, Bool.true_or]⟩

/-- Every spelling begins like a value. -/
theorem Spelling.opens {room : Nat} {v : Value} {cs : List Glyph} (h : Spelling room v cs) :
    Opens cs := by
  cases h with
  | null => exact ⟨_, _, rfl, by decide⟩
  | bool b => cases b <;> exact ⟨_, _, rfl, by decide⟩
  | int => exact opens_int _
  | _ => exact ⟨_, _, rfl, by decide⟩

theorem ItemsSpelling.opens {room : Nat} {vs : List Value} {cs : List Glyph}
    (h : ItemsSpelling room vs cs) : Opens cs := by
  cases h with
  | last hvalue | more hvalue =>
    obtain ⟨g, gs, rfl, hg⟩ := hvalue.opens
    exact ⟨g, _, rfl, hg⟩

theorem FieldsSpelling.opens {room : Nat} {fs : List (Text × Value)} {cs : List Glyph}
    (h : FieldsSpelling room fs cs) : Opens cs := by
  cases h <;> exact ⟨_, _, rfl, by decide⟩

theorem Opens.append {cs : List Glyph} (h : Opens cs) (rest : List Glyph) : Opens (cs ++ rest) := by
  obtain ⟨g, gs, rfl, hg⟩ := h
  exact ⟨g, gs ++ rest, rfl, hg⟩

/-- Only the white space in front of a value is skipped. -/
theorem Opens.skip_eq {cs : List Glyph} (h : Opens cs) {gap : List Glyph} (hgap : Blank gap) :
    skip (gap ++ cs) = cs := by
  obtain ⟨g, gs, rfl, hg⟩ := h
  rw [skip_append hgap, skip_cons (not_isSpace_of_opensValue hg)]

theorem Opens.ne_cons {cs : List Glyph} (h : Opens cs) {g : Glyph} (hg : opensValue g = false)
    (tail : List Glyph) : cs ≠ g :: tail := by
  rintro rfl
  obtain ⟨g', gs, heq, hg'⟩ := h
  cases heq
  exact absurd hg' (by simp [hg])

/-! ## One step of the reader -/

theorem ne_of_isDigit {g : Glyph} (hg : isDigit g = true) {c : Char}
    (hc : isDigit (.char c) = false) : Glyph.char c ≠ g := by
  rintro rfl
  exact absurd hg (by simp [hc])

/-- No word starts with a digit, not even behind a sign. -/
theorem word?_digit {g : Glyph} (hg : isDigit g = true) (cs : List Glyph) :
    word? (g :: cs) = none ∧ word? (.char '-' :: g :: cs) = none := by
  have hn : Glyph.char 'n' ≠ g := ne_of_isDigit hg (by decide)
  have ht : Glyph.char 't' ≠ g := ne_of_isDigit hg (by decide)
  have hf : Glyph.char 'f' ≠ g := ne_of_isDigit hg (by decide)
  have hN : Glyph.char 'N' ≠ g := ne_of_isDigit hg (by decide)
  have hI : Glyph.char 'I' ≠ g := ne_of_isDigit hg (by decide)
  have hminus : Glyph.char '-' ≠ g := ne_of_isDigit hg (by decide)
  simp [word?, words, Text.ofString, after?, hn, ht, hf, hN, hI, hminus]

theorem value_number (fuel room : Nat) {g : Glyph} {cs : List Glyph} (hquote : .char '"' ≠ g)
    (hbracket : .char '[' ≠ g) (hbrace : .char '\x7b' ≠ g) (hword : word? (g :: cs) = none) :
    value (fuel + 1) room (g :: cs) = number (g :: cs) := by
  rw [value, hword]
  · rintro rest ⟨⟩
    exact hquote rfl
  · rintro rest ⟨⟩
    exact hbracket rfl
  · rintro rest ⟨⟩
    exact hbrace rfl

/-- A written integer is read as a number, not as a word. -/
theorem value_int (fuel room : Nat) (n : Int) (rest : List Glyph) :
    value (fuel + 1) room (Glyph.ofChars (toString n).toList ++ rest) =
      number (Glyph.ofChars (toString n).toList ++ rest) := by
  obtain ⟨c, cs, hcs, hc⟩ := exists_toDigits n.natAbs
  obtain ⟨hplain, hsigned⟩ := word?_digit hc (Glyph.ofChars cs ++ rest)
  rw [Numeral.toList_toString, hcs]
  by_cases hneg : n < 0
  · rw [if_pos hneg]
    exact value_number fuel room (by decide) (by decide) (by decide) hsigned
  · rw [if_neg hneg]
    exact value_number fuel room (ne_of_isDigit hc (by decide)) (ne_of_isDigit hc (by decide))
      (ne_of_isDigit hc (by decide)) hplain

theorem value_text (fuel room : Nat) {t : Text} (h : t.isWhole = true) (rest : List Glyph) :
    value (fuel + 1) room (Value.writeText t ++ rest) = .ok (.text t, rest) := by
  obtain ⟨cs, hcs, htext⟩ := text_writeText h rest
  rw [hcs, List.cons_append, value, htext]
  rfl

theorem value_noItems (fuel room : Nat) {cs rest : List Glyph}
    (h : skip cs = .char ']' :: rest) :
    value (fuel + 1) (room + 1) (.char '[' :: cs) = .ok (.list [], rest) := by
  rw [value, h]
  rfl

theorem value_items {fuel room : Nat} {cs ds rest : List Glyph} {vs : List Value}
    (hskip : skip cs = ds) (hopens : Opens ds) (h : items fuel room ds = .ok (vs, rest)) :
    value (fuel + 1) (room + 1) (.char '[' :: cs) = .ok (.list vs, rest) := by
  rw [value, hskip]
  split
  · exact absurd rfl (hopens.ne_cons (by decide) _)
  · rw [h]
    rfl

theorem value_noFields (fuel room : Nat) {cs rest : List Glyph}
    (h : skip cs = .char '\x7d' :: rest) :
    value (fuel + 1) (room + 1) (.char '\x7b' :: cs) = .ok (.record [], rest) := by
  rw [value, h]
  rfl

theorem value_fields {fuel room : Nat} {cs ds rest : List Glyph} {fs : List (Text × Value)}
    (hskip : skip cs = ds) (hopens : Opens ds) (h : fields fuel room [] ds = .ok (fs, rest)) :
    value (fuel + 1) (room + 1) (.char '\x7b' :: cs) = .ok (.record fs, rest) := by
  rw [value, hskip]
  split
  · exact absurd rfl (hopens.ne_cons (by decide) _)
  · rw [h]
    rfl

theorem items_last {fuel room : Nat} {cs rest rest' : List Glyph} {v : Value}
    (hvalue : value fuel room cs = .ok (v, rest)) (hskip : skip rest = .char ']' :: rest') :
    items (fuel + 1) room cs = .ok ([v], rest') := by
  rw [items, hvalue]
  dsimp only
  rw [hskip]
  rfl

/-- An item with a comma behind it is followed by the others. -/
theorem items_more {fuel room : Nat} {cs rest rest' rest'' : List Glyph} {v : Value}
    {vs : List Value} (hvalue : value fuel room cs = .ok (v, rest))
    (hskip : skip rest = .char ',' :: rest')
    (hitems : items fuel room (skip rest') = .ok (vs, rest'')) :
    items (fuel + 1) room cs = .ok (v :: vs, rest'') := by
  rw [items, hvalue]
  dsimp only
  rw [hskip]
  show (items fuel room (skip rest')).map _ = _
  rw [hitems]
  rfl

theorem fields_last {fuel room : Nat} {seen : List (Text × Value)} {key : Text} {v : Value}
    {cs rest rest' rest'' : List Glyph} (hkey : key.isWhole = true)
    (hcolon : skip cs = .char ':' :: rest) (hvalue : value fuel room (skip rest) = .ok (v, rest'))
    (hclose : skip rest' = .char '\x7d' :: rest'') :
    fields (fuel + 1) room seen (Value.writeText key ++ cs) =
      .ok (Value.setField key v seen, rest'') := by
  obtain ⟨ds, hds, htext⟩ := text_writeText hkey cs
  rw [hds, List.cons_append, fields, htext]
  simp only [hcolon, hvalue, hclose]

/-- A field with a comma behind it is followed by the others. -/
theorem fields_more {fuel room : Nat} {seen : List (Text × Value)} {key : Text} {v : Value}
    {cs rest rest' rest'' : List Glyph} (hkey : key.isWhole = true)
    (hcolon : skip cs = .char ':' :: rest) (hvalue : value fuel room (skip rest) = .ok (v, rest'))
    (hcomma : skip rest' = .char ',' :: rest'') :
    fields (fuel + 1) room seen (Value.writeText key ++ cs) =
      fields fuel room (Value.setField key v seen) (skip rest'') := by
  obtain ⟨ds, hds, htext⟩ := text_writeText hkey cs
  rw [hds, List.cons_append, fields, htext]
  simp only [hcolon, hvalue, hcomma]

/-- A field with a new name comes last. -/
theorem setField_new {key : Text} {seen : List (Text × Value)} (v : Value)
    (h : key ∉ seen.map Prod.fst) : Value.setField key v seen = seen ++ [(key, v)] := by
  induction seen with
  | nil => rfl
  | cons entry seen ih =>
    obtain ⟨k, w⟩ := entry
    rw [List.map_cons, List.mem_cons, not_or] at h
    rw [Value.setField, if_neg (Ne.symm h.1), ih h.2]
    rfl

/-! ## Reading -/

/-- With so much fuel every spelling is read that is not too long for it. A value takes a step, and
so does the rest of the list or record that it stands in, so each glyph needs fuel for two. -/
structure Reads (fuel : Nat) : Prop where
  ofValue {room : Nat} {v : Value} {cs rest : List Glyph} (h : Spelling room v cs)
    (hends : Ends rest) (hfuel : 2 * (cs ++ rest).length ≤ fuel) :
    value fuel room (cs ++ rest) = .ok (v, rest)
  ofItems {room : Nat} {vs : List Value} {cs : List Glyph} (h : ItemsSpelling room vs cs)
    (rest : List Glyph) (hfuel : 2 * (cs ++ rest).length < fuel) :
    items fuel room (cs ++ rest) = .ok (vs, rest)
  ofFields {room : Nat} {fs seen : List (Text × Value)} {cs : List Glyph}
    (h : FieldsSpelling room fs cs) (rest : List Glyph)
    (hnew : ∀ key ∈ fs.map Prod.fst, key ∉ seen.map Prod.fst)
    (hfuel : 2 * (cs ++ rest).length < fuel) :
    fields fuel room seen (cs ++ rest) = .ok (seen ++ fs, rest)

theorem reads_zero : Reads 0 where
  ofValue h hends hfuel := by
    obtain ⟨g, gs, rfl, -⟩ := h.opens
    simp at hfuel
  ofItems h rest hfuel := absurd hfuel (Nat.not_lt_zero _)
  ofFields h rest hnew hfuel := absurd hfuel (Nat.not_lt_zero _)

theorem skip_blank {gap : List Glyph} (hgap : Blank gap) {g : Glyph} (hg : isSpace g = false)
    (rest : List Glyph) : skip (gap ++ g :: rest) = g :: rest := by
  rw [skip_append hgap, skip_cons hg]

theorem endsNumber_of_isSpace {g : Glyph} (h : isSpace g = true) : endsNumber g = true := by
  cases g with
  | half index => cases h
  | char c =>
    simp only [isSpace, Bool.or_eq_true, beq_iff_eq] at h
    rcases h with ((rfl | rfl) | rfl) | rfl <;> decide

/-- White space and what ends a number end it. -/
theorem ends_blank {gap : List Glyph} (hgap : Blank gap) {g : Glyph} (hg : endsNumber g = true)
    (rest : List Glyph) : Ends (gap ++ g :: rest) := by
  cases gap with
  | nil => exact .cons hg rest
  | cons s gap => exact .cons (endsNumber_of_isSpace (hgap s List.mem_cons_self)) _

variable {fuel room : Nat} {rest : List Glyph}

/-- With one more step of fuel, a spelling of a value is read. -/
theorem Reads.value_succ (hreads : Reads fuel) {v : Value} {cs : List Glyph}
    (h : Spelling room v cs) (hends : Ends rest) (hfuel : 2 * (cs ++ rest).length ≤ fuel + 1) :
    value (fuel + 1) room (cs ++ rest) = .ok (v, rest) := by
  cases h with
  | null => rfl
  | bool b => cases b <;> rfl
  | int hlength =>
    rw [value_int]
    exact number_int hlength hends
  | text hwhole => exact value_text fuel room hwhole rest
  | noItems hgap =>
    rw [List.cons_append, List.append_assoc]
    exact value_noItems fuel _ (skip_blank hgap (by decide) rest)
  | @items room vs gap cs hgap hitems =>
    have hopens := hitems.opens.append rest
    rw [List.cons_append, List.append_assoc] at hfuel ⊢
    refine value_items (hopens.skip_eq hgap) hopens (hreads.ofItems hitems rest ?_)
    rw [List.length_cons, List.length_append] at hfuel
    omega
  | noFields hgap =>
    rw [List.cons_append, List.append_assoc]
    exact value_noFields fuel _ (skip_blank hgap (by decide) rest)
  | @fields room fs gap cs hgap hfields =>
    have hopens := hfields.opens.append rest
    rw [List.cons_append, List.append_assoc] at hfuel ⊢
    refine value_fields (hopens.skip_eq hgap) hopens
      (hreads.ofFields hfields rest (fun _ _ => List.not_mem_nil) ?_)
    rw [List.length_cons, List.length_append] at hfuel
    omega

/-- With one more step of fuel, a spelling of items is read. -/
theorem Reads.items_succ (hreads : Reads fuel) {vs : List Value} {cs : List Glyph}
    (h : ItemsSpelling room vs cs) (rest : List Glyph)
    (hfuel : 2 * (cs ++ rest).length < fuel + 1) :
    items (fuel + 1) room (cs ++ rest) = .ok (vs, rest) := by
  cases h with
  | @last _ v cs gap hvalue hgap =>
    simp only [List.append_assoc, List.cons_append, List.nil_append] at hfuel ⊢
    have hread := hreads.ofValue hvalue (ends_blank hgap (by decide) rest)
      (Nat.le_of_lt_succ hfuel)
    exact items_last hread (skip_blank hgap (by decide) rest)
  | @more _ v vs cs before after ds hvalue hbefore hafter hrest =>
    simp only [List.append_assoc, List.cons_append] at hfuel ⊢
    have hread := hreads.ofValue hvalue (ends_blank hbefore (by decide) (after ++ (ds ++ rest)))
      (Nat.le_of_lt_succ hfuel)
    refine items_more hread (skip_blank hbefore (by decide) _) ?_
    rw [(hrest.opens.append rest).skip_eq hafter]
    refine hreads.ofItems hrest rest ?_
    simp only [List.length_cons, List.length_append] at hfuel ⊢
    omega

/-- With one more step of fuel, a spelling of fields is read. -/
theorem Reads.fields_succ (hreads : Reads fuel) {fs seen : List (Text × Value)} {cs : List Glyph}
    (h : FieldsSpelling room fs cs) (rest : List Glyph)
    (hnew : ∀ key ∈ fs.map Prod.fst, key ∉ seen.map Prod.fst)
    (hfuel : 2 * (cs ++ rest).length < fuel + 1) :
    fields (fuel + 1) room seen (cs ++ rest) = .ok (seen ++ fs, rest) := by
  cases h with
  | @last _ key v a b cs gap hkey ha hb hvalue hgap =>
    simp only [List.append_assoc, List.cons_append, List.nil_append] at hfuel ⊢
    have hends : Ends (gap ++ .char '\x7d' :: rest) := ends_blank hgap (by decide) rest
    have hread := hreads.ofValue hvalue hends (by
      simp only [List.length_cons, List.length_append] at hfuel ⊢
      omega)
    rw [← (hvalue.opens.append _).skip_eq hb] at hread
    rw [fields_last hkey (skip_blank ha (by decide) _) hread (skip_blank hgap (by decide) rest),
      setField_new v (hnew key List.mem_cons_self)]
  | @more _ key v fs a b cs before after ds hkey ha hb hvalue hbefore hafter hfresh hrest =>
    simp only [List.append_assoc, List.cons_append] at hfuel ⊢
    have hends : Ends (before ++ .char ',' :: (after ++ (ds ++ rest))) :=
      ends_blank hbefore (by decide) _
    have hread := hreads.ofValue hvalue hends (by
      simp only [List.length_cons, List.length_append] at hfuel ⊢
      omega)
    rw [← (hvalue.opens.append _).skip_eq hb] at hread
    rw [fields_more hkey (skip_blank ha (by decide) _) hread (skip_blank hbefore (by decide) _),
      (hrest.opens.append rest).skip_eq hafter, setField_new v (hnew key List.mem_cons_self)]
    -- the keys to come are new to what was read before, and to this field as well
    have hseen : ∀ k ∈ fs.map Prod.fst, k ∉ (seen ++ [(key, v)]).map Prod.fst := by
      intro k hk
      rw [List.map_append, List.mem_append, not_or]
      refine ⟨hnew k (List.mem_cons_of_mem _ hk), ?_⟩
      intro hkey
      cases List.mem_singleton.1 hkey
      exact hfresh hk
    rw [hreads.ofFields hrest rest hseen (by
      simp only [List.length_cons, List.length_append] at hfuel ⊢
      omega), List.append_assoc]
    rfl

/-- Whatever fuel there is, every spelling that it suffices for is read. -/
theorem reads (fuel : Nat) : Reads fuel := by
  induction fuel with
  | zero => exact reads_zero
  | succ fuel ih => exact ⟨ih.value_succ, ih.items_succ, ih.fields_succ⟩

theorem head?_ne_byteOrderMark {gap cs : List Glyph} (hgap : Blank gap) (hopens : Opens cs) :
    (gap ++ cs).head? ≠ some byteOrderMark := by
  cases gap with
  | nil =>
    obtain ⟨g, gs, rfl, hg⟩ := hopens
    rintro ⟨⟩
    exact absurd hg (by decide)
  | cons g gap =>
    rintro ⟨⟩
    exact absurd (hgap _ List.mem_cons_self) (by decide)

/-- Every spelling is read as the value that it spells, with white space around it or not. -/
theorem document_of_spelling {v : Value} {before cs after : List Glyph} (h : Spelling room v cs)
    (hbefore : Blank before) (hafter : Blank after) :
    document room (before ++ (cs ++ after)) = .ok v := by
  have hopens := h.opens.append after
  have hends : Ends after := by
    cases after with
    | nil => exact fun g hg => absurd hg (by simp)
    | cons g after => exact .cons (endsNumber_of_isSpace (hafter g List.mem_cons_self)) _
  have hread := (reads (2 * (before ++ (cs ++ after)).length + 2)).ofValue h hends (by
    simp only [List.length_append]
    omega)
  have hskip : skip after = [] := by
    have hall := skip_append hafter []
    rwa [List.append_nil] at hall
  rw [document, if_neg (head?_ne_byteOrderMark hbefore hopens), hopens.skip_eq hbefore, hread]
  dsimp only
  rw [hskip]

end Source

/-! ## Writing -/

namespace Value

open Source

/-- The style sets parts off by white space. -/
def Style.IsWhite (style : Style) : Prop := ∀ level, Blank (style.lead level)

theorem Style.IsWhite.separator_eq {style : Style} (h : style.IsWhite) (level : Nat) :
    ∃ gap, Blank gap ∧ style.separator level = .char ',' :: gap := by
  cases style with
  | plain => exact ⟨[.char ' '], by decide, rfl⟩
  | indented unit => exact ⟨_, h level, rfl⟩

/-- Values that can be read back from what is written: no integer has too many digits, texts are
whole, every key of a record stands once, and there is room for the levels of lists and records.
Floating-point numbers are left out. -/
inductive Writable : (room : Nat) → Value → Prop
  | null {room : Nat} : Writable room .null
  | bool {room : Nat} (b : Bool) : Writable room (.bool b)
  | int {room : Nat} {n : Int} (hlength : (Nat.toDigits 10 n.natAbs).length ≤ 4300) :
      Writable room (.int n)
  | text {room : Nat} {t : Text} (hwhole : t.isWhole = true) : Writable room (.text t)
  | list {room : Nat} {vs : List Value} (hitems : ∀ v ∈ vs, Writable room v) :
      Writable (room + 1) (.list vs)
  | record {room : Nat} {fs : List (Text × Value)} (hkeys : (fs.map Prod.fst).Nodup)
      (hwhole : ∀ f ∈ fs, f.1.isWhole = true) (hvalues : ∀ f ∈ fs, Writable room f.2) :
      Writable (room + 1) (.record fs)

/-- What can be written in less room can be written in more. -/
theorem Writable.mono {room room' : Nat} {v : Value} (h : Writable room v) (hle : room ≤ room') :
    Writable room' v := by
  induction h generalizing room' with
  | null => exact .null
  | bool b => exact .bool b
  | int hlength => exact .int hlength
  | text hwhole => exact .text hwhole
  | list _ ih =>
    obtain ⟨room', rfl⟩ : ∃ r, room' = r + 1 := ⟨room' - 1, by omega⟩
    exact .list (fun v hv => ih v hv (by omega))
  | record hkeys hwhole _ ih =>
    obtain ⟨room', rfl⟩ : ∃ r, room' = r + 1 := ⟨room' - 1, by omega⟩
    exact .record hkeys hwhole (fun f hf => ih f hf (by omega))

theorem areWritable_of_forall {vs : List Value} (h : ∀ v ∈ vs, v.isWritable = true) :
    areWritable vs = true := by
  induction vs with
  | nil => rw [areWritable]
  | cons v vs ih =>
    rw [List.forall_mem_cons] at h
    rw [areWritable, h.1, ih h.2]
    rfl

theorem fieldsWritable_of_forall {fs : List (Text × Value)}
    (h : ∀ f ∈ fs, f.2.isWritable = true) : fieldsWritable fs = true := by
  induction fs with
  | nil => rw [fieldsWritable]
  | cons f fs ih =>
    rw [List.forall_mem_cons] at h
    rw [fieldsWritable, h.1, ih h.2]
    rfl

/-- What can be read back can be written in the first place. -/
theorem Writable.isWritable {room : Nat} {v : Value} (h : Writable room v) :
    v.isWritable = true := by
  induction h with
  | null | bool | text => rw [Value.isWritable]
  | int hlength =>
    rw [Value.isWritable]
    exact decide_eq_true hlength
  | list _ ih =>
    rw [Value.isWritable]
    exact areWritable_of_forall ih
  | record _ _ _ ih =>
    rw [Value.isWritable]
    exact fieldsWritable_of_forall ih

variable {style : Style} {room level : Nat}

/-- Written items are a spelling of the items. -/
theorem itemsSpelling_write (hstyle : style.IsWhite) {v : Value} {vs : List Value}
    (h : ∀ w ∈ v :: vs, Spelling room w (w.write style level)) {gap : List Glyph}
    (hgap : Blank gap) :
    ItemsSpelling room (v :: vs)
      (v.write style level ++ (writeItems style level vs ++ (gap ++ [.char ']']))) := by
  induction vs generalizing v with
  | nil =>
    rw [writeItems, List.nil_append]
    exact .last (h v List.mem_cons_self) hgap
  | cons w vs ih =>
    obtain ⟨after, hafter, hseparator⟩ := hstyle.separator_eq level
    have hrest := ih (fun x hx => h x (List.mem_cons_of_mem v hx))
    have hmore := ItemsSpelling.more (h v List.mem_cons_self) (List.forall_mem_nil _) hafter hrest
    rw [writeItems, hseparator]
    simpa only [List.append_assoc, List.cons_append, List.nil_append] using hmore

/-- Written fields are a spelling of the fields. -/
theorem fieldsSpelling_write (hstyle : style.IsWhite) {f : Text × Value} {fs : List (Text × Value)}
    (hkeys : ((f :: fs).map Prod.fst).Nodup) (hwhole : ∀ e ∈ f :: fs, e.1.isWhole = true)
    (h : ∀ e ∈ f :: fs, Spelling room e.2 (e.2.write style level)) {gap : List Glyph}
    (hgap : Blank gap) :
    FieldsSpelling room (f :: fs)
      (writeText f.1 ++ (colon ++ (f.2.write style level ++
        (writeFields style level fs ++ (gap ++ [.char '\x7d']))))) := by
  have hblank : Blank [.char ' '] := by decide
  induction fs generalizing f with
  | nil =>
    rw [writeFields, List.nil_append]
    exact .last (hwhole f List.mem_cons_self) (List.forall_mem_nil _) hblank
      (h f List.mem_cons_self) hgap
  | cons e fs ih =>
    obtain ⟨after, hafter, hseparator⟩ := hstyle.separator_eq level
    rw [List.map_cons, List.nodup_cons] at hkeys
    have hrest := ih hkeys.2 (fun x hx => hwhole x (List.mem_cons_of_mem f hx))
      (fun x hx => h x (List.mem_cons_of_mem f hx))
    have hmore := FieldsSpelling.more (hwhole f List.mem_cons_self) (List.forall_mem_nil _) hblank
      (h f List.mem_cons_self) (List.forall_mem_nil _) hafter hkeys.1 hrest
    rw [writeFields, hseparator]
    simp only [List.append_assoc, List.cons_append, List.nil_append] at hmore ⊢
    exact hmore

/-- What is written spells the value. -/
theorem spelling_write (hstyle : style.IsWhite) {v : Value} (h : Writable room v) (level : Nat) :
    Spelling room v (v.write style level) := by
  induction h generalizing level with
  | null => exact .null
  | bool b => cases b <;> exact .bool _
  | int hlength => exact .int hlength
  | text hwhole => exact .text hwhole
  | @list room vs _ ih =>
    cases vs with
    | nil => exact .noItems (List.forall_mem_nil _)
    | cons v vs =>
      rw [write]
      simp only [List.append_assoc]
      exact .items (hstyle _) (itemsSpelling_write hstyle (fun w hw => ih w hw _) (hstyle level))
  | @record room fs hkeys hwhole _ ih =>
    cases fs with
    | nil => exact .noFields (List.forall_mem_nil _)
    | cons f fs =>
      obtain ⟨key, v⟩ := f
      rw [write]
      simp only [List.append_assoc]
      exact .fields (hstyle _)
        (fieldsSpelling_write hstyle hkeys hwhole (fun e he => ih e he _) (hstyle level))

end Value

end GridRobot
