import GridRobot.Proofs.Program.Shape
import GridRobot.Proofs.Value.Spelling

/-!
# Programs as text

A program of good shape whose function names are texts can be written as text, in one line or with
an indent, and read back from it. The text may also be the only field of a record.

* `Block.writable_toRecord`: the record of a block is a value that can be read back;
* `Program.parse_of_spelling`: a text is read like the value that it spells.
-/

namespace GridRobot

/-! ## Values that can be written -/

namespace Block

/-- Can the settings of the node be read back from text? A loop count has not too many digits, and a
function name is a text of characters. -/
def isPlain : Block → Bool
  | .loop (.int n) _ => (Nat.toDigits 10 n.natAbs).length ≤ 4300
  | .function (.text t) _ => t.isWhole
  | .function _ _ => false
  | _ => true

theorem exists_of_map_eq_ok {ε α β : Type} {e : Except ε α} {f : α → β} {y : β}
    (h : e.map f = .ok y) : ∃ x, e = .ok x ∧ f x = y := by
  cases e with
  | error e => cases h
  | ok x =>
    cases h
    exact ⟨x, rfl, rfl⟩

/-- Every block has its own record. -/
theorem forall₂_of_toRecords {bs : List Block} {vs : List Value} (h : toRecords bs = .ok vs) :
    List.Forall₂ (fun b v => b.toRecord = .ok v) bs vs := by
  induction bs generalizing vs with
  | nil =>
    rw [toRecords] at h
    cases h
    exact .nil
  | cons b bs ih =>
    rw [toRecords] at h
    cases hb : b.toRecord with
    | error e =>
      rw [hb] at h
      cases h
    | ok v =>
      rw [hb] at h
      obtain ⟨ws, hws, rfl⟩ := exists_of_map_eq_ok h
      exact .cons hb (ih hws)

/-- The record of a leaf can be written. -/
theorem writable_leaf (room : Nat) (k : Kind) : Value.Writable (room + 1) (recordOf k []) := by
  refine .record (by simp) ?_ ?_
  · intro f hf
    cases List.mem_singleton.1 hf
    exact Text.isWhole_ofString _
  · intro f hf
    cases List.mem_singleton.1 hf
    exact .text (Text.isWhole_ofString _)

/-- The record of a container can be written if its setting and its children can. -/
theorem writable_container {room : Nat} (k : Kind) {name : String} {setting : Value}
    {vs : List Value} (hname : name ≠ "type" ∧ name ≠ "children")
    (hsetting : Value.Writable (room + 1) setting) (hvs : ∀ v ∈ vs, Value.Writable room v) :
    Value.Writable (room + 2) (recordOf k [(name, setting), ("children", .list vs)]) := by
  refine .record ?_ ?_ ?_
  · simp [Text.ofString_inj, hname, Ne.symm hname.1]
  · intro f hf
    simp only [List.mem_cons, List.not_mem_nil, or_false] at hf
    rcases hf with rfl | rfl | rfl <;> exact Text.isWhole_ofString _
  · intro f hf
    simp only [List.mem_cons, List.not_mem_nil, or_false] at hf
    rcases hf with rfl | rfl | rfl
    · exact .text (Text.isWhole_ofString _)
    · exact hsetting
    · exact .list hvs

/-- The record of a block is a value that can be read back: each level of blocks takes a record and
the list of its children. -/
theorem writable_toRecord {room depth : Nat} (hroom : room + 2 * depth = 2 * (maxDepth + 1))
    {b : Block} (h : Shaped depth b) (path : Path)
    (hplain : ∀ n ∈ b.walk path, n.2.isPlain = true) {v : Value} (hv : b.toRecord = .ok v) :
    Value.Writable room v := by
  induction h generalizing room path v with
  | @node depth b hdepth hshape _ ih =>
    obtain ⟨room, rfl⟩ : ∃ r, room = r + 2 := ⟨room - 2, by omega⟩
    rw [walk_eq, List.forall_mem_cons] at hplain
    obtain ⟨hself, hbelow⟩ := hplain
    -- a record takes two levels of room: one for itself and one for the list of its children
    have hchildren {vs : List Value} (hvs : toRecords b.children = .ok vs) :
        ∀ v ∈ vs, Value.Writable room v := by
      intro w hw
      obtain ⟨i, hi⟩ := List.mem_iff_getElem?.1 hw
      obtain ⟨c, hc, hrecord⟩ := exists_left_of_forall₂ (forall₂_of_toRecords hvs) hi
      exact ih c (List.mem_of_getElem? hc) (by omega) (path ++ [0 + i])
        (fun n hn => hbelow n (mem_walkFrom_iff.2 ⟨i, c, hc, hn⟩)) hrecord
    cases b with
    | move direction =>
      cases direction with
      | known d =>
        rw [toRecord] at hv
        cases hv
        exact writable_leaf _ _
      | other w => cases hshape
    | collect | wait | breakOut =>
      rw [toRecord] at hv
      cases hv
      exact writable_leaf _ _
    | loop count body =>
      cases count with
      | int n =>
        rw [toRecord] at hv
        obtain ⟨vs, hvs, rfl⟩ := exists_of_map_eq_ok hv
        exact writable_container _ (by decide) (.int (of_decide_eq_true hself)) (hchildren hvs)
      | _ => cases hshape
    | conditional condition body =>
      cases condition with
      | known c =>
        rw [toRecord] at hv
        obtain ⟨vs, hvs, rfl⟩ := exists_of_map_eq_ok hv
        exact writable_container _ (by decide) (.text (Text.isWhole_ofString _)) (hchildren hvs)
      | other w => cases hshape
    | function name body =>
      cases name with
      | text t =>
        rw [toRecord] at hv
        obtain ⟨vs, hvs, rfl⟩ := exists_of_map_eq_ok hv
        exact writable_container _ (by decide) (.text hself) (hchildren hvs)
      | _ => cases hself
    | foreign w => cases hshape
    | derived name base => cases hshape

end Block

namespace Program

open Source Value

/-- The settings of every node can be read back from text. -/
def IsPlain (p : Program) : Prop := ∀ n ∈ p.walk, n.2.isPlain = true

instance (p : Program) : Decidable p.IsPlain := inferInstanceAs (Decidable (∀ n ∈ p.walk, _))

/-- The records of a plain program can be written. -/
theorem writable_toRecords {p : Program} (hshape : p.WellShaped) (hplain : p.IsPlain) {data : Value}
    (hdata : p.toRecords = .ok data) : Writable (2 * Block.maxDepth + 1) data := by
  obtain ⟨vs, hvs, rfl⟩ := Block.exists_of_map_eq_ok hdata
  refine .list ?_
  intro v hv
  obtain ⟨i, hi⟩ := List.mem_iff_getElem?.1 hv
  obtain ⟨b, hb, hrecord⟩ := Block.exists_left_of_forall₂ (Block.forall₂_of_toRecords hvs) hi
  refine Block.writable_toRecord rfl (wellShaped_iff.1 hshape b (List.mem_of_getElem? hb)) [0 + i]
    ?_ hrecord
  intro n hn
  exact hplain n (Block.mem_walkFrom_iff.2 ⟨i, b, hb, hn⟩)

/-! ## Texts that can be read -/

/-- A text is read like the value that it spells. -/
theorem parse_of_spelling {nesting : Nat} {data : Value} {cs : List Glyph}
    (h : Spelling nesting data cs) : parse nesting ⟨cs⟩ = ofRecords (unwrap data) := by
  have hdocument := document_of_spelling h (List.forall_mem_nil _) (List.forall_mem_nil _)
  rw [List.nil_append, List.append_nil] at hdocument
  rw [parse, Value.parse, hdocument]

/-- A text as the only field of a record, with white space between the tokens. -/
def wrapped (key : String) (a b c d : List Glyph) (t : Text) : Text :=
  ⟨.char '\x7b' :: (a ++ (writeText key ++
    (b ++ .char ':' :: (c ++ (t.glyphs ++ (d ++ [.char '\x7d']))))))⟩

/-- Records in a field of either name are unwrapped. -/
theorem unwrap_field {key : String} (hkey : key ∈ ["program", "blocks"]) (data : Value) :
    unwrap (.record [(key, data)]) = data := by
  simp only [List.mem_cons, List.not_mem_nil, or_false] at hkey
  rcases hkey with rfl | rfl
  · rw [unwrap, field?, Block.lookup_ofString, if_pos rfl]
    rfl
  · rw [unwrap, field?, field?, Block.lookup_ofString, Block.lookup_ofString, if_neg (by decide),
      if_pos rfl]
    rfl

/-- No indent and every number of blanks set parts off by white space. -/
theorem exists_style {indent : Value}
    (h : indent = .null ∨ ∃ n, indent = .int n ∧ Index.fits n = true) :
    ∃ style, Style.ofIndent indent = .ok style ∧ style.IsWhite := by
  rcases h with rfl | ⟨n, rfl, hn⟩
  · exact ⟨.plain, rfl, fun _ => List.forall_mem_nil _⟩
  · refine ⟨.indented (List.replicate n.toNat (.char ' ')), if_pos hn, ?_⟩
    intro level g hg
    rcases List.mem_cons.1 hg with rfl | hg
    · rfl
    · obtain ⟨unit, hunit, hg⟩ := List.mem_flatten.1 hg
      rw [List.eq_of_mem_replicate hunit] at hg
      rw [List.eq_of_mem_replicate hg]
      rfl

/-- A program of good shape with plain settings has a text in every style. -/
theorem render_eq_ok {p : Program} (hshape : p.WellShaped) (hplain : p.IsPlain) {data : Value}
    (hdata : p.toRecords = .ok data) (style : Style) :
    p.render style = .ok (data.render style) := by
  rw [render, hdata]
  exact if_pos (writable_toRecords hshape hplain hdata).isWritable

/-- The text of a program is lossless. A program of good shape with plain settings can be written
with any indent that is a number of blanks, none or even a negative number of them, and the program
is read back from that text and from every record that has it as its only field. The number must be
an index: any other integer has no style, and there is no text. -/
theorem text_lossless {nesting : Nat} (hnesting : 2 * Block.maxDepth + 2 ≤ nesting) {p : Program}
    (hshape : p.WellShaped) (hplain : p.IsPlain) :
    (∀ indent : Value, (indent = .null ∨ ∃ n, indent = .int n ∧ Index.fits n = true) →
      ∃ style t, Style.ofIndent indent = .ok style ∧ p.render style = .ok t ∧
        parse nesting t = .ok p ∧
        ∀ key ∈ ["program", "blocks"], ∀ a b c d, Blank (a ++ b ++ c ++ d) →
          parse nesting (wrapped key a b c d t) = .ok p) ∧
      ∀ n, Index.fits n = false → Style.ofIndent (.int n) = .error .tooLarge := by
  -- one level is left for the record around the list
  obtain ⟨nesting, rfl⟩ : ∃ n, nesting = n + 1 := ⟨nesting - 1, by omega⟩
  obtain ⟨data, hdata, hread⟩ := ofRecords_toRecords hshape
  have hwritable := writable_toRecords hshape hplain hdata
  have hlist : unwrap data = data := by
    obtain ⟨vs, rfl, -⟩ := ofRecords_eq_ok_iff.1 hread
    rfl
  constructor
  · intro indent hindent
    obtain ⟨style, hstyle, hwhite⟩ := exists_style hindent
    refine ⟨style, data.render style, hstyle, render_eq_ok hshape hplain hdata style, ?_, ?_⟩
    · have hspelling := spelling_write hwhite (hwritable.mono (by omega : _ ≤ nesting + 1)) 0
      rw [Value.render, parse_of_spelling hspelling, hlist, hread]
    · intro key hkey a b c d hblank
      simp only [Blank, List.forall_mem_append] at hblank
      obtain ⟨⟨⟨ha, hb⟩, hc⟩, hd⟩ := hblank
      have hspelling := spelling_write hwhite (hwritable.mono (by omega : _ ≤ nesting)) 0
      have hfield := Spelling.fields ha
        (FieldsSpelling.last (Text.isWhole_ofString key) hb hc hspelling hd)
      rw [wrapped, Value.render, parse_of_spelling hfield, unwrap_field hkey, hread]
  · intro n hn
    exact if_neg (by rw [hn]; exact Bool.false_ne_true)

/-- Names with a quote, a line break and a character outside the first plane, and a loop count that
no level would take. -/
def oddNames : Program := [
  .function (.text "say \"hi\"\n😀") [.loop (.int (-70)) [.move (.known .up)], .collect]]

/-- A program whose names have odd characters in them, written with a negative indent. -/
theorem text_lossless_oddNames :
    (oddNames.WellShaped ∧ oddNames.IsPlain) ∧
    ∃ style t, Style.ofIndent (.int (-3)) = .ok style ∧ oddNames.render style = .ok t ∧
      parse 992 t = .ok oddNames ∧
      ∀ key ∈ ["program", "blocks"], ∀ a b c d, Blank (a ++ b ++ c ++ d) →
        parse 992 (wrapped key a b c d t) = .ok oddNames := by
  have hshape : oddNames.WellShaped := by decide
  have hplain : oddNames.IsPlain := by decide +kernel
  have htext := text_lossless (by decide : 2 * Block.maxDepth + 2 ≤ 992) hshape hplain
  exact ⟨⟨hshape, hplain⟩, htext.1 _ (Or.inr ⟨-3, rfl, by decide⟩)⟩

/-- An indent must be an index. A number beyond that, on either side of zero, has no style, and so
there is no text to read back. -/
theorem no_text_beyond_index :
    WellShaped [.move (.known .up)] ∧ IsPlain [.move (.known .up)] ∧
    ¬ ∃ style t, Style.ofIndent (.int (-9223372036854775809)) = .ok style ∧
      render style [.move (.known .up)] = .ok t ∧ parse 992 t = .ok [.move (.known .up)] := by
  refine ⟨by decide, by decide, ?_⟩
  rintro ⟨style, t, hstyle, -⟩
  have hfault : Style.ofIndent (.int (-9223372036854775809)) = .error .tooLarge := by decide
  rw [hfault] at hstyle
  cases hstyle

end Program

end GridRobot
