import GridRobot.Proofs.Value.Spelling

/-!
# Beyond the limits of the reader

The reader has room for so many levels of lists and records, and takes integers of so many digits.
What goes beyond that stops it, however deep in a text it stands and whether anybody would look at
it or not.

* `Source.value_nested`: lists inside of lists, more than there is room for;
* `Source.value_long`: integers that have too many digits;
* `Source.document_of_field`: what stops the reader in a field stops it in the whole text.
-/

namespace GridRobot

/-- An empty list inside of so many lists. -/
def Value.nested : Nat → Value
  | 0 => .list []
  | n + 1 => .list [nested n]

/-- Nested lists are written as so many brackets. -/
theorem Value.write_nested (level n : Nat) :
    (nested n).write .plain level =
      List.replicate (n + 1) (.char '[') ++ List.replicate (n + 1) (.char ']') := by
  induction n generalizing level with
  | zero =>
    rw [nested, write]
    rfl
  | succ n ih =>
    have hclose : List.replicate (n + 1) (Glyph.char ']') ++ [.char ']'] =
        List.replicate (n + 2) (.char ']') := List.replicate_succ'.symm
    rw [nested, write, ih, writeItems]
    simp only [Style.lead, List.nil_append, List.append_nil]
    rw [List.append_assoc, hclose, ← List.cons_append, ← List.replicate_succ]

namespace Source

variable {fuel room : Nat} {cs ds rest : List Glyph} {e : SourceFailure}

/-! ## Passing an error on -/

theorem value_items_error (hskip : skip cs = ds) (hopens : Opens ds)
    (h : items fuel room ds = .error e) :
    value (fuel + 1) (room + 1) (.char '[' :: cs) = .error e := by
  rw [value, hskip]
  split
  · exact absurd rfl (hopens.ne_cons (by decide) _)
  · rw [h]
    rfl

theorem value_fields_error (hskip : skip cs = ds) (hopens : Opens ds)
    (h : fields fuel room [] ds = .error e) :
    value (fuel + 1) (room + 1) (.char '\x7b' :: cs) = .error e := by
  rw [value, hskip]
  split
  · exact absurd rfl (hopens.ne_cons (by decide) _)
  · rw [h]
    rfl

theorem items_error (h : value fuel room cs = .error e) :
    items (fuel + 1) room cs = .error e := by
  rw [items, h]

theorem fields_error {seen : List (Text × Value)} {key : Text} (hkey : key.isWhole = true)
    (hcolon : skip cs = .char ':' :: rest) (h : value fuel room (skip rest) = .error e) :
    fields (fuel + 1) room seen (Value.writeText key ++ cs) = .error e := by
  obtain ⟨ds, hds, htext⟩ := text_writeText hkey cs
  rw [hds, List.cons_append, fields, htext]
  simp only [hcolon, h]

/-! ## What is beyond the limits -/

theorem opens_bracket (cs : List Glyph) : Opens (.char '[' :: cs) := ⟨_, cs, rfl, by decide⟩

/-- Lists inside of lists, more than there is room for. -/
theorem value_nested (rest : List Glyph) (hfuel : 2 * room < fuel) :
    value fuel room (List.replicate (room + 1) (.char '[') ++ rest) =
      .error ⟨.listTooDeep, rest.length + 1⟩ := by
  -- each level takes two steps: one for the list and one for its first item
  induction room generalizing fuel with
  | zero =>
    obtain ⟨fuel, rfl⟩ : ∃ n, fuel = n + 1 := ⟨fuel - 1, by omega⟩
    show value (fuel + 1) 0 (.char '[' :: rest) = _
    rw [value]
    rfl
  | succ room ih =>
    obtain ⟨fuel, rfl⟩ : ∃ n, fuel = n + 2 := ⟨fuel - 2, by omega⟩
    have hinner : value fuel room (List.replicate (room + 1) (.char '[') ++ rest) =
        .error ⟨.listTooDeep, rest.length + 1⟩ := ih (by omega)
    rw [List.replicate_succ, List.cons_append]
    apply value_items_error (skip_cons (by decide) _) (opens_bracket _)
    exact items_error hinner

/-- A magnitude with too many digits is not read, but all its digits are passed. -/
theorem magnitude_long (negative : Bool) {n : Nat} (hlong : 4300 < (Nat.toDigits 10 n).length)
    (h : Ends rest) :
    magnitude negative (Glyph.ofChars (Nat.toDigits 10 n) ++ rest) =
      some (.error (.tooManyDigits (Nat.toDigits 10 n).length), rest) := by
  have hlength : (Glyph.ofChars (Nat.toDigits 10 n)).length = (Nat.toDigits 10 n).length :=
    List.length_map ..
  have hsome : (Glyph.ofChars (Nat.toDigits 10 n)).isEmpty = false := by
    rw [List.isEmpty_eq_false_iff, ← List.length_pos_iff, hlength]
    omega
  unfold magnitude
  rw [whole_toDigits n h]
  dsimp only
  rw [hsome, h.fraction_eq]
  dsimp only
  rw [h.exponent_eq]
  dsimp only
  rw [if_neg Bool.false_ne_true, if_pos (by rfl), hlength, if_pos hlong]

theorem number_long {n : Int} (hlong : 4300 < (Nat.toDigits 10 n.natAbs).length) (h : Ends rest) :
    number (Glyph.ofChars (toString n).toList ++ rest) =
      stop (.tooManyDigits (Nat.toDigits 10 n.natAbs).length)
        (Glyph.ofChars (toString n).toList ++ rest) := by
  rw [Numeral.toList_toString]
  by_cases hneg : n < 0
  · rw [if_pos hneg]
    show number (.char '-' :: (Glyph.ofChars (Nat.toDigits 10 n.natAbs) ++ rest)) = _
    unfold number
    simp only [magnitude_long true hlong h]
    rfl
  · rw [if_neg hneg, List.nil_append]
    have hmagnitude := magnitude_long false hlong h
    obtain ⟨c, cs, hcs, hc⟩ := exists_toDigits n.natAbs
    unfold number
    split
    · next heq =>
      rw [hcs] at heq
      cases heq
      cases hc
    · rw [hmagnitude]

/-- Integers that have too many digits. -/
theorem value_long {n : Int} (hlong : 4300 < (Nat.toDigits 10 n.natAbs).length) (h : Ends rest)
    (hfuel : 0 < fuel) :
    value fuel room (Glyph.ofChars (toString n).toList ++ rest) =
      stop (.tooManyDigits (Nat.toDigits 10 n.natAbs).length)
        (Glyph.ofChars (toString n).toList ++ rest) := by
  obtain ⟨fuel, rfl⟩ : ∃ k, fuel = k + 1 := ⟨fuel - 1, by omega⟩
  rw [value_int, number_long hlong h]

/-! ## Whole texts -/

/-- What stops the reader in the first field of a record stops it in a list of records. -/
theorem document_of_field {key : Text} (hkey : key.isWhole = true) (hopens : Opens cs)
    (h : ∀ fuel, 2 * cs.length ≤ fuel → value fuel room cs = .error e) :
    document (room + 2)
      (.char '[' :: .char '\x7b' :: (Value.writeText key ++ (Value.colon ++ cs))) = .error e := by
  obtain ⟨ds, hds, -⟩ := text_writeText hkey (Value.colon ++ cs)
  have hlength : 1 ≤ (Value.writeText key).length := by
    rw [hds]
    exact Nat.succ_le_succ (Nat.zero_le _)
  -- each bracket around the value takes fuel and leaves the value enough of it
  have hfields (fuel : Nat) (hfuel : 2 * cs.length < fuel) :
      fields fuel room [] (Value.writeText key ++ (Value.colon ++ cs)) = .error e := by
    obtain ⟨fuel, rfl⟩ : ∃ n, fuel = n + 1 := ⟨fuel - 1, by omega⟩
    have hcolon : skip (Value.colon ++ cs) = .char ':' :: .char ' ' :: cs := rfl
    have hblank : Blank [.char ' '] := by decide
    have hskip : skip (.char ' ' :: cs) = cs := hopens.skip_eq hblank
    apply fields_error hkey hcolon
    rw [hskip]
    exact h fuel (by omega)
  have hrecord (fuel : Nat) (hfuel : 2 * cs.length + 1 < fuel) :
      value fuel (room + 1) (.char '\x7b' :: (Value.writeText key ++ (Value.colon ++ cs))) =
        .error e := by
    obtain ⟨fuel, rfl⟩ : ∃ n, fuel = n + 1 := ⟨fuel - 1, by omega⟩
    refine value_fields_error ?_ ?_ (hfields fuel (by omega))
    · rw [hds]
      exact skip_cons (by decide) _
    · rw [hds]
      exact ⟨_, _, rfl, by decide⟩
  have hlist (fuel : Nat) (hfuel : 2 * cs.length + 3 < fuel) :
      value fuel (room + 2)
        (.char '[' :: .char '\x7b' :: (Value.writeText key ++ (Value.colon ++ cs))) = .error e := by
    obtain ⟨fuel, rfl⟩ : ∃ n, fuel = n + 2 := ⟨fuel - 2, by omega⟩
    apply value_items_error (skip_cons (by decide) _) ⟨_, _, rfl, by decide⟩
    exact items_error (hrecord fuel (by omega))
  rw [document, if_neg (by simp [byteOrderMark]), skip_cons (by decide), hlist]
  simp only [List.length_cons, List.length_append]
  omega

end Source

end GridRobot
