import GridRobot.Item

/-!
# Taking items, one at a time

Taking at a cell either finds nothing and changes nothing, or sets the mark of one item that lies
there and was free (`take_cases`). If no two items share a cell, taking at a cell leaves no free
item there (`take_eq_markAt`).
-/

namespace GridRobot.Pouch

/-- Taking finds nothing, or sets the mark of one free item at the cell. -/
theorem take_cases (c : Cell) (p : Pouch) :
    p.take c = (none, p) ∨
      ∃ (j : Nat) (item : Item), p[j]? = some ⟨item, false⟩ ∧ item.cell = c ∧
        p.take c = (some item, p.set j ⟨item, true⟩) := by
  induction p with
  | nil => exact Or.inl rfl
  | cons s rest ih =>
    by_cases hfree : freeAt c s
    · right
      obtain ⟨item, taken⟩ := s
      have hcell : item.cell = c ∧ taken = false := by simpa [freeAt] using hfree
      obtain ⟨hcell, rfl⟩ := hcell
      exact ⟨0, item, rfl, hcell, by simp [take, hfree]⟩
    · rcases ih with hnone | ⟨j, item, hj, hcell, htake⟩
      · left
        simp [take, hfree, hnone]
      · right
        exact ⟨j + 1, item, by simpa using hj, hcell, by simp [take, hfree, htake]⟩

/-- To mark a slot is to set its mark. -/
theorem marks_set (p : Pouch) (j : Nat) (item : Item) :
    marks (p.set j ⟨item, true⟩) = (marks p).set j true := by
  simp [marks, List.map_set]

/-- A new pouch has no marks. -/
theorem marks_ofItems (items : List Item) :
    marks (ofItems items) = List.replicate items.length false := by
  induction items with
  | nil => rfl
  | cons i items ih => simpa [marks, ofItems, List.replicate_succ] using ih

@[simp] theorem items_ofItems (items : List Item) : Pouch.items (ofItems items) = items := by
  simp [Pouch.items, ofItems, Function.comp_def]

theorem items_getElem? (p : Pouch) (j : Nat) : (Pouch.items p)[j]? = p[j]?.map (·.item) := by
  simp [Pouch.items]

theorem marks_getElem? (p : Pouch) (j : Nat) : (marks p)[j]? = p[j]?.map (·.taken) := by
  simp [marks]

/-! ## Items that lie apart -/

/-- The pouch with every item at a cell marked. -/
def markAt (c : Cell) (p : Pouch) : Pouch :=
  p.map (fun s => if s.item.cell = c then { s with taken := true } else s)

/-- Where no item lies, none is marked. -/
theorem markAt_eq_self {c : Cell} {p : Pouch} (h : ∀ s ∈ p, s.item.cell ≠ c) : markAt c p = p := by
  unfold markAt
  conv => rhs; rw [← List.map_id p]
  apply List.map_congr_left
  intro s hs
  simp [h s hs]

/-- If no two items share a cell, taking at a cell marks every item there. -/
theorem take_eq_markAt {c : Cell} {p : Pouch} (hnd : (p.map (·.item.cell)).Nodup) :
    (p.take c).2 = markAt c p := by
  induction p with
  | nil => rfl
  | cons s rest ih =>
    rw [List.map_cons, List.nodup_cons] at hnd
    obtain ⟨item, taken⟩ := s
    have hmark : markAt c (⟨item, taken⟩ :: rest) =
        (if item.cell = c then ⟨item, true⟩ else ⟨item, taken⟩) :: markAt c rest := rfl
    rw [hmark]
    by_cases hc : item.cell = c
    · -- nothing else lies here, so the rest stays as it is
      have hrest : markAt c rest = rest := by
        apply markAt_eq_self
        intro s hs hsc
        exact hnd.1 (List.mem_map.2 ⟨s, hs, hsc.trans hc.symm⟩)
      cases taken with
      | true =>
        have hfree : freeAt c ⟨item, true⟩ = false := by simp [freeAt]
        simp [take, hfree, ih hnd.2, hc]
      | false =>
        have hfree : freeAt c ⟨item, false⟩ = true := by simp [freeAt, hc]
        simp [take, hfree, hrest, hc]
    · have hfree : freeAt c ⟨item, taken⟩ = false := by simp [freeAt, hc]
      simp [take, hfree, ih hnd.2, hc]

end GridRobot.Pouch
