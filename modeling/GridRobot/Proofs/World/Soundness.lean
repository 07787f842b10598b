import GridRobot.World

/-!
# Sound worlds

The check of a world goes once over the start, the goal and the items and keeps the owner of every
cell it has come by. The rules that it enforces are said without owners in `World.Sound`.

* `faults_eq_nil_iff`: a world has no fault exactly if it is sound;
* `sound_of_build`: every world that is built is sound.

The owner of the start cell changes when an item lies on it, which is what keeps a second item away.
So the invariant along the items is on the list of owners: the items so far stand in front, and the
goal and the start behind them.
-/

namespace GridRobot.World

theorem isPassable_iff {w : World} {c : Cell} : w.isPassable c ↔ w.inBounds c ∧ c ∉ w.walls := by
  simp [isPassable, isWall]

/-- A cell has no fault by itself exactly if the robot can stand on it. -/
theorem cellFaults_eq_nil_iff {w : World} {l : Landmark} {c : Cell} :
    w.cellFaults l c = [] ↔ w.isPassable c := by
  rw [isPassable_iff, ← isWall_iff]
  unfold cellFaults
  cases hb : w.inBounds c <;> cases hw : w.isWall c <;> simp

/-- Walls have no faults if they are in bounds. -/
theorem wallFaults_eq_nil_iff {w : World} : w.wallFaults = [] ↔ ∀ c ∈ w.walls, w.inBounds c := by
  have hsort (cs : List Cell) (le : Cell → Cell → Bool) : cs.mergeSort le = [] ↔ cs = [] := by
    rw [← List.length_eq_zero_iff, List.length_mergeSort, List.length_eq_zero_iff]
  unfold wallFaults
  rw [List.map_eq_nil_iff, hsort, List.filter_eq_nil_iff]
  simp

/-! ## Owners of cells -/

/-- The owner of a cell, which is the latest landmark there. -/
def ownerOf (owners : List (Cell × Landmark)) (c : Cell) : Option Landmark :=
  (owners.find? (fun (d, _) => c.same d)).map (·.2)

theorem ownerOf_cons (d c : Cell) (l : Landmark) (owners : List (Cell × Landmark)) :
    ownerOf ((d, l) :: owners) c = if c = d then some l else ownerOf owners c := by
  unfold ownerOf
  by_cases h : c = d <;> simp [h]

/-- A landmark is without fault if its cell is passable and has no owner, or one with which the
landmark may share it. -/
theorem landmarkFaults_cons_eq_nil_iff {w : World} {owners : List (Cell × Landmark)}
    {l : Landmark} {c : Cell} {rest : List (Landmark × Cell)} :
    w.landmarkFaults owners ((l, c) :: rest) = [] ↔
      w.isPassable c ∧ (∀ o, ownerOf owners c = some o → l.mayShare o) ∧
        w.landmarkFaults ((c, l) :: owners) rest = [] := by
  rw [← cellFaults_eq_nil_iff (l := l)]
  rw [landmarkFaults]
  unfold ownerOf
  cases hf : owners.find? (fun (d, _) => c.same d) with
  | none => simp
  | some found =>
    obtain ⟨d, owner⟩ := found
    by_cases hs : l.mayShare owner
    · simp [hs]
    · simp [hs]

/-- The items with their cells, the first of them at the given index. -/
def itemLandmarks (index : Nat) (items : List Item) : List (Landmark × Cell) :=
  (items.zipIdx index).map (fun (item, index) => (.item index, item.cell))

/-- Owners of cells when some items have been checked: these items, the goal and the start. -/
def ownersAfter (w : World) (seen : List (Nat × Cell)) : List (Cell × Landmark) :=
  seen.map (fun (index, c) => (c, .item index)) ++ [(w.goal, .goal), (w.start, .start)]

/-- An item may lie at a cell unless the goal or an earlier item is there. -/
theorem mayShare_ownersAfter_iff {w : World} (hne : w.start ≠ w.goal) {seen : List (Nat × Cell)}
    {c : Cell} {index : Nat} :
    (∀ o, ownerOf (w.ownersAfter seen) c = some o → (Landmark.item index).mayShare o) ↔
      c ≠ w.goal ∧ c ∉ seen.map (·.2) := by
  induction seen with
  | nil =>
    have hown : ownerOf (w.ownersAfter []) c =
        if c = w.goal then some .goal else if c = w.start then some .start else none := by
      simp only [ownersAfter, List.map_nil, List.nil_append, ownerOf_cons]
      rfl
    rw [hown]
    -- of the two landmarks, only the start lets an item share its cell
    by_cases hg : c = w.goal
    · simp [hg, Landmark.mayShare]
    · by_cases hs : c = w.start
      · simp [hs, hne, Landmark.mayShare]
      · simp [hg, hs]
  | cons s seen ih =>
    obtain ⟨k, d⟩ := s
    have hown : ownerOf (w.ownersAfter ((k, d) :: seen)) c =
        if c = d then some (.item k) else ownerOf (w.ownersAfter seen) c := by
      simp only [ownersAfter, List.map_cons, List.cons_append, ownerOf_cons]
    rw [hown]
    by_cases hd : c = d
    · simp [hd, Landmark.mayShare]
    · simpa [hd] using ih

/-- Items are without fault if they lie on passable cells, off the goal, away from the items before
them and apart from each other. -/
theorem landmarkFaults_items_eq_nil_iff {w : World} (hne : w.start ≠ w.goal) {items : List Item}
    {index : Nat} {seen : List (Nat × Cell)} :
    w.landmarkFaults (w.ownersAfter seen) (itemLandmarks index items) = [] ↔
      (∀ i ∈ items, w.isPassable i.cell) ∧ (∀ i ∈ items, i.cell ≠ w.goal) ∧
        (∀ i ∈ items, i.cell ∉ seen.map (·.2)) ∧ (items.map (·.cell)).Nodup := by
  induction items generalizing index seen with
  | nil => simp [itemLandmarks, landmarkFaults]
  | cons i items ih =>
    have hcons : itemLandmarks index (i :: items) =
        (.item index, i.cell) :: itemLandmarks (index + 1) items := rfl
    have howners : (i.cell, Landmark.item index) :: w.ownersAfter seen =
        w.ownersAfter ((index, i.cell) :: seen) := rfl
    -- the first item joins the seen ones, so the rest must stay away from it
    rw [hcons, landmarkFaults_cons_eq_nil_iff, mayShare_ownersAfter_iff hne, howners, ih]
    simp only [List.map_cons, List.mem_cons, List.nodup_cons, List.mem_map, forall_eq_or_imp]
    constructor
    · rintro ⟨hp, ⟨hg, hs⟩, hps, hgs, hss, hnd⟩
      refine ⟨⟨hp, hps⟩, ⟨hg, hgs⟩, ⟨hs, ?_⟩, ?_, hnd⟩
      · intro j hj hmem
        exact hss j hj (Or.inr hmem)
      · rintro ⟨j, hj, hji⟩
        exact hss j hj (Or.inl hji)
    · rintro ⟨⟨hp, hps⟩, ⟨hg, hgs⟩, ⟨hs, hss⟩, hni, hnd⟩
      refine ⟨hp, ⟨hg, hs⟩, hps, hgs, ?_, hnd⟩
      rintro j hj (hji | hmem)
      · exact hni ⟨j, hj, hji⟩
      · exact hss j hj hmem

/-- Start, goal and items are without fault exactly if they keep the rules. -/
theorem landmarkFaults_eq_nil_iff {w : World} :
    w.landmarkFaults [] w.landmarks = [] ↔
      w.isPassable w.start ∧ w.isPassable w.goal ∧ w.start ≠ w.goal ∧
        (∀ i ∈ w.items, w.isPassable i.cell) ∧ (∀ i ∈ w.items, i.cell ≠ w.goal) ∧
          (w.items.map (·.cell)).Nodup := by
  have hall : w.landmarks = (.start, w.start) :: (.goal, w.goal) :: itemLandmarks 0 w.items := rfl
  have hgoal : (∀ o, ownerOf [(w.start, Landmark.start)] w.goal = some o →
      Landmark.goal.mayShare o) ↔ w.start ≠ w.goal := by
    rw [ownerOf_cons]
    by_cases h : w.goal = w.start
    · simp [h, Landmark.mayShare]
    · simp [h, Ne.symm h, ownerOf]
  have howners : [(w.goal, Landmark.goal), (w.start, Landmark.start)] = w.ownersAfter [] := rfl
  rw [hall, landmarkFaults_cons_eq_nil_iff, landmarkFaults_cons_eq_nil_iff, hgoal, howners]
  constructor
  · rintro ⟨hs, -, hg, hne, hitems⟩
    rw [landmarkFaults_items_eq_nil_iff hne] at hitems
    exact ⟨hs, hg, hne, hitems.1, hitems.2.1, hitems.2.2.2⟩
  · rintro ⟨hs, hg, hne, hp, hoff, hnd⟩
    refine ⟨hs, ?_, hg, hne, ?_⟩
    · intro o ho
      simp [ownerOf] at ho
    · rw [landmarkFaults_items_eq_nil_iff hne]
      exact ⟨hp, hoff, by simp, hnd⟩

/-! ## The check as a whole -/

/-- A world has no fault exactly if it is sound. -/
theorem faults_eq_nil_iff {w : World} : w.faults = [] ↔ w.Sound := by
  unfold faults
  by_cases hsize : w.size < 1
  · have hnot : ¬ w.Sound := fun h => by
      have := h.size_pos
      omega
    simp [hsize, hnot]
  · simp only [Coordinate.below_int, Coordinate.ofInt_int, hsize, decide_false, Bool.false_eq_true,
      if_false, List.append_eq_nil_iff, wallFaults_eq_nil_iff, landmarkFaults_eq_nil_iff]
    constructor
    · rintro ⟨hwalls, hs, hg, hne, hp, hoff, hnd⟩
      exact ⟨by omega, hwalls, hs, hg, hp, hne, hoff, hnd⟩
    · intro h
      exact ⟨h.walls_inside, h.start_passable, h.goal_passable, h.start_ne_goal,
        h.items_passable, h.items_off_goal, h.items_apart⟩

instance (w : World) : Decidable w.Sound :=
  decidable_of_iff
    (1 ≤ w.size ∧ (∀ c ∈ w.walls, w.inBounds c) ∧ w.isPassable w.start ∧ w.isPassable w.goal ∧
      (∀ i ∈ w.items, w.isPassable i.cell) ∧ w.start ≠ w.goal ∧
        (∀ i ∈ w.items, i.cell ≠ w.goal) ∧ (w.items.map (·.cell)).Nodup)
    ⟨fun ⟨hsize, hwalls, hs, hg, hp, hne, hoff, hnd⟩ => ⟨hsize, hwalls, hs, hg, hp, hne, hoff, hnd⟩,
      fun h => ⟨h.size_pos, h.walls_inside, h.start_passable, h.goal_passable, h.items_passable,
        h.start_ne_goal, h.items_off_goal, h.items_apart⟩⟩

/-- What is built from parts, and when. -/
theorem build_eq_ok_iff {size : Int} {start goal : Cell} {walls : List Cell} {items : List Item}
    {w : World} :
    build size start goal walls items = .ok w ↔
      w = ⟨size, start, goal, Cell.sortDistinct walls, items⟩ ∧ w.Sound := by
  rw [← faults_eq_nil_iff]
  unfold build
  dsimp only
  split
  · next hf =>
    constructor
    · intro h
      cases h
      exact ⟨rfl, hf⟩
    · rintro ⟨rfl, -⟩
      rfl
  · next hf =>
    constructor
    · intro h
      cases h
    · rintro ⟨rfl, h⟩
      exact absurd h hf

/-- Every world that is built is sound. -/
theorem sound_of_build {size : Int} {start goal : Cell} {walls : List Cell} {items : List Item}
    {w : World} (h : build size start goal walls items = .ok w) : w.Sound :=
  (build_eq_ok_iff.1 h).2

end GridRobot.World
