import GridRobot.Level.World
import GridRobot.Proofs.World.Soundness
import Mathlib.Data.List.Nodup

/-!
# Worlds of levels

Cells for walls and items are drawn until enough of them are free. Nothing is known about the draws
but their bounds, and still the cells that come of them lie on the grid, apart from each other and
off those that were taken before. So the parts of a layout always make a world, and an attempt fails
only where something cannot be reached.

The draws for a cell are followed only so far, and a source of draws may come to no number. An
answer that does not come from this stays the same when the draws are followed further.

* `drawCells_cases`: what a number of draws can come to;
* `attempt_cases`: what holds of every layout that is drawn holds of the one that is taken;
* `generateWithin_cases`: all answers that there are for a level;
* `generateWithin_settled`: which of them stay when the draws are followed further.
-/

namespace GridRobot

/-! ## Sorting cells that are distinct -/

namespace Cell

/-- A cell that is not there yet is put among the others. -/
theorem insertSorted_perm {c : Cell} {ds : List Cell} (hc : c ∉ ds) :
    (insertSorted c ds).Perm (c :: ds) := by
  induction ds with
  | nil => exact .refl _
  | cons d ds ih =>
    obtain ⟨hne, hrest⟩ := not_or.1 (mt List.mem_cons.2 hc)
    rw [insertSorted]
    split
    · exact .refl _
    · rw [same_eq_decide, decide_eq_false hne, if_neg Bool.false_ne_true]
      exact ((ih hrest).cons d).trans (.swap c d ds)

/-- Sorting distinct cells loses none of them. -/
theorem sortDistinct_perm {cs : List Cell} (h : cs.Nodup) : (sortDistinct cs).Perm cs := by
  induction cs with
  | nil => exact .refl _
  | cons c cs ih =>
    obtain ⟨hc, hcs⟩ := List.nodup_cons.1 h
    have hnew : c ∉ sortDistinct cs := fun hmem => hc (mem_sortDistinct.1 hmem)
    exact (insertSorted_perm hnew).trans ((ih hcs).cons c)

end Cell

namespace Layout

variable {σ : Type} {source : DrawSource σ} {draws more : Nat} {w : World}

/-! ## Drawing a cell -/

/-- The cell lies on the grid of all levels. -/
def OnGrid (c : Cell) : Prop := (0 ≤ c.x ∧ c.x < 6) ∧ (0 ≤ c.y ∧ c.y < 6)

instance (c : Cell) : Decidable (OnGrid c) := inferInstanceAs (Decidable (_ ∧ _))

/-- Coordinates less than six are on the grid. -/
theorem onGrid_of_lt {x y : Nat} (hx : x < 6) (hy : y < 6) : OnGrid ⟨x, y⟩ := by
  refine ⟨⟨?_, ?_⟩, ?_, ?_⟩
  all_goals dsimp only
  all_goals omega

/-- From one state, draws lead to the other. -/
inductive Rolled (source : DrawSource σ) (s : σ) : σ → Prop
  | refl : Rolled source s s
  | roll {s' : σ} (h : Rolled source s s') (bound : Nat) : Rolled source s (source.roll bound s').2

theorem Rolled.trans {s s' s'' : σ} (h : Rolled source s s') (h' : Rolled source s' s'') :
    Rolled source s s'' := by
  induction h' with
  | refl => exact h
  | roll _ bound ih => exact ih.roll bound

/-- From a state that draws come to, the source comes to no number. -/
def Silent (source : DrawSource σ) (s : σ) : Prop :=
  ∃ (s' : σ) (bound : Nat), Rolled source s s' ∧ 0 < bound ∧ (source.roll bound s').1 = none

theorem Silent.mono {s s' : σ} (h : Silent source s') (hs : Rolled source s s') :
    Silent source s := by
  obtain ⟨t, bound, ht, hpos, hnone⟩ := h
  exact ⟨t, bound, hs.trans ht, hpos, hnone⟩

/-- A draw comes to a number or to nothing. -/
theorem roll_cases (source : DrawSource σ) (bound : Nat) (hpos : 0 < bound) (s : σ) :
    (∃ n s', source.roll bound s = (some n, s') ∧ Rolled source s s') ∨
      ∃ s', source.roll bound s = (none, s') ∧ Silent source s := by
  have hroll : Rolled source s (source.roll bound s).2 := Rolled.refl.roll bound
  cases hdrawn : (source.roll bound s).1 with
  | some n => exact Or.inl ⟨n, _, by rw [← hdrawn], hroll⟩
  | none => exact Or.inr ⟨_, by rw [← hdrawn], s, bound, .refl, hpos, hdrawn⟩

@[simp] theorem andThen_some {α β : Type} (a : α) (s : σ) (next : α → σ → Option β × σ) :
    andThen (some a, s) next = next a s := rfl

@[simp] theorem andThen_none {α β : Type} (s : σ) (next : α → σ → Option β × σ) :
    andThen (none, s) next = (none, s) := rfl

/-- A cell that is drawn lies on the grid. -/
theorem drawCell_cases (source : DrawSource σ) (s : σ) :
    (∃ c s', drawCell source s = (some c, s') ∧ Rolled source s s' ∧ OnGrid c) ∨
      ∃ s', drawCell source s = (none, s') ∧ Silent source s := by
  unfold drawCell
  rcases roll_cases source 6 (by decide) s with ⟨x, s₁, hx, hroll⟩ | ⟨s₁, hx, hsilent⟩
  · rw [hx, andThen_some]
    rcases roll_cases source 6 (by decide) s₁ with
      ⟨y, s₂, hy, hroll'⟩ | ⟨s₂, hy, hsilent⟩
    · rw [hy]
      exact Or.inl ⟨_, s₂, rfl, hroll.trans hroll', onGrid_of_lt x.isLt y.isLt⟩
    · rw [hy]
      exact Or.inr ⟨s₂, rfl, hsilent.mono hroll⟩
  · rw [hx]
    exact Or.inr ⟨s₁, rfl, hsilent⟩

/-- The cell that is drawn after so many others. -/
def cellAfter (source : DrawSource σ) : Nat → σ → Option Cell
  | 0, s => (drawCell source s).1
  | n + 1, s => cellAfter source n (drawCell source s).2

/-- A draw comes to nothing; or else, from a state that draws come to, so many cells in a row are
all among fewer cells than there is room for. -/
def Stalls (source : DrawSource σ) (draws room : Nat) (s : σ) : Prop :=
  Silent source s ∨
    ∃ (taken : List Cell) (s' : σ), Rolled source s s' ∧ taken.length < room ∧
      ∀ k < draws, ∃ c ∈ taken, cellAfter source k s' = some c

/-- What stalls after some rolls has stalled before them as well. -/
theorem Stalls.mono {room room' : Nat} {s s' : σ} (h : Stalls source draws room s')
    (hs : Rolled source s s') (hroom : room ≤ room') : Stalls source draws room' s := by
  rcases h with hsilent | ⟨taken, t, ht, hlength, hall⟩
  · exact Or.inl (hsilent.mono hs)
  · exact Or.inr ⟨taken, t, hs.trans ht, Nat.lt_of_lt_of_le hlength hroom, hall⟩

/-- Drawing gives a free cell on the grid, unless a draw comes to nothing or all draws that are
followed give taken ones. -/
theorem drawFree_cases (source : DrawSource σ) (taken : List Cell) (draws : Nat) (s : σ) :
    (∃ c s', drawFree source taken draws s = (some c, s') ∧ Rolled source s s' ∧ OnGrid c ∧
        c ∉ taken) ∨
      ∃ s', drawFree source taken draws s = (none, s') ∧
        (Silent source s ∨ ∀ k < draws, ∃ c ∈ taken, cellAfter source k s = some c) := by
  induction draws generalizing s with
  | zero => exact Or.inr ⟨s, rfl, Or.inr (fun k hk => absurd hk (Nat.not_lt_zero k))⟩
  | succ draws ih =>
    rw [drawFree]
    rcases drawCell_cases source s with ⟨c, s₁, hdrawn, hroll, hgrid⟩ | ⟨s₁, hdrawn, hsilent⟩
    · rw [hdrawn, andThen_some]
      by_cases hmem : c ∈ taken
      · rw [if_pos (List.contains_iff_mem.2 hmem)]
        rcases ih s₁ with ⟨d, s', heq, hroll', hfree⟩ | ⟨s', heq, hsilent | hall⟩
        · exact Or.inl ⟨d, s', heq, hroll.trans hroll', hfree⟩
        · exact Or.inr ⟨s', heq, Or.inl (hsilent.mono hroll)⟩
        · refine Or.inr ⟨s', heq, Or.inr ?_⟩
          intro k hk
          cases k with
          | zero => exact ⟨c, hmem, by rw [cellAfter, hdrawn]⟩
          | succ k =>
            rw [cellAfter, hdrawn]
            exact hall k (Nat.lt_of_succ_lt_succ hk)
      · rw [if_neg (fun hcontains => hmem (List.contains_iff_mem.1 hcontains))]
        exact Or.inl ⟨c, s₁, rfl, hroll, hgrid, hmem⟩
    · rw [hdrawn]
      exact Or.inr ⟨s₁, rfl, Or.inl hsilent⟩

/-- No free cell has been found, or the same one is found when the draws are followed further. -/
theorem drawFree_settled (source : DrawSource σ) (hmore : draws ≤ more) (taken : List Cell)
    (s : σ) :
    (∃ s', drawFree source taken draws s = (none, s')) ∨
      drawFree source taken more s = drawFree source taken draws s := by
  induction draws generalizing more s with
  | zero => exact Or.inl ⟨s, rfl⟩
  | succ draws ih =>
    obtain ⟨more, rfl⟩ : ∃ k, more = k + 1 := ⟨more - 1, by omega⟩
    rw [drawFree, drawFree]
    rcases drawCell_cases source s with ⟨c, s₁, hdrawn, -⟩ | ⟨s₁, hdrawn, -⟩
    · rw [hdrawn, andThen_some, andThen_some]
      split
      · exact ih (by omega) s₁
      · exact Or.inr rfl
    · rw [hdrawn]
      exact Or.inl ⟨s₁, rfl⟩

/-! ## Drawing several cells -/

/-- The cells lie on the grid, apart from each other and off those that are taken. -/
structure Scattered (taken cells : List Cell) : Prop where
  onGrid : ∀ c ∈ cells, OnGrid c
  free : ∀ c ∈ cells, c ∉ taken
  nodup : cells.Nodup

theorem scattered_nil (taken : List Cell) : Scattered taken [] where
  onGrid := fun _ hc => absurd hc List.not_mem_nil
  free := fun _ hc => absurd hc List.not_mem_nil
  nodup := List.nodup_nil

/-- One more free cell keeps the cells scattered. -/
theorem Scattered.cons {taken cells : List Cell} (h : Scattered taken cells) {c : Cell}
    (hgrid : OnGrid c) (hfree : c ∉ cells ++ taken) : Scattered taken (c :: cells) := by
  obtain ⟨hnew, hoff⟩ := not_or.1 (mt List.mem_append.2 hfree)
  refine ⟨?_, ?_, List.nodup_cons.2 ⟨hnew, h.nodup⟩⟩
  · exact List.forall_mem_cons.2 ⟨hgrid, h.onGrid⟩
  · exact List.forall_mem_cons.2 ⟨hoff, h.free⟩

theorem Scattered.perm {taken cells cells' : List Cell} (h : Scattered taken cells)
    (hperm : cells'.Perm cells) : Scattered taken cells' where
  onGrid := fun c hc => h.onGrid c (hperm.mem_iff.1 hc)
  free := fun c hc => h.free c (hperm.mem_iff.1 hc)
  nodup := hperm.nodup_iff.2 h.nodup

/-- Cells are drawn one after the other, each of them on the grid, free and new. -/
theorem drawCells_cases (source : DrawSource σ) (draws : Nat) {taken drawn : List Cell}
    (h : Scattered taken drawn) (count : Nat) (s : σ) :
    (∃ cells s', drawCells source draws taken count drawn s = (some cells, s') ∧
        Rolled source s s' ∧ Scattered taken cells ∧ cells.length = count + drawn.length) ∨
      ∃ s', drawCells source draws taken count drawn s = (none, s') ∧
        Stalls source draws (count + drawn.length + taken.length) s := by
  induction count generalizing drawn s with
  | zero => exact Or.inl ⟨drawn, s, rfl, .refl, h, (Nat.zero_add _).symm⟩
  | succ count ih =>
    rw [drawCells]
    rcases drawFree_cases source (drawn ++ taken) draws s with
      ⟨c, s', heq, hroll, hgrid, hfree⟩ | ⟨s', heq, hwhy⟩
    · rw [heq, andThen_some]
      have hlength : count + (c :: drawn).length = count + 1 + drawn.length := by
        rw [List.length_cons]
        omega
      have hrest := ih (h.cons hgrid hfree) s'
      rw [hlength] at hrest
      rcases hrest with ⟨cells, s₂, heq', hroll', hcells⟩ | ⟨s₂, heq', hstalls⟩
      · exact Or.inl ⟨cells, s₂, heq', hroll.trans hroll', hcells⟩
      · exact Or.inr ⟨s₂, heq', hstalls.mono hroll (Nat.le_refl _)⟩
    · rw [heq]
      refine Or.inr ⟨s', rfl, ?_⟩
      rcases hwhy with hsilent | hall
      · exact Or.inl hsilent
      · refine Or.inr ⟨drawn ++ taken, s, .refl, ?_, hall⟩
        rw [List.length_append]
        omega

/-- Cells that were drawn are drawn alike with more draws allowed. -/
theorem drawCells_settled (source : DrawSource σ) (hmore : draws ≤ more) (taken : List Cell)
    (count : Nat) (drawn : List Cell) (s : σ) :
    (∃ s', drawCells source draws taken count drawn s = (none, s')) ∨
      drawCells source more taken count drawn s = drawCells source draws taken count drawn s := by
  induction count generalizing drawn s with
  | zero => exact Or.inr rfl
  | succ count ih =>
    rw [drawCells, drawCells]
    rcases drawFree_settled source hmore (drawn ++ taken) s with ⟨s', hnone⟩ | hsame
    · rw [hnone]
      exact Or.inl ⟨s', rfl⟩
    · rw [hsame]
      rcases drawFree_cases source (drawn ++ taken) draws s with ⟨c, s', heq, -⟩ | ⟨s', heq, -⟩
      · rw [heq]
        exact ih (c :: drawn) s'
      · rw [heq]
        exact Or.inl ⟨s', rfl⟩

/-! ## Making a world of them -/

/-- The parts of a layout make a world exactly if that world is sound. -/
theorem world_eq_ok_iff {start goal : Cell} {walls : List Cell} {items : List Item} :
    world start goal walls items = .ok w ↔
      w = ⟨6, start, goal, Cell.sortDistinct walls, items⟩ ∧ w.Sound := by
  have hmap : world start goal walls items = .ok w ↔
      World.build (6 : Int) start goal walls items = .ok w := by
    show (World.build (6 : Int) start goal walls items).mapError LayoutFault.unsound = .ok w ↔ _
    cases World.build (6 : Int) start goal walls items with
    | ok w' => simp [Except.mapError]
    | error faults => simp [Except.mapError]
  rw [hmap, World.build_eq_ok_iff]

/-- Parts that lie on the grid and apart from each other make a world. -/
theorem world_of_scattered {start goal : Cell} {walls : List Cell} {items : List Item}
    (hstart : OnGrid start) (hgoal : OnGrid goal) (hne : start ≠ goal)
    (hwalls : Scattered [start, goal] walls)
    (hitems : Scattered (walls ++ [start, goal]) (items.map (·.cell))) :
    world start goal walls items = .ok ⟨6, start, goal, Cell.sortDistinct walls, items⟩ := by
  refine world_eq_ok_iff.2 ⟨rfl, ?_⟩
  have hpassable (c : Cell) (hc : OnGrid c) (hfree : c ∉ walls) :
      World.isPassable ⟨6, start, goal, Cell.sortDistinct walls, items⟩ c :=
    World.isPassable_iff.2 ⟨World.inBounds_iff.2 hc, fun h => hfree (Cell.mem_sortDistinct.1 h)⟩
  have hitem (i : Item) (hi : i ∈ items) :
      OnGrid i.cell ∧ i.cell ∉ walls ∧ i.cell ∉ [start, goal] := by
    have hmem : i.cell ∈ items.map (·.cell) := List.mem_map_of_mem hi
    exact ⟨hitems.onGrid _ hmem, not_or.1 (mt List.mem_append.2 (hitems.free _ hmem))⟩
  refine ⟨(by decide : (1 : Int) ≤ 6), ?_, ?_, ?_, ?_, hne, ?_, hitems.nodup⟩
  · intro c hc
    exact World.inBounds_iff.2 (hwalls.onGrid c (Cell.mem_sortDistinct.1 hc))
  · exact hpassable start hstart (fun h => hwalls.free start h (by simp))
  · exact hpassable goal hgoal (fun h => hwalls.free goal h (by simp))
  · intro i hi
    exact hpassable i.cell (hitem i hi).1 (hitem i hi).2.1
  · rintro i hi rfl
    exact (hitem i hi).2.2 (by simp)

/-- In every layout that is given, the parts make a world in which the goal can be reached. -/
theorem world_of_given {number : Int} {start goal : Cell} {walls : List Cell}
    (h : given? number = some (start, goal, walls)) :
    world start goal walls [] = .ok ⟨6, start, goal, Cell.sortDistinct walls, []⟩ ∧
      (⟨6, start, goal, Cell.sortDistinct walls, []⟩ : World).isSolvable := by
  rw [world_eq_ok_iff]
  unfold given? at h
  split at h
  all_goals cases h
  all_goals exact ⟨⟨rfl, by decide +kernel⟩, by decide +kernel⟩

/-- The first six levels have given layouts. -/
theorem given?_eq_none_iff {number : Int} : given? number = none ↔ number < 1 ∨ 6 < number := by
  constructor
  · intro h
    apply Decidable.byContradiction
    intro hin
    have hcases : number = 1 ∨ number = 2 ∨ number = 3 ∨ number = 4 ∨ number = 5 ∨ number = 6 := by
      omega
    rcases hcases with rfl | rfl | rfl | rfl | rfl | rfl
    all_goals cases h
  · intro h
    unfold given?
    split
    case h_7 => rfl
    all_goals omega

/-! ## Layouts with items -/

theorem map_cell_itemsAt (cells : List Cell) : (itemsAt cells).map (·.cell) = cells := by
  simp [itemsAt, List.map_map, Function.comp_def]

/-- The kinds of the items take turns. -/
theorem kind_itemsAt {cells : List Cell} {k : Nat} {i : Item} (h : (itemsAt cells)[k]? = some i) :
    ItemKind.all[k % 3]? = some i.kind := by
  have hk : k % 3 = 0 ∨ k % 3 = 1 ∨ k % 3 = 2 := by omega
  simp only [itemsAt, List.getElem?_map, List.getElem?_zipIdx, Option.map_eq_some_iff] at h
  obtain ⟨_, ⟨c, -, rfl⟩, rfl⟩ := h
  rcases hk with hk | hk | hk
  all_goals simp [hk, ItemKind.all]

/-- A world with so many walls and items. The start and the goal are in opposite corners, and each
item has a cell of its own, which is none of theirs and no wall. The kinds of the items go round. -/
structure Filled (walls items : Nat) (w : World) : Prop where
  size : w.size = 6
  start : w.start = ⟨0, 0⟩
  goal : w.goal = ⟨5, 5⟩
  walls_distinct : w.walls.Nodup
  walls_length : w.walls.length = walls
  items_length : w.items.length = items
  items_apart : (w.items.map (·.cell)).Nodup
  items_free : ∀ i ∈ w.items, i.cell ≠ w.start ∧ i.cell ≠ w.goal ∧ i.cell ∉ w.walls
  items_kind : ∀ (k : Nat) (i : Item), w.items[k]? = some i → ItemKind.all[k % 3]? = some i.kind

/-- A layout with items comes to a sound world, if the draws do not stall. -/
theorem drawWithItems_cases (source : DrawSource σ) (draws walls items : Nat) (s : σ) :
    (∃ w s', drawWithItems source draws walls items s = (.ok w, s') ∧ Rolled source s s' ∧
        w.Sound ∧ Filled walls items w) ∨
      ∃ s', drawWithItems source draws walls items s = (.error .noFreeCell, s') ∧
        Stalls source draws (walls + items + 2) s := by
  unfold drawWithItems
  dsimp only
  -- the walls are drawn first, then the items off the walls
  rcases drawCells_cases source draws (scattered_nil [⟨0, 0⟩, ⟨5, 5⟩]) walls s with
    ⟨ws, s₁, heq, hroll, hws, hlength⟩ | ⟨s₁, heq, hstalls⟩
  · rw [heq]
    dsimp only
    rcases drawCells_cases source draws (scattered_nil (ws ++ [⟨0, 0⟩, ⟨5, 5⟩])) items s₁ with
      ⟨cells, s₂, heq', hroll', hcells, hlength'⟩ | ⟨s₂, heq', hstalls⟩
    · rw [heq']
      have hitems : Scattered (ws ++ [⟨0, 0⟩, ⟨5, 5⟩])
          ((itemsAt cells.reverse).map (·.cell)) := by
        rw [map_cell_itemsAt]
        exact hcells.perm cells.reverse_perm
      have hworld := world_of_scattered (by decide) (by decide) (by decide) hws hitems
      have hsorted := Cell.sortDistinct_perm hws.nodup
      refine Or.inl ⟨_, s₂, by dsimp only; rw [hworld], hroll.trans hroll',
        (world_eq_ok_iff.1 hworld).2, ?_⟩
      refine ⟨rfl, rfl, rfl, hsorted.nodup_iff.2 hws.nodup, ?_, ?_, hitems.nodup, ?_, ?_⟩
      · rw [hsorted.length_eq, hlength]
        rfl
      · have hcount := congrArg List.length (map_cell_itemsAt cells.reverse)
        rwa [List.length_map, List.length_reverse, hlength'] at hcount
      · intro i hi
        have hoff := hitems.free i.cell (List.mem_map_of_mem hi)
        simp only [List.mem_append, List.mem_cons, List.not_mem_nil, or_false, not_or] at hoff
        exact ⟨hoff.2.1, hoff.2.2, fun h => hoff.1 (Cell.mem_sortDistinct.1 h)⟩
      · exact fun k i h => kind_itemsAt h
    · rw [heq']
      refine Or.inr ⟨s₂, rfl, hstalls.mono hroll ?_⟩
      simp only [List.length_append, List.length_cons, List.length_nil] at hlength ⊢
      omega
  · rw [heq]
    refine Or.inr ⟨s₁, rfl, hstalls.mono .refl ?_⟩
    simp only [List.length_cons, List.length_nil]
    omega

/-- A layout with items that was drawn is drawn alike with more draws allowed. -/
theorem drawWithItems_settled (source : DrawSource σ) (hmore : draws ≤ more) (walls items : Nat)
    (s : σ) :
    (∃ s', drawWithItems source draws walls items s = (.error .noFreeCell, s')) ∨
      drawWithItems source more walls items s = drawWithItems source draws walls items s := by
  unfold drawWithItems
  dsimp only
  rcases drawCells_settled source hmore [⟨0, 0⟩, ⟨5, 5⟩] walls [] s with ⟨s', hnone⟩ | hsame
  · rw [hnone]
    exact Or.inl ⟨s', rfl⟩
  · rw [hsame]
    split
    · exact Or.inr rfl
    · next ws s₁ _ =>
      rcases drawCells_settled source hmore (ws ++ [⟨0, 0⟩, ⟨5, 5⟩]) items [] s₁ with
        ⟨s', hnone⟩ | hsame
      · rw [hnone]
        exact Or.inl ⟨s', rfl⟩
      · exact Or.inr (by rw [hsame])

/-! ## Layouts without items -/

/-- A world without items. The start is in the left half and the goal in the right half, and there
are from four to nine walls, or none. -/
structure Plain (hasWalls : Bool) (w : World) : Prop where
  size : w.size = 6
  start : w.start.x < 3
  goal : 3 ≤ w.goal.x
  items : w.items = []
  walls_distinct : w.walls.Nodup
  walls_length : if hasWalls then 4 ≤ w.walls.length ∧ w.walls.length ≤ 9 else w.walls.length = 0

/-- The first draws settle a start in the left half, a goal in the right half and a number of
walls. -/
theorem drawEnds_cases (source : DrawSource σ) (hasWalls : Bool) (s : σ) :
    (∃ start goal count s', drawEnds source hasWalls s = (some (start, goal, count), s') ∧
        Rolled source s s' ∧ OnGrid start ∧ OnGrid goal ∧ start.x < 3 ∧ 3 ≤ goal.x ∧
        if hasWalls then 4 ≤ count ∧ count ≤ 9 else count = 0) ∨
      ∃ s', drawEnds source hasWalls s = (none, s') ∧ Silent source s := by
  have hstart (x : Fin 3) (y : Fin 6) : OnGrid ⟨x, y⟩ := onGrid_of_lt (by omega) y.isLt
  have hgoal (x : Fin 3) (y : Fin 6) : OnGrid ⟨3 + x, y⟩ :=
    onGrid_of_lt (x := 3 + x) (by omega) y.isLt
  have hleft (x : Fin 3) : (x : Int) < 3 := by omega
  have hright (x : Fin 3) : 3 ≤ 3 + (x : Int) := by omega
  have hcount (more : Fin 6) : 4 ≤ 4 + more.val ∧ 4 + more.val ≤ 9 := by omega
  unfold drawEnds
  -- column and row of the start, then of the goal
  rcases roll_cases source 3 (by decide) s with ⟨x, s₁, hx, h₁⟩ | ⟨s₁, hx, hsilent⟩
  case inr =>
    rw [hx]
    exact Or.inr ⟨s₁, rfl, hsilent⟩
  rw [hx, andThen_some]
  rcases roll_cases source 6 (by decide) s₁ with ⟨y, s₂, hy, h₂⟩ | ⟨s₂, hy, hsilent⟩
  case inr =>
    rw [hy]
    exact Or.inr ⟨s₂, rfl, hsilent.mono h₁⟩
  rw [hy, andThen_some]
  rcases roll_cases source 3 (by decide) s₂ with ⟨u, s₃, hu, h₃⟩ | ⟨s₃, hu, hsilent⟩
  case inr =>
    rw [hu]
    exact Or.inr ⟨s₃, rfl, hsilent.mono (h₁.trans h₂)⟩
  rw [hu, andThen_some]
  rcases roll_cases source 6 (by decide) s₃ with ⟨v, s₄, hv, h₄⟩ | ⟨s₄, hv, hsilent⟩
  case inr =>
    rw [hv]
    exact Or.inr ⟨s₄, rfl, hsilent.mono ((h₁.trans h₂).trans h₃)⟩
  rw [hv, andThen_some]
  have hroll : Rolled source s s₄ := ((h₁.trans h₂).trans h₃).trans h₄
  cases hasWalls with
  | false =>
    exact Or.inl ⟨_, _, _, s₄, rfl, hroll, hstart x y, hgoal u v, hleft x, hright u, rfl⟩
  | true =>
    -- with walls, their number is drawn too
    rcases roll_cases source 6 (by decide) s₄ with
      ⟨more, s₅, hmore, h₅⟩ | ⟨s₅, hmore, hsilent⟩
    · dsimp only
      rw [if_pos rfl, hmore]
      exact Or.inl ⟨_, _, _, s₅, rfl, hroll.trans h₅, hstart x y, hgoal u v, hleft x, hright u,
        hcount more⟩
    · dsimp only
      rw [if_pos rfl, hmore]
      exact Or.inr ⟨s₅, rfl, hsilent.mono hroll⟩

/-- A layout without items comes to a sound world, if the draws do not stall. -/
theorem drawPlain_cases (source : DrawSource σ) (draws : Nat) (hasWalls : Bool) (s : σ) :
    (∃ w s', drawPlain source draws hasWalls s = (.ok w, s') ∧ Rolled source s s' ∧ w.Sound ∧
        Plain hasWalls w) ∨
      ∃ s', drawPlain source draws hasWalls s = (.error .noFreeCell, s') ∧
        Stalls source draws 11 s := by
  unfold drawPlain
  -- first the start and the goal are drawn, then the walls off both of them
  rcases drawEnds_cases source hasWalls s with
    ⟨start, goal, count, s₁, heq, hroll, hstart, hgoal, hleft, hright, hcount⟩ |
    ⟨s₁, heq, hsilent⟩
  · have hne : start ≠ goal := by
      rintro rfl
      omega
    rw [heq]
    dsimp only
    rw [drawWalls]
    rcases drawCells_cases source draws (scattered_nil [start, goal]) count s₁ with
      ⟨ws, s₂, hdraw, hroll', hws, hlength⟩ | ⟨s₂, hdraw, hstalls⟩
    · rw [hdraw]
      have hnone : Scattered (ws ++ [start, goal]) (([] : List Item).map (·.cell)) :=
        scattered_nil _
      have hworld := world_of_scattered hstart hgoal hne hws hnone
      have hsorted := Cell.sortDistinct_perm hws.nodup
      refine Or.inl ⟨_, s₂, by dsimp only; rw [hworld], hroll.trans hroll',
        (world_eq_ok_iff.1 hworld).2, ?_⟩
      refine ⟨rfl, hleft, hright, rfl, hsorted.nodup_iff.2 hws.nodup, ?_⟩
      rw [hsorted.length_eq, hlength]
      exact hcount
    · rw [hdraw]
      have hfew : count ≤ 9 := by
        split at hcount
        · exact hcount.2
        · omega
      refine Or.inr ⟨s₂, rfl, hstalls.mono hroll ?_⟩
      simp only [List.length_cons, List.length_nil]
      omega
  · rw [heq]
    exact Or.inr ⟨s₁, rfl, Or.inl hsilent⟩

/-- A layout without items that was drawn is drawn alike with more draws allowed. -/
theorem drawPlain_settled (source : DrawSource σ) (hmore : draws ≤ more) (hasWalls : Bool) (s : σ) :
    (∃ s', drawPlain source draws hasWalls s = (.error .noFreeCell, s')) ∨
      drawPlain source more hasWalls s = drawPlain source draws hasWalls s := by
  unfold drawPlain
  rcases drawEnds_cases source hasWalls s with ⟨start, goal, count, s₁, heq, -⟩ | ⟨s₁, heq, -⟩
  · rw [heq]
    dsimp only
    rw [drawWalls, drawWalls]
    rcases drawCells_settled source hmore [start, goal] count [] s₁ with ⟨s', hnone⟩ | hsame
    · rw [hnone]
      exact Or.inl ⟨s', rfl⟩
    · exact Or.inr (by rw [hsame])
  · rw [heq]
    exact Or.inl ⟨s₁, rfl⟩

/-! ## Attempts -/

/-- What holds of every layout that is drawn holds of the one that is taken, and in that one
everything can be reached. An attempt fails for want of such a layout, or as a draw fails. Only
states that the draws come to matter. -/
theorem attempt_cases {draw : σ → Except LayoutFault World × σ} {I : σ → Prop} {P : World → Prop}
    {Q : LayoutFault → Prop}
    (hdraw : ∀ s, I s → (∃ w s', draw s = (.ok w, s') ∧ I s' ∧ P w) ∨
      ∃ f s', draw s = (.error f, s') ∧ Q f)
    (fault : LayoutFault) (attempts : Nat) {s : σ} (hs : I s) :
    (∃ w, attempt draw fault attempts s = .ok w ∧ w.isSolvable ∧ P w) ∨
      ∃ f, attempt draw fault attempts s = .error f ∧ (f = fault ∨ Q f) := by
  induction attempts generalizing s with
  | zero => exact Or.inr ⟨fault, rfl, Or.inl rfl⟩
  | succ attempts ih =>
    rw [attempt]
    rcases hdraw s hs with ⟨w, s', heq, hs', hw⟩ | ⟨f, s', heq, hf⟩
    · rw [heq]
      dsimp only
      split
      · next hsolv => exact Or.inl ⟨w, rfl, hsolv, hw⟩
      · exact ih hs'
    · rw [heq]
      exact Or.inr ⟨f, rfl, Or.inr hf⟩

/-- Attempts whose draws are settled are settled. -/
theorem attempt_settled {draw draw' : σ → Except LayoutFault World × σ}
    (hdraw : ∀ s, (∃ s', draw s = (.error .noFreeCell, s')) ∨ draw' s = draw s)
    (fault : LayoutFault) (attempts : Nat) (s : σ) :
    attempt draw fault attempts s = .error .noFreeCell ∨
      attempt draw' fault attempts s = attempt draw fault attempts s := by
  induction attempts generalizing s with
  | zero => exact Or.inr rfl
  | succ attempts ih =>
    rw [attempt, attempt]
    rcases hdraw s with ⟨s', hnone⟩ | hsame
    · rw [hnone]
      exact Or.inl rfl
    · rw [hsame]
      split
      · exact Or.inr rfl
      · split
        · exact Or.inr rfl
        · exact ih _

/-! ## Levels -/

/-- No level has more than eight walls. -/
theorem wallCount_le (number : Int) : wallCount number ≤ 8 := by
  unfold wallCount
  omega

/-- A level has a sound world in which everything can be reached, the one that is given or one with
the walls and items that the level asks for. Otherwise every attempt came to an end without one, or
the draws stalled. -/
theorem generateWithin_cases (source : DrawSource σ) (draws : Nat) (number : Int) (t : Terrain)
    (attempts : Int) (s : σ) :
    (∃ w, generateWithin source draws number t attempts s = .ok w ∧ w.Sound ∧ w.isSolvable ∧
        (∀ start goal walls, given? number = some (start, goal, walls) →
          w = ⟨6, start, goal, Cell.sortDistinct walls, []⟩) ∧
        (given? number = none →
          if t.items = 0 then Plain t.hasWalls w
          else Filled (if t.hasWalls then wallCount number else 0) t.items.toNat w)) ∨
      generateWithin source draws number t attempts s =
        .error (.unreachable (.int number) (.int attempts)) ∨
      (generateWithin source draws number t attempts s = .error .noFreeCell ∧
        Stalls source draws (t.items.toNat + 11) s) := by
  unfold generateWithin
  cases hgiven : given? number with
  | some layout =>
    -- the first levels have a layout that needs no draws
    obtain ⟨start, goal, walls⟩ := layout
    obtain ⟨hworld, hsolv⟩ := world_of_given hgiven
    refine Or.inl ⟨_, hworld, (world_eq_ok_iff.1 hworld).2, hsolv, ?_, nofun⟩
    rintro _ _ _ ⟨⟩
    rfl
  | none =>
    dsimp only
    -- what one attempt can come to, wherever the draws before it have led
    have hdraw (s₁ : σ) (hs₁ : Rolled source s s₁) :
        (∃ w s', (if t.items = 0 then drawPlain source draws t.hasWalls
            else drawWithItems source draws (if t.hasWalls then wallCount number else 0)
              t.items.toNat) s₁ = (.ok w, s') ∧ Rolled source s s' ∧
          w.Sound ∧ if t.items = 0 then Plain t.hasWalls w
            else Filled (if t.hasWalls then wallCount number else 0) t.items.toNat w) ∨
        ∃ f s', (if t.items = 0 then drawPlain source draws t.hasWalls
            else drawWithItems source draws (if t.hasWalls then wallCount number else 0)
              t.items.toNat) s₁ = (.error f, s') ∧
          f = .noFreeCell ∧ Stalls source draws (t.items.toNat + 11) s := by
      by_cases hitems : t.items = 0
      · simp only [if_pos hitems]
        rcases drawPlain_cases source draws t.hasWalls s₁ with
          ⟨w, s', heq, hroll, hw⟩ | ⟨s', heq, hstalls⟩
        · exact Or.inl ⟨w, s', heq, hs₁.trans hroll, hw⟩
        · exact Or.inr ⟨_, s', heq, rfl, hstalls.mono hs₁ (Nat.le_add_left _ _)⟩
      · simp only [if_neg hitems]
        have hfew : (if t.hasWalls then wallCount number else 0) ≤ 8 := by
          split
          · exact wallCount_le number
          · exact Nat.zero_le 8
        rcases drawWithItems_cases source draws _ t.items.toNat s₁ with
          ⟨w, s', heq, hroll, hw⟩ | ⟨s', heq, hstalls⟩
        · exact Or.inl ⟨w, s', heq, hs₁.trans hroll, hw⟩
        · exact Or.inr ⟨_, s', heq, rfl, hstalls.mono hs₁ (by omega)⟩
    rcases attempt_cases hdraw (.unreachable (.int number) (.int attempts)) attempts.toNat
        .refl with
      ⟨w, heq, hsolv, hsound, hfits⟩ | ⟨f, heq, rfl | ⟨rfl, hstalls⟩⟩
    · exact Or.inl ⟨w, heq, hsound, hsolv, nofun, fun _ => hfits⟩
    · exact Or.inr (Or.inl heq)
    · exact Or.inr (Or.inr ⟨heq, hstalls⟩)

/-- The draws were not followed to their end, or the answer stays when they are followed further. -/
theorem generateWithin_settled (source : DrawSource σ) (hmore : draws ≤ more) (number : Int)
    (t : Terrain) (attempts : Int) (s : σ) :
    generateWithin source draws number t attempts s = .error .noFreeCell ∨
      generateWithin source more number t attempts s =
        generateWithin source draws number t attempts s := by
  unfold generateWithin
  cases given? number with
  | some layout => exact Or.inr rfl
  | none =>
    apply attempt_settled
    intro s
    split
    · exact drawPlain_settled source hmore t.hasWalls s
    · exact drawWithItems_settled source hmore _ _ s

/-- Whatever is drawn, the parts of a layout make a world, so that a level lacks one only if every
attempt came to an end with something out of reach. A world of a level is sound and of size six, and
its goal and its items can be reached. If it was drawn, it has the walls and items that the level
asks for.

The draws for a cell are followed only so far. They are given up only where so many in a row gave a
taken cell or one of them came to no number, and every other answer stays when they are followed
further. -/
theorem generated_worlds_proper (source : DrawSource σ) (draws : Nat) (number : Int) (t : Terrain)
    (attempts : Int) (s : σ) :
    ((∃ w, generateWithin source draws number t attempts s = .ok w ∧
          w.Sound ∧ w.isSolvable ∧ w.size = 6 ∧
          (number < 1 ∨ 6 < number →
            if t.items = 0 then Plain t.hasWalls w
            else Filled (if t.hasWalls then (min 8 (3 + number)).toNat else 0) t.items.toNat w)) ∨
        generateWithin source draws number t attempts s =
          .error (.unreachable (.int number) (.int attempts)) ∨
        (generateWithin source draws number t attempts s = .error .noFreeCell ∧
          Stalls source draws (t.items.toNat + 11) s)) ∧
      (generateWithin source draws number t attempts s ≠ .error .noFreeCell →
        ∀ more ≥ draws, generateWithin source more number t attempts s =
          generateWithin source draws number t attempts s) := by
  constructor
  · rcases generateWithin_cases source draws number t attempts s with
      ⟨w, heq, hsound, hsolv, hgiven, hdrawn⟩ | hfault
    · refine Or.inl ⟨w, heq, hsound, hsolv, ?_, fun h => hdrawn (given?_eq_none_iff.2 h)⟩
      cases hlayout : given? number with
      | some layout => rw [hgiven _ _ _ hlayout]
      | none =>
        have hfits := hdrawn hlayout
        split at hfits
        · exact hfits.size
        · exact hfits.size
    · exact Or.inr hfault
  · intro h more hmore
    exact (generateWithin_settled source hmore number t attempts s).resolve_left h

end Layout

/-- Draws that are written down; nothing comes behind the last of them. -/
def Level.tape : DrawSource (List Nat) where
  roll bound
    | [] => (none, [])
    | n :: rest => (if h : n < bound then some ⟨n, h⟩ else none, rest)

/-- In the first layout that is drawn here walls lock in the start. In the second one, cells come up
that are taken already. -/
theorem Layout.generated_worlds_proper_second_attempt :
    let rolls : List Nat := [1, 0, 0, 1, 2, 0, 3, 0, 4, 0, 5, 0,
      0, 0, 1, 1, 1, 1, 5, 5, 2, 2, 1, 1, 3, 3, 3, 3, 0, 1, 4, 0, 5, 0]
    let draw (more : Nat) :=
      generateWithin Level.tape more (-1) { hasWalls := true, items := 4 } 100 rolls
    ∃ w, draw 3 = .ok w ∧ w.walls = [⟨1, 1⟩, ⟨2, 2⟩] ∧
      w.items = [⟨⟨3, 3⟩, .coin⟩, ⟨⟨0, 1⟩, .gem⟩, ⟨⟨4, 0⟩, .key⟩, ⟨⟨5, 0⟩, .coin⟩] ∧
      w.isSolvable ∧ Filled 2 4 w ∧ ∀ more ≥ 3, draw more = .ok w := by
  intro rolls draw
  have hdraw : draw 3 = .ok ⟨6, ⟨0, 0⟩, ⟨5, 5⟩, [⟨1, 1⟩, ⟨2, 2⟩],
      [⟨⟨3, 3⟩, .coin⟩, ⟨⟨0, 1⟩, .gem⟩, ⟨⟨4, 0⟩, .key⟩, ⟨⟨5, 0⟩, .coin⟩]⟩ := by
    decide +kernel
  obtain ⟨⟨w, heq, -, hsolv, -, hfits⟩ | hfault | ⟨hfault, -⟩, hmore⟩ :=
    generated_worlds_proper Level.tape 3 (-1) { hasWalls := true, items := 4 } 100 rolls
  · have hsame := hdraw.symm.trans heq
    cases hsame
    refine ⟨_, hdraw, rfl, rfl, hsolv, hfits (by decide), ?_⟩
    intro more hthree
    exact (hmore (by rw [heq]; nofun) more hthree).trans hdraw
  · cases hdraw.symm.trans hfault
  · cases hdraw.symm.trans hfault

end GridRobot
