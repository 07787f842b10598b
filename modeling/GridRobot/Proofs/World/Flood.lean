import GridRobot.Proofs.World.Soundness
import GridRobot.Proofs.World.Walk
import GridRobot.World.Reach
import Mathlib.Data.List.Perm.Subperm

/-!
# The flood reaches what trails reach

The flood keeps a queue and the cells seen so far. `FloodInv` is the invariant of its loop: no cell
is seen twice, what is seen is joined with the start, and a seen cell that is no longer in the queue
has all its passable neighbours seen.

* `mem_reachable_iff`: the cells within reach are those that are joined with the start;
* `isSolvable_iff`: a world is solvable exactly if the goal and all items are joined with the start.

The number of steps of the flood is enough, since each step takes a cell off the queue for good and
there are no more cells to be seen than the grid has.
-/

namespace GridRobot.World

variable {w : World} {c : Cell} {queue seen : List Cell}

/-! ## Cells of the grid -/

/-- All cells of a grid, column by column. -/
def gridCells (n : Nat) : List Cell :=
  (List.range n).flatMap (fun (x : Nat) => (List.range n).map (fun (y : Nat) => ⟨x, y⟩))

theorem length_gridCells (n : Nat) : (gridCells n).length = n * n := by
  simp [gridCells, List.length_flatMap]

/-- Every cell in bounds is a cell of the grid. -/
theorem mem_gridCells (h : w.inBounds c) : c ∈ gridCells w.size.toNat := by
  obtain ⟨⟨hx0, hx⟩, hy0, hy⟩ := inBounds_iff.1 h
  have hcol : c.x.toNat < w.size.toNat := by omega
  have hrow : c.y.toNat < w.size.toNat := by omega
  refine List.mem_flatMap.2 ⟨c.x.toNat, List.mem_range.2 hcol, ?_⟩
  refine List.mem_map.2 ⟨c.y.toNat, List.mem_range.2 hrow, ?_⟩
  rw [Cell.ext_iff_int]
  exact ⟨Int.toNat_of_nonneg hx0, Int.toNat_of_nonneg hy0⟩

/-- Distinct cells of the grid are no more than the grid has. -/
theorem length_le_of_inBounds {cs : List Cell} (hnd : cs.Nodup) (hin : ∀ c ∈ cs, w.inBounds c) :
    cs.length ≤ w.size.toNat * w.size.toNat := by
  have hsub : cs ⊆ gridCells w.size.toNat := fun c hc => mem_gridCells (hin c hc)
  have hle := (List.subperm_of_subset hnd hsub).length_le
  rwa [length_gridCells] at hle

/-! ## One step -/

theorem mem_neighbours {c n : Cell} : n ∈ neighbours c ↔ ∃ d, n = c.step d := by
  constructor
  · intro h
    simp only [neighbours, List.mem_cons, List.not_mem_nil, or_false] at h
    rcases h with h | h | h | h
    · exact ⟨.right, h⟩
    · exact ⟨.left, h⟩
    · exact ⟨.down, h⟩
    · exact ⟨.up, h⟩
  · rintro ⟨d, rfl⟩
    cases d <;> simp [neighbours]

theorem nodup_neighbours (c : Cell) : (neighbours c).Nodup := by
  simp [neighbours, Cell.ext_iff_int, Direction.offset]

/-- A fresh cell is a neighbour that is passable and has not been seen. -/
theorem mem_fresh {n : Cell} :
    n ∈ w.fresh seen c ↔ (∃ d, n = c.step d) ∧ w.isPassable n ∧ n ∉ seen := by
  simp [fresh, mem_neighbours]

theorem nodup_fresh (w : World) (seen : List Cell) (c : Cell) : (w.fresh seen c).Nodup :=
  (nodup_neighbours c).filter _

/-- The invariant of the flood. -/
structure FloodInv (w : World) (queue seen : List Cell) : Prop where
  nodup : seen.Nodup
  queue_seen : ∀ c ∈ queue, c ∈ seen
  start_seen : w.start ∈ seen
  joined : ∀ c ∈ seen, w.Joined w.start c
  closed : ∀ c ∈ seen, c ∈ queue ∨ ∀ d, w.isPassable (c.step d) → c.step d ∈ seen

/-- The invariant holds at the start. -/
theorem FloodInv.init (w : World) : w.FloodInv [w.start] [w.start] where
  nodup := by simp
  queue_seen c hc := hc
  start_seen := by simp
  joined c hc := by
    rw [List.mem_singleton.1 hc]
    exact Joined.refl w w.start
  closed c hc := Or.inl hc

/-- The invariant is kept by every step. -/
theorem FloodInv.step (h : w.FloodInv (c :: queue) seen) :
    w.FloodInv (queue ++ w.fresh seen c) (w.fresh seen c ++ seen) where
  nodup := by
    refine List.nodup_append.2 ⟨nodup_fresh w seen c, h.nodup, ?_⟩
    rintro n hn m hm rfl
    exact (mem_fresh.1 hn).2.2 hm
  queue_seen n hn := by
    rcases List.mem_append.1 hn with hn | hn
    · exact List.mem_append_right _ (h.queue_seen n (List.mem_cons_of_mem _ hn))
    · exact List.mem_append_left _ hn
  start_seen := List.mem_append_right _ h.start_seen
  joined n hn := by
    rcases List.mem_append.1 hn with hn | hn
    · obtain ⟨⟨d, rfl⟩, hp, -⟩ := mem_fresh.1 hn
      exact (h.joined c (h.queue_seen c List.mem_cons_self)).step hp
    · exact h.joined n hn
  closed n hn := by
    rcases List.mem_append.1 hn with hn | hn
    · exact Or.inl (List.mem_append_right _ hn)
    · rcases h.closed n hn with hq | hall
      · rcases List.mem_cons.1 hq with rfl | hq
        · -- the cell just taken off the queue: its neighbours are seen now, if not before
          right
          intro d hp
          by_cases hs : n.step d ∈ seen
          · exact List.mem_append_right _ hs
          · exact List.mem_append_left _ (mem_fresh.2 ⟨⟨d, rfl⟩, hp, hs⟩)
        · exact Or.inl (List.mem_append_left _ hq)
      · exact Or.inr (fun d hp => List.mem_append_right _ (hall d hp))

/-! ## The whole flood -/

/-- While the invariant holds, no more cells are seen than the grid has. -/
theorem FloodInv.length_le (h : w.FloodInv queue seen) (hs : w.isPassable w.start) :
    seen.length ≤ w.size.toNat * w.size.toNat := by
  apply length_le_of_inBounds h.nodup
  intro c hc
  exact (isPassable_iff.1 ((h.joined c hc).passable hs)).1

/-- The flood ends with an empty queue, if it may take more steps than there are cells that have not
yet left the queue. -/
theorem FloodInv.flood (h : w.FloodInv queue seen) (hs : w.isPassable w.start) {steps : Nat}
    (hsteps : w.size.toNat * w.size.toNat + queue.length < steps + seen.length) :
    w.FloodInv [] (w.flood steps queue seen) := by
  induction steps generalizing queue seen with
  | zero =>
    -- without steps, more cells would have been seen than the grid has
    have hle := h.length_le hs
    omega
  | succ steps ih =>
    cases queue with
    | nil => exact h
    | cons c queue =>
      -- a step adds the same cells to the queue and to the seen ones, and takes one off the queue
      apply ih h.step
      simp only [List.length_cons, List.length_append] at hsteps ⊢
      omega

/-- It holds when there is nothing left to visit. -/
theorem floodInv_reachable (hs : w.isPassable w.start) : w.FloodInv [] w.reachable := by
  apply (FloodInv.init w).flood hs
  simp only [Coordinate.extent_int, List.length_cons, List.length_nil]
  omega

/-- A seen cell whose neighbours are all seen leads to seen cells only. -/
theorem FloodInv.mem_of_joined (h : w.FloodInv [] seen) {a b : Cell} (ha : a ∈ seen)
    (hab : w.Joined a b) : b ∈ seen := by
  obtain ⟨ds, hds⟩ := hab
  induction ds generalizing a with
  | nil => rwa [← hds.eq_of_nil]
  | cons d ds ih =>
    rcases h.closed a ha with hq | hall
    · cases hq
    · exact ih (hall d hds.1) hds.2

/-- The cells within reach are those that are joined with the start. -/
theorem mem_reachable_iff (hs : w.isPassable w.start) :
    c ∈ w.reachable ↔ w.Joined w.start c := by
  have hinv := floodInv_reachable hs
  constructor
  · exact hinv.joined c
  · exact hinv.mem_of_joined hinv.start_seen

/-- A world is solvable exactly if the goal and all items are joined with the start. -/
theorem isSolvable_iff (hs : w.isPassable w.start) :
    w.isSolvable ↔ w.Joined w.start w.goal ∧ ∀ i ∈ w.items, w.Joined w.start i.cell := by
  simp [isSolvable, mem_reachable_iff hs]

end GridRobot.World
