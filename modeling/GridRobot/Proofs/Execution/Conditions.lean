import GridRobot.Proofs.Execution.Resume
import GridRobot.Proofs.World.Soundness

/-!
# What conditions foretell

A condition looks at the world by itself and does not ask what a move or a collect would do. Still
the two agree wherever a run can be, because the robot never leaves the passable cells of a world in
which the goal is passable and no wall is off the grid.

* `Block.emits_move_iff`, `Block.emits_collect_iff`: the event of a block that is run now;
* `Condition.goalAhead_iff`, `Condition.blocked_iff`, `Condition.itemHere_iff`: what a condition
  tells about the block that could be run next;
* `Machine.after_keeps`: what every action keeps holds at every point of a run.
-/

namespace GridRobot

/-! ## The event of a block -/

/-- The block, if it is run now, emits the event and nothing else. -/
def Block.Emits (w : World) (s : State) (path : Path) (b : Block) (e : Event) : Prop :=
  (b.exec w path s).2.trace = s.trace ++ [e]

/-- An action that emits an event adds this event, whatever else it changes. -/
theorem State.trace_emit_eq_iff {s t : State} (hjournal : t.journal = s.journal) {path : Path}
    {deed : Deed} {e : Event} :
    (t.emit path deed).trace = s.trace ++ [e] ↔
      e = ⟨t.steps, deed, t.position, t.pouch.marks, path⟩ := by
  have htrace : t.trace = s.trace := by rw [State.trace, State.trace, hjournal]
  rw [State.trace_emit, htrace, List.append_cancel_left_eq, List.singleton_inj]
  exact eq_comm

namespace Block

variable {w : World} {s : State} {path : Path} {e : Event}

/-- A move emits one event, and it tells whether the cell ahead is passable. -/
theorem emits_move_iff {d : Direction} :
    Emits w s path (.move (.known d)) e ↔
      e = if w.isPassable (s.position.step d) then
          ⟨s.steps, .moved d (s.position.step d), s.position.step d, s.pouch.marks, path⟩
        else ⟨s.steps, .blocked d (s.position.step d), s.position, s.pouch.marks, path⟩ := by
  unfold Emits
  rw [exec, Action.perform]
  split
  · exact State.trace_emit_eq_iff rfl
  · exact State.trace_emit_eq_iff rfl

/-- A collect emits an event exactly if there is an item to take. -/
theorem emits_collect_iff :
    Emits w s path .collect e ↔
      ∃ item, s.pouch.itemAt? s.position = some item ∧
        e = ⟨s.steps, .collected item, s.position, (s.pouch.take s.position).2.marks, path⟩ := by
  unfold Emits
  rw [exec, Action.perform, ← Pouch.take_fst]
  obtain ⟨found, pouch⟩ := s.pouch.take s.position
  cases found with
  | none => simp [State.trace_note]
  | some item =>
    have hemit : (({ s with pouch := pouch } : State).emit path (.collected item)).trace =
        s.trace ++ [e] ↔ e = ⟨s.steps, .collected item, s.position, pouch.marks, path⟩ :=
      State.trace_emit_eq_iff rfl
    simp [hemit]

end Block

/-! ## Conditions where the robot can stand -/

namespace Condition

variable {w : World} {s : State} {path : Path}

/-- The goal is ahead exactly if a move up would lead onto it. -/
theorem goalAhead_iff (hw : w.Sound) :
    goalAhead.holds w s = true ↔ ∃ e target, Block.Emits w s path (.move (.known .up)) e ∧
      e.deed = .moved .up target ∧ e.position = w.goal := by
  have hholds : goalAhead.holds w s = true ↔ s.position.step .up = w.goal := by
    simp [holds]
  rw [hholds]
  constructor
  · intro hgoal
    have hpassable : w.isPassable (s.position.step .up) := hgoal ▸ hw.goal_passable
    exact ⟨_, _, Block.emits_move_iff.2 (if_pos hpassable).symm, rfl, hgoal⟩
  · rintro ⟨e, target, hemits, hdeed, hposition⟩
    rw [Block.emits_move_iff] at hemits
    split at hemits
    · rw [hemits] at hposition
      exact hposition
    · -- a move that is blocked is no move
      rw [hemits] at hdeed
      cases hdeed

/-- From a cell of the grid, what lies ahead is a wall, or the edge if the robot is in the first
row, or passable. -/
theorem not_passable_up_iff (hs : w.isPassable s.position) :
    ¬ w.isPassable (s.position.step .up) ↔
      wallAhead.holds w s = true ∨ s.position.y = 0 := by
  have hhere := World.inBounds_iff.1 (World.isPassable_iff.1 hs).1
  have hstep : s.position.step .up = ⟨s.position.x + 0, s.position.y + -1⟩ := rfl
  have hwall : wallAhead.holds w s = true ↔ s.position.step .up ∈ w.walls := World.isWall_iff
  have hbounds : w.inBounds (s.position.step .up) ↔ s.position.y ≠ 0 := by
    rw [World.inBounds_iff, hstep]
    dsimp only
    omega
  rw [World.isPassable_iff, hwall, hbounds, Decidable.not_and_iff_not_or_not, Decidable.not_not,
    Decidable.not_not]
  exact or_comm

theorem blocked_iff (hs : w.isPassable s.position) :
    (∃ e target, Block.Emits w s path (.move (.known .up)) e ∧ e.deed = .blocked .up target) ↔
      wallAhead.holds w s = true ∨ s.position.y = 0 := by
  rw [← not_passable_up_iff hs]
  constructor
  · rintro ⟨e, target, hemits, hdeed⟩ hpassable
    rw [Block.emits_move_iff, if_pos hpassable] at hemits
    rw [hemits] at hdeed
    cases hdeed
  · intro hblocked
    exact ⟨_, _, Block.emits_move_iff.2 (if_neg hblocked).symm, rfl⟩

/-- Behind the first row there are no walls. -/
theorem not_wallAhead_of_first_row (hw : w.Sound) (hrow : s.position.y = 0) :
    ¬ wallAhead.holds w s = true := by
  intro hwall
  have hinside := World.inBounds_iff.1 (hw.walls_inside _ (World.isWall_iff.1 hwall))
  have hup : (s.position.step .up).y = s.position.y + -1 := rfl
  omega

theorem itemHere_iff :
    itemHere.holds w s = true ↔
      ∃ e item, Block.Emits w s path .collect e ∧ e.deed = .collected item := by
  have hholds : itemHere.holds w s = true ↔
      ∃ item, s.pouch.itemAt? s.position = some item := Option.isSome_iff_exists
  rw [hholds]
  constructor
  · rintro ⟨item, hitem⟩
    exact ⟨_, item, Block.emits_collect_iff.2 ⟨item, hitem, rfl⟩, rfl⟩
  · rintro ⟨e, item, hemits, -⟩
    obtain ⟨item', hitem, -⟩ := Block.emits_collect_iff.1 hemits
    exact ⟨item', hitem⟩

end Condition

/-! ## Points of a run -/

/-- The robot does not leave the passable cells. -/
theorem Action.passable_perform {w : World} {s : State} (hs : w.isPassable s.position) (path : Path)
    (a : Action) : w.isPassable (a.perform w path s).position := by
  cases a with
  | move d =>
    rw [perform]
    split
    · next hpassable => exact hpassable
    · exact hs
  | collect =>
    rw [perform]
    split
    · exact hs
    · exact hs
  | wait => exact hs
  | breakOut => exact hs

namespace Machine

variable {κ : Type} [Coordinate κ] {w : World κ} {P : State κ → Prop}

/-- A turn changes the state by an action, or not at all. -/
theorem turn_keeps (hstep : ∀ path a s, P s → P (Action.perform w path s a)) {m : Machine κ}
    (hworld : m.world = w) (h : P m.state) (cancel : Nat → Bool) :
    (m.turn cancel).2.world = w ∧ P (m.turn cancel).2.state := by
  unfold turn
  split
  · exact ⟨hworld, h⟩
  · exact ⟨hworld, h⟩
  · next intent path rest _ =>
    split
    · exact ⟨hworld, h⟩
    · cases intent with
      | badMove v => exact ⟨hworld, h⟩
      | act a =>
        obtain ⟨hworld', hstate, -⟩ := m.perform_fields a path rest
        dsimp only
        rw [hworld', hstate, hworld]
        exact ⟨rfl, hstep path a m.state h⟩

/-- What every action keeps holds at every point of a run. -/
theorem after_keeps (hstep : ∀ path a s, P s → P (Action.perform w path s a)) {m : Machine κ}
    (hworld : m.world = w) (h : P m.state) (cancel : Nat → Bool) (n : Nat) :
    P (m.after cancel n).state := by
  induction n generalizing m with
  | zero => exact h
  | succ n ih =>
    obtain ⟨hworld', h'⟩ := turn_keeps hstep hworld h cancel
    exact ih hworld' h'

end Machine

/-- At every point of a run, the goal is ahead exactly if a move up would lead onto it; a move up
would be blocked exactly if there is a wall ahead or the robot is in the first row, and never for
both reasons; and there is an item here exactly if a collect would take one. -/
theorem Program.conditions_foretell {size : Int} {start goal : Cell} {walls : List Cell}
    {items : List Item} {w : World} (hw : World.build size start goal walls items = .ok w)
    (p : Program) (cancel : Nat → Bool) (n : Nat) (path : Path) :
    let s := ((Machine.start w p).after cancel n).state
    (Condition.goalAhead.holds w s = true ↔
        ∃ e target, Block.Emits w s path (.move (.known .up)) e ∧ e.deed = .moved .up target ∧
          e.position = w.goal) ∧
      ((∃ e target, Block.Emits w s path (.move (.known .up)) e ∧
          e.deed = .blocked .up target) ↔
        Condition.wallAhead.holds w s = true ∨ s.position.y = 0) ∧
      ¬ (Condition.wallAhead.holds w s = true ∧ s.position.y = 0) ∧
      (Condition.itemHere.holds w s = true ↔
        ∃ e item, Block.Emits w s path .collect e ∧ e.deed = .collected item) := by
  intro s
  have hsound := World.sound_of_build hw
  -- where the robot stands is kept by every action, so it holds wherever the run has come to
  have hs : w.isPassable s.position :=
    Machine.after_keeps (P := fun s => w.isPassable s.position)
      (fun path a _ h => Action.passable_perform h path a) rfl hsound.start_passable cancel n
  refine ⟨Condition.goalAhead_iff hsound, Condition.blocked_iff hs, ?_, Condition.itemHere_iff⟩
  rintro ⟨hwall, hrow⟩
  exact Condition.not_wallAhead_of_first_row hsound hrow hwall

/-- Up to the goal in two moves, with something to take halfway. -/
def Program.ascent : Program := [.loop (.int 2) [.move (.known .up), .collect]]

/-- Halfway up, the goal is ahead and an item is here, so a move would lead onto the goal and a
collect would take the item; on the goal, in the first row, a move up would be blocked without a
wall. -/
theorem Program.conditions_foretell_ascent :
    let w : World := ⟨3, ⟨1, 2⟩, ⟨1, 0⟩, [⟨0, 0⟩], [⟨⟨1, 1⟩, .gem⟩]⟩
    let reached (n : Nat) := ((Machine.start w ascent).after (fun _ => false) n).state
    (reached 1).position = ⟨1, 1⟩ ∧ (reached 3).position = ⟨1, 0⟩ ∧
      (∃ e target, Block.Emits w (reached 1) [] (.move (.known .up)) e ∧
        e.deed = .moved .up target ∧ e.position = ⟨1, 0⟩) ∧
      (∃ e item, Block.Emits w (reached 1) [] .collect e ∧ e.deed = .collected item) ∧
      (∃ e target, Block.Emits w (reached 3) [] (.move (.known .up)) e ∧
        e.deed = .blocked .up target) ∧
      Condition.wallAhead.holds w (reached 3) = false := by
  intro w reached
  have hw : World.build 3 ⟨1, 2⟩ ⟨1, 0⟩ [⟨0, 0⟩] [⟨⟨1, 1⟩, .gem⟩] = .ok w :=
    World.build_eq_ok_iff.2 ⟨by decide, by decide⟩
  obtain ⟨hgoal, -, -, hitem⟩ := conditions_foretell hw ascent (fun _ => false) 1 []
  obtain ⟨-, hblocked, -, -⟩ := conditions_foretell hw ascent (fun _ => false) 3 []
  exact ⟨by decide, by decide, hgoal.1 (by decide), hitem.1 (by decide),
    hblocked.2 (Or.inr (by decide)), by decide⟩

end GridRobot
