import GridRobot.World

/-!
# Cells within reach

The cells that the robot can reach from the start, by a breadth-first flood: each step takes the
oldest cell of the queue and adds the neighbours that are passable and new. A world is solvable if
its goal and all its items are within reach.
-/

namespace GridRobot.World

variable {κ : Type} [Coordinate κ]

/-- The neighbours of a cell, in the order in which the flood looks at them. -/
def neighbours (c : Cell κ) : List (Cell κ) :=
  [c.step .right, c.step .left, c.step .down, c.step .up]

/-- The neighbours of a cell that can be entered and have not been seen. -/
def fresh (w : World κ) (seen : List (Cell κ)) (c : Cell κ) : List (Cell κ) :=
  (neighbours c).filter (fun n => w.isPassable n && !n.isIn seen)

/-- Take cells off the queue one by one, at most `steps` of them. -/
def flood (w : World κ) : (steps : Nat) → (queue seen : List (Cell κ)) → List (Cell κ)
  | 0, _, seen => seen
  | _, [], seen => seen
  | steps + 1, c :: queue, seen =>
    let new := w.fresh seen c
    flood w steps (queue ++ new) (new ++ seen)

/-- The cells within reach of the start. No cell enters the queue twice, so the flood ends within as
many steps as the grid has cells. -/
def reachable (w : World κ) : List (Cell κ) :=
  w.flood (Coordinate.extent w.size * Coordinate.extent w.size + 1) [w.start] [w.start]

/-- Can the goal and every item be reached? -/
def isSolvable (w : World κ) : Bool :=
  let cells := w.reachable
  w.goal.isIn cells && w.items.all (fun i => i.cell.isIn cells)

end GridRobot.World
