import GridRobot.Item

/-!
# Worlds

A world is a square grid with a start cell, a goal cell, walls and items. It never changes while a
program runs. `World.build` accepts exactly the descriptions without a fault: everything lies on the
grid and off the walls, and no two things share a cell, except that one item may lie on the start.
-/

namespace GridRobot

/-- A grid with everything on it. The walls are kept in ascending order, each once. -/
structure World (κ : Type := Int) where
  size : κ
  start : Cell κ
  goal : Cell κ
  walls : List (Cell κ)
  items : List (Item κ)
deriving DecidableEq, Repr, Inhabited

/-- The things whose cells must be distinct. -/
inductive Landmark where
  | start
  | goal
  | item (index : Nat)
deriving DecidableEq, Repr

namespace Landmark

/-- The name of a landmark. -/
def name : Landmark → String
  | start => "start"
  | goal => "goal"
  | item index => s!"collectible {index}"

/-- May the landmark share the cell of an earlier one? -/
def mayShare : Landmark → Landmark → Bool
  | item _, start => true
  | _, _ => false

end Landmark

/-- What can be wrong with the description of a world. -/
inductive WorldFault (κ : Type := Int) where
  | size (n : κ)
  | wallOutside (c : Cell κ)
  | outside (l : Landmark) (c : Cell κ)
  | onWall (l : Landmark) (c : Cell κ)
  | shared (l : Landmark) (c : Cell κ) (owner : Landmark)
deriving DecidableEq, Repr

variable {κ : Type} [Coordinate κ]

/-- The wording of a fault. -/
def WorldFault.message : WorldFault κ → String
  | .size n => s!"grid_size must be >= 1, got {Coordinate.text n}"
  | .wallOutside c => s!"Wall {c.text} is outside the grid"
  | .outside l c => s!"{l.name} {c.text} is outside the grid"
  | .onWall l c => s!"{l.name} {c.text} is on a wall"
  | .shared l c owner => s!"{l.name} {c.text} shares a cell with {owner.name}"

/-- Can the fault be put into words? -/
def WorldFault.isWritable : WorldFault κ → Bool
  | .size n => Coordinate.isWritable n
  | .wallOutside c | .outside _ c | .onWall _ c | .shared _ c _ => c.isWritable

/-- Why a description makes no world. -/
inductive WorldError (κ : Type := Int) where
  | unsound (faults : List (WorldFault κ))
  /-- One of the faults holds an integer that is too long to be told. -/
  | unwritable
deriving DecidableEq, Repr

/-- The error of a description with faults: all of them are told, or none. -/
def WorldError.ofFaults (faults : List (WorldFault κ)) : WorldError κ :=
  if faults.all WorldFault.isWritable then .unsound faults else .unwritable

namespace World

/-! ## Cells of a world -/

/-- Does a coordinate lie on a grid of the given size? -/
def spans (size k : κ) : Bool :=
  Coordinate.atMost (Coordinate.ofInt 0) k && Coordinate.below k size

/-- Is the cell on the grid? -/
def inBounds (w : World κ) (c : Cell κ) : Bool := spans w.size c.x && spans w.size c.y

/-- Is the cell a wall? -/
def isWall (w : World κ) (c : Cell κ) : Bool := c.isIn w.walls

/-- Can the robot stand on the cell? -/
def isPassable (w : World κ) (c : Cell κ) : Bool := w.inBounds c && !w.isWall c

/-- With integer coordinates, the cells on the grid are those of a square. -/
theorem inBounds_iff {w : World} {c : Cell} :
    w.inBounds c ↔ (0 ≤ c.x ∧ c.x < w.size) ∧ (0 ≤ c.y ∧ c.y < w.size) := by
  simp [inBounds, spans]

/-- With integer coordinates, the walls are the cells in their list. -/
theorem isWall_iff {w : World} {c : Cell} : w.isWall c ↔ c ∈ w.walls := by
  simp [isWall]

/-! ## Faults -/

/-- The start, the goal and the items with their cells. -/
def landmarks (w : World κ) : List (Landmark × Cell κ) :=
  (.start, w.start) :: (.goal, w.goal) ::
    w.items.zipIdx.map (fun (item, index) => (.item index, item.cell))

/-- The faults of a cell by itself. -/
def cellFaults (w : World κ) (l : Landmark) (c : Cell κ) : List (WorldFault κ) :=
  if !w.inBounds c then [.outside l c] else if w.isWall c then [.onWall l c] else []

/-- The faults of landmarks, given the owners of cells so far, the latest owner first. -/
def landmarkFaults (w : World κ) (owners : List (Cell κ × Landmark)) :
    List (Landmark × Cell κ) → List (WorldFault κ)
  | [] => []
  | (l, c) :: rest =>
    match owners.find? (fun (d, _) => c.same d) with
    | some (_, owner) =>
      if l.mayShare owner then w.cellFaults l c ++ landmarkFaults w ((c, l) :: owners) rest
      else w.cellFaults l c ++ .shared l c owner :: landmarkFaults w owners rest
    | none => w.cellFaults l c ++ landmarkFaults w ((c, l) :: owners) rest

/-- The walls that are not on the grid, in the order of their texts. -/
def wallFaults (w : World κ) : List (WorldFault κ) :=
  ((w.walls.filter (fun c => !w.inBounds c)).mergeSort (fun a b => !(b.text < a.text))).map
    .wallOutside

/-- Everything that is wrong with a world. A grid without cells is reported alone. -/
def faults (w : World κ) : List (WorldFault κ) :=
  if Coordinate.below w.size (Coordinate.ofInt 1) then [.size w.size]
  else w.wallFaults ++ w.landmarkFaults [] w.landmarks

/-- The world with the given parts, if it has no fault. -/
def build (size : κ) (start goal : Cell κ) (walls : List (Cell κ)) (items : List (Item κ)) :
    Except (WorldError κ) (World κ) :=
  let w : World κ := ⟨size, start, goal, Cell.sortDistinct walls, items⟩
  match w.faults with
  | [] => .ok w
  | faults => .error (.ofFaults faults)

/-- The rules that a world with integer coordinates keeps, said without the check. -/
structure Sound (w : World) : Prop where
  size_pos : 1 ≤ w.size
  walls_inside : ∀ c ∈ w.walls, w.inBounds c
  start_passable : w.isPassable w.start
  goal_passable : w.isPassable w.goal
  items_passable : ∀ i ∈ w.items, w.isPassable i.cell
  start_ne_goal : w.start ≠ w.goal
  items_off_goal : ∀ i ∈ w.items, i.cell ≠ w.goal
  items_apart : (w.items.map (·.cell)).Nodup

/-- The pouch with which a run begins. -/
def newPouch (w : World κ) : Pouch κ := Pouch.ofItems w.items

/-- The world with other coordinates. -/
def map {μ : Type} (f : κ → μ) (w : World κ) : World μ where
  size := f w.size
  start := w.start.map f
  goal := w.goal.map f
  walls := w.walls.map (·.map f)
  items := w.items.map (·.map f)

end World

end GridRobot
