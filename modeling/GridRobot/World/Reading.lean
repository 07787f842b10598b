import GridRobot.Text.Summary
import GridRobot.Value
import GridRobot.World

/-!
# Worlds read from values

The size and the coordinates of a world may come as values of any kind. Those that are numbers make
a world whose coordinates are numbers. What is no number is found out in the order in which a world
is checked: the size first, then the walls, the start, the goal and the items.
-/

namespace GridRobot

/-- Why values make no world. -/
inductive ReadingFault where
  /-- A wall is at something that cannot be looked up. -/
  | notAKey (v : Value)
  /-- The size has no place on the line. -/
  | noSize (v : Value)
  /-- A coordinate has no place on the line. -/
  | noCoordinate (v : Value)
  | unsound (faults : List (WorldFault Number))
  /-- A fault holds an integer that is too long to be told. -/
  | unwritable
deriving DecidableEq, Repr

/-- The fault of numbers that make no world. -/
def ReadingFault.ofError : WorldError Number → ReadingFault
  | .unsound faults => unsound faults
  | .unwritable => unwritable

/-- The complaints of a fault that breaks a rule of worlds. -/
def ReadingFault.complaints : ReadingFault → List String
  | unsound faults => faults.map WorldFault.message
  | _ => []

/-- The wording of a fault. -/
def ReadingFault.message : ReadingFault → String
  | notAKey v => v.notAKey
  | noSize v => v.notOrdered "<" (.int 1)
  | noCoordinate v => (Value.int 0).notOrdered "<=" v
  | fault@(unsound _) => summary "World" fault.complaints
  | unwritable => Numeral.tooLong

/-- Read a coordinate. -/
def Coordinate.read (v : Value) : Except ReadingFault Number :=
  match v.number? with
  | some n => .ok n
  | none => .error (.noCoordinate v)

/-- Read a cell. -/
def Cell.read (c : Cell Value) : Except ReadingFault (Cell Number) := do
  let x ← Coordinate.read c.x
  let y ← Coordinate.read c.y
  pure ⟨x, y⟩

/-- The first coordinates in which two cells differ, if these have no order. -/
def Cell.unordered? (a b : Cell Value) : Option (Value × Value) :=
  let (m, n) := if a.x.sameKey b.x then (a.y, b.y) else (a.x, b.x)
  if m.sameKey n || m.isOrdered n then none else some (m, n)

/-- The coordinate that keeps a cell from having neighbours. -/
def Cell.unmovable? (c : Cell Value) : Option Value :=
  [c.x, c.y].find? (fun v => v.number?.isNone)

namespace World

/-- The coordinates of walls. -/
def wallValues (w : World Value) : List Value := w.walls.flatMap (fun c => [c.x, c.y])

/-- Read the coordinates of a world that has a size. -/
def readCells (size : Number) (w : World Value) : Except ReadingFault (World Number) := do
  let walls ← w.walls.mapM Cell.read
  let start ← w.start.read
  let goal ← w.goal.read
  let items ← w.items.mapM (fun i => do pure ⟨← i.cell.read, i.kind⟩)
  (build size start goal walls items).mapError .ofError

/-- Read a world. A grid without cells is reported before any coordinate is looked at. -/
def read (w : World Value) : Except ReadingFault (World Number) :=
  match w.wallValues.find? (fun v => !v.isKey) with
  | some v => .error (.notAKey v)
  | none =>
    match w.size.number? with
    | none => .error (.noSize w.size)
    | some size =>
      if size.below 1 then .error (.ofError (.ofFaults [.size size])) else w.readCells size

end World

end GridRobot
