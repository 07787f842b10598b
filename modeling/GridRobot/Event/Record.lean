import GridRobot.Event

/-!
# Records of cells, items and events

The exchange form of an event: cells are pairs of coordinates.
-/

namespace GridRobot

variable {κ : Type} [Coordinate κ]

/-- The value of a coordinate. -/
def Coordinate.toValue (k : κ) : Value := .ofNumber (Coordinate.number k)

/-- A cell as a pair of coordinates. -/
def Cell.toPair (c : Cell κ) : Value := .list [Coordinate.toValue c.x, Coordinate.toValue c.y]

/-- The value of a part that may be absent. -/
def Value.ofOption {α : Type} (f : α → Value) : Option α → Value
  | some a => f a
  | none => .null

/-- The record of an event. -/
def Event.toRecord (e : Event κ) : Value := .record [
  ("sequence", .int e.sequence),
  ("kind", .text e.deed.name),
  ("actor_pos", e.position.toPair),
  ("collectibles", .list (e.marks.map .bool)),
  ("block_path", .list (e.path.map (fun (index : Nat) => .int index))),
  ("direction", .ofOption (fun d => .text d.name) e.deed.direction?),
  ("target", .ofOption Cell.toPair e.deed.target?),
  ("collectible", .ofOption
    (fun i => .record [("pos", i.cell.toPair), ("kind", .text i.kind.name)]) e.deed.item?)]

end GridRobot
