import GridRobot.Block
import GridRobot.Goal

/-!
# Events and outcomes

Every atomic action that shows emits one event. An event records what happened and the state after
it; nothing in it changes later. A run that ends of itself has an outcome.
-/

namespace GridRobot

/-- What an atomic action did. -/
inductive Deed (κ : Type := Int) where
  | moved (direction : Direction) (target : Cell κ)
  | blocked (direction : Direction) (target : Cell κ)
  | collected (item : Item κ)
  | waited
  | broke
deriving DecidableEq, Repr

namespace Deed

variable {κ : Type}

/-- The name of the kind of a deed. -/
def name : Deed κ → String
  | moved .. => "moved"
  | blocked .. => "blocked"
  | collected _ => "collected"
  | waited => "waited"
  | broke => "broke"

/-- The direction of a move, whether it succeeded or not. -/
def direction? : Deed κ → Option Direction
  | moved d _ | blocked d _ => some d
  | _ => none

/-- The cell that a move tried to enter. -/
def target? : Deed κ → Option (Cell κ)
  | moved _ c | blocked _ c => some c
  | _ => none

/-- The item that was collected. -/
def item? : Deed κ → Option (Item κ)
  | collected item => some item
  | _ => none

end Deed

/-- One visible step of a run. -/
structure Event (κ : Type := Int) where
  /-- The number of events before this one. -/
  sequence : Nat
  deed : Deed κ
  /-- Where the robot stands after the action. -/
  position : Cell κ
  /-- Which items have been taken after the action. -/
  marks : List Bool
  /-- The block that acted. -/
  path : Path
deriving DecidableEq, Repr

/-- A line that tells an event. -/
def Event.text {κ : Type} [Coordinate κ] (e : Event κ) : String :=
  let here := e.position.text
  match e.deed with
  | .moved d _ => s!"moved {d.name} to {here}"
  | .blocked d target => s!"blocked moving {d.name} from {here} to {target.text}"
  | .collected item => s!"collected {item.kind.name} at {here}"
  | .waited => s!"waited at {here}"
  | .broke => s!"break at {here}"

/-- The result of a run that ended of itself. -/
structure Outcome (κ : Type := Int) where
  position : Cell κ
  marks : List Bool
  /-- Did a break outside every loop stop the program? -/
  stoppedEarly : Bool
  verdict : Verdict κ
  /-- The number of events. -/
  steps : Nat
deriving DecidableEq, Repr

/-- The number of items that were taken. -/
def Outcome.takenCount {κ : Type} (o : Outcome κ) : Nat := o.marks.countP id

/-- Why a run stops in the middle. -/
inductive RunFault where
  /-- The class of the node at a path is none of those that can be run. -/
  | noHandler (sort : String) (path : Path)
  | unknownCondition (v : Value)
  | badCount (v : Value)
  | badDirection (v : Value)
  | cancelled
  /-- A fault holds an integer that is too long to be told. -/
  | unwritable
deriving DecidableEq, Repr

/-- The indices of a path in round brackets; a single index is followed by a comma. -/
def Path.tupleText : Path → String
  | [] => "()"
  | [index] => s!"({index},)"
  | path =>
    let indices := String.intercalate ", " (path.map toString)
    s!"({indices})"

/-- The wording of a fault. -/
def RunFault.message : RunFault → String
  | .noHandler sort path => s!"No handler for block {sort} at {path.tupleText}"
  | .unknownCondition v => s!"Unknown condition: {v.quoted}"
  | .badCount v => s!"'{v.typeName}' object cannot be interpreted as an integer"
  | .badDirection v => s!"'{v.typeName}' object has no attribute 'delta'"
  | .cancelled => "Run cancelled"
  | .unwritable => Numeral.tooLong

end GridRobot
