import GridRobot.Event

/-!
# Execution

What a program does in a world, by plain recursion over its blocks. Running a block changes the
state and tells the parent whether to go on or to leave the nearest loop. The state keeps a journal
with one entry for every atomic action, in which the newest stands first: the event that the action
emitted, or nothing if there was no item to collect.
-/

namespace GridRobot

/-- What changes while a program runs. -/
structure State (κ : Type := Int) where
  position : Cell κ
  pouch : Pouch κ
  /-- One entry for every atomic action so far, newest first. -/
  journal : List (Option (Event κ))
  /-- The number of events so far. -/
  steps : Nat
deriving DecidableEq, Repr

variable {κ : Type} [Coordinate κ]

namespace State

/-- The state in which every run begins. -/
def initial (w : World κ) : State κ := ⟨w.start, w.newPouch, [], 0⟩

/-- The events so far, oldest first. -/
def trace (s : State κ) : List (Event κ) := (s.journal.filterMap id).reverse

/-- The state after an action that emits an event. -/
def emit (s : State κ) (path : Path) (deed : Deed κ) : State κ :=
  { s with
    journal := some ⟨s.steps, deed, s.position, s.pouch.marks, path⟩ :: s.journal
    steps := s.steps + 1 }

/-- The state after an action that emits nothing. -/
def note (s : State κ) : State κ := { s with journal := none :: s.journal }

end State

/-! ## Atomic actions -/

/-- The atomic actions. -/
inductive Action where
  | move (direction : Direction)
  | collect
  | wait
  | breakOut
deriving DecidableEq, Repr

/-- The state after an action of the block at a path. -/
def Action.perform (w : World κ) (path : Path) (s : State κ) : Action → State κ
  | .move d =>
    let target := s.position.step d
    if w.isPassable target then { s with position := target }.emit path (.moved d target)
    else s.emit path (.blocked d target)
  | .collect =>
    match s.pouch.take s.position with
    | (some item, pouch) => { s with pouch := pouch }.emit path (.collected item)
    | (none, _) => s.note
  | .wait => s.emit path .waited
  | .breakOut => s.emit path .broke

/-- Does a condition hold? The cell ahead is always the one above the robot, and the edge of the
grid is no wall. -/
def Condition.holds (w : World κ) (s : State κ) : Condition → Bool
  | .itemHere => (s.pouch.itemAt? s.position).isSome
  | .wallAhead => w.isWall (s.position.step .up)
  | .goalAhead => (s.position.step .up).same w.goal

/-- Ask a setting that should be a condition. -/
def Setting.test (w : World κ) (s : State κ) : Setting Condition → Except RunFault Bool
  | .known c => .ok (c.holds w s)
  | .other v => .error (if v.isWritable then .unknownCondition v else .unwritable)

/-! ## Blocks -/

/-- What a block tells its parent. -/
inductive Signal where
  | proceed
  | broke
deriving DecidableEq, Repr

/-- The result of running blocks: a signal or a fault, and the state then. -/
abbrev Result (κ : Type := Int) := Except RunFault Signal × State κ

/-- Run a body a number of times; a break ends the repetition and goes no further. -/
def repeatBody {κ : Type} (body : State κ → Result κ) : Nat → State κ → Result κ
  | 0, s => (.ok .proceed, s)
  | n + 1, s =>
    match body s with
    | (.ok .proceed, s) => repeatBody body n s
    | (.ok .broke, s) => (.ok .proceed, s)
    | (.error f, s) => (.error f, s)

namespace Block

mutual
/-- Run the block at a path. Only nodes of the block classes themselves can be run. -/
def exec (w : World κ) (path : Path) : Block → State κ → Result κ
  | .move (.known d), s => (.ok .proceed, (Action.move d).perform w path s)
  | .move (.other v), s => (.error (.badDirection v), s)
  | .collect, s => (.ok .proceed, Action.collect.perform w path s)
  | .wait, s => (.ok .proceed, Action.wait.perform w path s)
  | .breakOut, s => (.ok .broke, Action.breakOut.perform w path s)
  | .loop count body, s =>
    match count.count? with
    | some n => repeatBody (execFrom w path 0 body) n s
    | none => (.error (.badCount count), s)
  | .conditional condition body, s =>
    match condition.test w s with
    | .ok true => execFrom w path 0 body s
    | .ok false => (.ok .proceed, s)
    | .error f => (.error f, s)
  | .function _ body, s => execFrom w path 0 body s
  | .foreign v, s => (.error (.noHandler v.typeName path), s)
  | .derived name _, s => (.error (.noHandler name path), s)

/-- Run siblings below a path one after the other, the first of them at the given index, until one
of them breaks. -/
def execFrom (w : World κ) (path : Path) (index : Nat) : List Block → State κ → Result κ
  | [], s => (.ok .proceed, s)
  | b :: bs, s =>
    match exec w (path ++ [index]) b s with
    | (.ok .proceed, s) => execFrom w path (index + 1) bs s
    | (.ok .broke, s) => (.ok .broke, s)
    | (.error f, s) => (.error f, s)
end

end Block

/-- The outcome of a final state. -/
def State.outcome (s : State κ) (w : World κ) (g : Goal κ) (stoppedEarly : Bool) : Outcome κ where
  position := s.position
  marks := s.pouch.marks
  stoppedEarly := stoppedEarly
  verdict := g.judge s.position s.pouch w
  steps := s.steps

/-- Run a program from the start to its end: all events and the outcome. -/
def Program.run (p : Program) (w : World κ) (g : Goal κ) :
    Except RunFault (List (Event κ) × Outcome κ) :=
  match Block.execFrom w [] 0 p (State.initial w) with
  | (.ok signal, s) => .ok (s.trace, s.outcome w g (signal = .broke))
  | (.error f, _) => .error f

end GridRobot
