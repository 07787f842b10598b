import GridRobot.Goal
import GridRobot.Program.Check

/-!
# Levels

A level of the course: what it teaches, how many top-level blocks it allows and of which kinds, what
its layouts hold, and what has to be reached.
-/

namespace GridRobot

/-- The idea that a level is built around. -/
inductive Concept where
  | sequence
  | loop
  | conditional
  | function
  | mixed
deriving DecidableEq, Repr

/-- The name of an idea. -/
def Concept.name : Concept → String
  | sequence => "sequence"
  | loop => "loop"
  | conditional => "conditional"
  | function => "function"
  | mixed => "mixed"

/-- What has to be reached. -/
inductive Objective where
  | reach
  | collectAll
deriving DecidableEq, Repr

/-- The goal of an objective. -/
def Objective.goal : Objective → Goal
  | reach => .reach
  | collectAll => .collectAll

/-- What the layouts of a level hold. -/
structure Terrain where
  hasWalls : Bool := false
  /-- The number of items; a number below zero is as good as none. -/
  items : Int := 0
deriving DecidableEq, Repr

/-- A level of the course. -/
structure Level where
  number : Int
  name : String
  topic : String
  tutorial : String
  instructions : List String := []
  /-- The most top-level blocks. -/
  limit : Int
  /-- The kinds of blocks that may be used, in the order of the palette. -/
  palette : List Kind
  concept : Option Concept := none
  terrain : Terrain := {}
  objective : Objective := .reach
  hints : List String := []
deriving DecidableEq, Repr

namespace Level

/-- The rules for programs of the level. -/
def rules (l : Level) : Rules := ⟨some (.int l.limit), some l.palette⟩

/-- The goal of the level. -/
def goal (l : Level) : Goal := l.objective.goal

/-- The record of a level. -/
def toRecord (l : Level) : Value := .record [
  ("level_id", .int l.number),
  ("name", .text l.name),
  ("concept", .text l.topic),
  ("tutorial", .text l.tutorial),
  ("instructions", .texts l.instructions),
  ("max_blocks", .int l.limit),
  ("has_walls", .bool l.terrain.hasWalls),
  ("available_blocks", .list (l.palette.map (fun k => .text k.name))),
  ("required_concept", (l.concept.map (fun c => Value.text c.name)).getD .null),
  ("collectibles", .int l.terrain.items),
  ("hints", .texts l.hints)]

end Level

end GridRobot
