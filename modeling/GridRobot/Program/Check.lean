import GridRobot.Block
import GridRobot.Text.Summary

/-!
# Checking programs

A program is checked against the general rules (every node is a block, no deeper than the limit,
with well-formed settings) and against the rules of a level (a budget of top-level blocks and a
palette of kinds). Nested blocks are free of the budget.

The issues come in the order of the nodes, a parent before its children; the budget comes last.
-/

namespace GridRobot

/-- The rules of a level; what is absent is not limited. -/
structure Rules where
  /-- The most top-level blocks. -/
  limit : Option Number := none
  /-- The kinds of blocks that may be used. -/
  palette : Option (List Kind) := none
deriving DecidableEq, Repr

namespace Rules

/-- Does the palette have the kind? -/
def allows (r : Rules) (k : Kind) : Bool :=
  match r.palette with
  | some kinds => kinds.contains k
  | none => true

/-- Are so many top-level blocks within the budget? -/
def affords (r : Rules) (used : Nat) : Bool :=
  match r.limit with
  | some limit => !limit.below (.int used)
  | none => true

/-- A budget that is an integer affords as many blocks as it says. -/
theorem affords_iff {r : Rules} {limit : Int} (h : r.limit = some (.int limit)) (used : Nat) :
    r.affords used ↔ (used : Int) ≤ limit := by
  simp [affords, h]

end Rules

/-- What can be wrong with a node. -/
inductive NodeFault where
  | notABlock (sort : String)
  | tooDeep
  | unknownDirection (v : Value)
  | unavailable (k : Kind)
  | countNotWhole (v : Value)
  | countOutOfRange (n : Int)
  | unknownCondition (v : Value)
  | emptyName
deriving DecidableEq, Repr

/-- The wording of a fault of the node at a path. -/
def NodeFault.message (path : Path) : NodeFault → String
  | .notABlock sort => s!"Block {path.text}: not a block ({sort})"
  | .tooDeep => s!"Block {path.text}: nested deeper than {Block.maxDepth} levels"
  | .unknownDirection v => s!"Block {path.text}: unknown direction {v.quoted}"
  | .unavailable k => s!"Block {path.text}: {k.name} is not available in this level"
  | .countNotWhole v => s!"Loop {path.text}: iterations must be an integer, got {v.quoted}"
  | .countOutOfRange n =>
    s!"Loop {path.text}: iterations must be between {Block.minCount} and {Block.maxCount}, got {n}"
  | .unknownCondition v => s!"If {path.text}: unknown condition {v.quoted}"
  | .emptyName => s!"Function {path.text}: name must not be empty"

/-- Can the fault be put into words? -/
def NodeFault.isWritable : NodeFault → Bool
  | .unknownDirection v | .countNotWhole v | .unknownCondition v => v.isWritable
  | .countOutOfRange n => Numeral.fits n
  | .notABlock _ | .tooDeep | .unavailable _ | .emptyName => true

/-- What makes a program invalid. -/
inductive Issue where
  | node (path : Path) (fault : NodeFault)
  | budget (used : Nat) (limit : Number)
deriving DecidableEq, Repr

/-- The wording of an issue. -/
def Issue.message : Issue → String
  | node path fault => fault.message path
  | budget used limit => s!"Program uses {used} top-level blocks, level allows {limit.text}"

/-- Can the issue be put into words? -/
def Issue.isWritable : Issue → Bool
  | node _ fault => fault.isWritable
  | budget _ limit => limit.isWritable

/-- What is odd about a program and yet allowed. -/
inductive Warning where
  | emptyProgram
  | emptyBody (path : Path) (kind : Kind)
deriving DecidableEq, Repr

/-- The wording of a warning. -/
def Warning.message : Warning → String
  | emptyProgram => "Program is empty - nothing to run"
  | emptyBody path kind => s!"{kind.name} {path.text} has an empty body"

namespace Block

/-! ## One node -/

/-- The faults of a loop count. -/
def countFaults : Value → List NodeFault
  | .int n => if minCount ≤ n && n ≤ maxCount then [] else [.countOutOfRange n]
  | v => [.countNotWhole v]

/-- The faults of the settings of a block. -/
def settingFaults : Block → List NodeFault
  | .loop count _ => countFaults count
  | .conditional (.other v) _ => [.unknownCondition v]
  | .function name _ => if name.isTruthy then [] else [.emptyName]
  | .derived _ b => b.settingFaults
  | _ => []

/-- The fault of a kind that the palette lacks. -/
def paletteFaults (r : Rules) (k : Kind) : List NodeFault :=
  if r.allows k then [] else [.unavailable k]

/-- The faults of a node by itself. A value that is no block, a block too deep and a move without a
direction have no further faults. -/
def faults (r : Rules) (depth : Nat) (b : Block) : List NodeFault :=
  match b.kind? with
  | .error (.notABlock sort) => [.notABlock sort]
  | .error (.direction v) => if maxDepth < depth then [.tooDeep] else [.unknownDirection v]
  | .error (.condition v) => [.unknownCondition v]
  | .ok k => if maxDepth < depth then [.tooDeep] else paletteFaults r k ++ b.settingFaults

/-- The warnings about a node by itself. -/
def warnings (path : Path) (b : Block) : List Warning :=
  match b.kind?, b.body? with
  | .ok k, some [] => [.emptyBody path k]
  | _, _ => []

/-! ## The tree -/

mutual
/-- The issues at and below the block at a path; nothing is said about what is below a block that is
too deep. -/
def issues (r : Rules) (path : Path) : Block → List Issue
  | .loop count body =>
    ((Block.loop count body).faults r path.length).map (.node path) ++
      if path.length ≤ maxDepth then issuesFrom r path 0 body else []
  | .conditional condition body =>
    ((Block.conditional condition body).faults r path.length).map (.node path) ++
      if path.length ≤ maxDepth then issuesFrom r path 0 body else []
  | .function name body =>
    ((Block.function name body).faults r path.length).map (.node path) ++
      if path.length ≤ maxDepth then issuesFrom r path 0 body else []
  | .move direction => ((Block.move direction).faults r path.length).map (.node path)
  | .collect => (Block.collect.faults r path.length).map (.node path)
  | .wait => (Block.wait.faults r path.length).map (.node path)
  | .breakOut => (Block.breakOut.faults r path.length).map (.node path)
  | .foreign v => ((Block.foreign v).faults r path.length).map (.node path)
  | .derived name b => if b.isBlock then issues r path b else [.node path (.notABlock name)]

/-- The issues of siblings below a path, the first of them at the given index. -/
def issuesFrom (r : Rules) (path : Path) (index : Nat) : List Block → List Issue
  | [] => []
  | b :: bs => issues r (path ++ [index]) b ++ issuesFrom r path (index + 1) bs
end

mutual
/-- The warnings at and below the block at a path, as deep as blocks may be. -/
def cautions (path : Path) : Block → List Warning
  | .loop count body =>
    if path.length ≤ maxDepth then
      (Block.loop count body).warnings path ++ cautionsFrom path 0 body
    else []
  | .conditional condition body =>
    if path.length ≤ maxDepth then
      (Block.conditional condition body).warnings path ++ cautionsFrom path 0 body
    else []
  | .function name body =>
    if path.length ≤ maxDepth then
      (Block.function name body).warnings path ++ cautionsFrom path 0 body
    else []
  | .move _ => []
  | .collect => []
  | .wait => []
  | .breakOut => []
  | .foreign _ => []
  | .derived _ b => cautions path b

/-- The warnings about siblings below a path, the first of them at the given index. -/
def cautionsFrom (path : Path) (index : Nat) : List Block → List Warning
  | [] => []
  | b :: bs => cautions (path ++ [index]) b ++ cautionsFrom path (index + 1) bs
end

end Block

/-- The result of a check. -/
structure Report where
  issues : List Issue := []
  warnings : List Warning := []
deriving DecidableEq, Repr

/-- Is there no issue? -/
def Report.valid (r : Report) : Bool := r.issues.isEmpty

/-- The line that tells all issues. -/
def Issue.summary (issues : List Issue) : String :=
  GridRobot.summary "Program" (issues.map Issue.message)

/-- The wording for something handed in that is no program. -/
def Program.notAProgram (v : Value) : String := s!"Expected a Program, got {v.typeName}"

namespace Program

/-- The issue of a program over its budget. -/
def budgetIssues (r : Rules) (p : Program) : List Issue :=
  match r.limit with
  | some limit => if r.affords p.length then [] else [.budget p.length limit]
  | none => []

/-- Check a program. -/
def check (r : Rules) (p : Program) : Report where
  issues := Block.issuesFrom r [] 0 p ++ p.budgetIssues r
  warnings := (if p.isEmpty then [.emptyProgram] else []) ++ Block.cautionsFrom [] 0 p

/-- Check a program and tell what was found: nothing is told if one of the issues holds an integer
that is too long. -/
def report? (r : Rules) (p : Program) : Option Report :=
  if (p.check r).issues.all Issue.isWritable then some (p.check r) else none

end Program

end GridRobot
