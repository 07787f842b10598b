import GridRobot.Cell
import GridRobot.Value

/-!
# Block programs

A program is a list of blocks. Moves, collect, wait and break are leaves; loops, conditionals and
functions hold a body of blocks, so a program is a tree. An editor may put anything anywhere: a
direction or a condition may be some other value, a loop count and a function name are values of any
kind, and a node of the tree may be a value that is no block at all. A node may also belong to a
class that is derived from one of the block classes and adds nothing to it: such a node is a block
of that class wherever a block is asked what it is, and yet it is not equal to one. Checking a
program is the work of `Program.Check`.

A path leads to a node: the index of a top-level block, then the index of a child, and so on.
-/

namespace GridRobot

/-- The kinds of blocks of the palette. -/
inductive Kind where
  | up
  | down
  | left
  | right
  | collect
  | wait
  | breakOut
  | loop
  | conditional
  | function
deriving DecidableEq, Repr, Inhabited

namespace Kind

/-- Every kind, in the order of the palette. -/
def all : List Kind :=
  [up, down, left, right, collect, wait, breakOut, loop, conditional, function]

/-- The name of a kind. -/
def name : Kind → String
  | up => "UP"
  | down => "DOWN"
  | left => "LEFT"
  | right => "RIGHT"
  | collect => "COLLECT"
  | wait => "WAIT"
  | breakOut => "BREAK"
  | loop => "LOOP"
  | conditional => "IF"
  | function => "FUNCTION"

/-- The kind with the given name. -/
def ofName? (s : String) : Option Kind :=
  all.find? (fun k => k.name == s)

theorem ofName?_name (k : Kind) : ofName? k.name = some k := by
  cases k <;> decide

/-- The kind of a move. -/
def ofDirection : Direction → Kind
  | .up => up
  | .down => down
  | .left => left
  | .right => right

/-- Do blocks of this kind hold a body? -/
def isContainer : Kind → Bool
  | loop | conditional | function => true
  | _ => false

end Kind

/-- What a conditional block can ask. -/
inductive Condition where
  | itemHere
  | wallAhead
  | goalAhead
deriving DecidableEq, Repr, Inhabited

namespace Condition

/-- Every condition. -/
def all : List Condition := [itemHere, wallAhead, goalAhead]

/-- The name of a condition. -/
def name : Condition → String
  | itemHere => "ITEM_HERE"
  | wallAhead => "WALL_AHEAD"
  | goalAhead => "GOAL_AHEAD"

/-- The condition with the given name. -/
def ofName? (s : String) : Option Condition :=
  all.find? (fun c => c.name == s)

theorem ofName?_name (c : Condition) : ofName? c.name = some c := by
  cases c <;> decide

end Condition

/-- A setting of a block: one of the members that the setting is made for, or some other value. -/
inductive Setting (α : Type) where
  | known (a : α)
  | other (v : Value)
deriving DecidableEq, Repr, Inhabited

/-- A node of a program. -/
inductive Block where
  | move (direction : Setting Direction)
  | collect
  | wait
  | breakOut
  | loop (count : Value) (body : List Block)
  | conditional (condition : Setting Condition) (body : List Block)
  | function (name : Value) (body : List Block)
  | foreign (v : Value)
  /-- What the base would be, but for its class: that one has a name and derives from the class of
  the base. -/
  | derived (name : String) (base : Block)
deriving Repr, Inhabited

/-- The nodes of a program at the top level. -/
abbrev Program := List Block

/-- The indices that lead to a node. -/
abbrev Path := List Nat

/-- The text of a path, its indices divided by slashes. -/
def Path.text (p : Path) : String :=
  String.intercalate "/" (p.map toString)

/-- Why a node has no kind, or its settings no name. -/
inductive Defect where
  | notABlock (sort : String)
  | direction (v : Value)
  | condition (v : Value)
deriving DecidableEq, Repr

/-- The wording of a defect. -/
def Defect.message : Defect → String
  | .notABlock sort => s!"'{sort}' object has no attribute 'block_type'"
  | .direction v => s!"'{v.typeName}' object has no attribute 'value'"
  | .condition v => s!"'{v.typeName}' object has no attribute 'value'"

namespace Block

/-! ## Equality -/

mutual
/-- Equality of blocks is decidable. -/
def decEq : (a b : Block) → Decidable (a = b)
  | .move a, .move b => decidable_of_iff (a = b) (by simp)
  | .collect, .collect | .wait, .wait | .breakOut, .breakOut => isTrue rfl
  | .loop a bs, .loop b cs =>
    have := decEqList bs cs
    decidable_of_iff (a = b ∧ bs = cs) (by simp)
  | .conditional a bs, .conditional b cs =>
    have := decEqList bs cs
    decidable_of_iff (a = b ∧ bs = cs) (by simp)
  | .function a bs, .function b cs =>
    have := decEqList bs cs
    decidable_of_iff (a = b ∧ bs = cs) (by simp)
  | .foreign a, .foreign b => decidable_of_iff (a = b) (by simp)
  | .derived a x, .derived b y =>
    have := decEq x y
    decidable_of_iff (a = b ∧ x = y) (by simp)
  | .move _, .collect | .move _, .wait | .move _, .breakOut | .move _, .loop .. => isFalse nofun
  | .move _, .conditional .. | .move _, .function .. | .move _, .foreign _ => isFalse nofun
  | .collect, .move _ | .collect, .wait | .collect, .breakOut | .collect, .loop .. => isFalse nofun
  | .collect, .conditional .. | .collect, .function .. | .collect, .foreign _ => isFalse nofun
  | .wait, .move _ | .wait, .collect | .wait, .breakOut | .wait, .loop .. => isFalse nofun
  | .wait, .conditional .. | .wait, .function .. | .wait, .foreign _ => isFalse nofun
  | .breakOut, .move _ | .breakOut, .collect | .breakOut, .wait => isFalse nofun
  | .breakOut, .loop .. | .breakOut, .conditional .. | .breakOut, .function .. => isFalse nofun
  | .breakOut, .foreign _ => isFalse nofun
  | .loop .., .move _ | .loop .., .collect | .loop .., .wait | .loop .., .breakOut => isFalse nofun
  | .loop .., .conditional .. | .loop .., .function .. | .loop .., .foreign _ => isFalse nofun
  | .conditional .., .move _ | .conditional .., .collect | .conditional .., .wait => isFalse nofun
  | .conditional .., .breakOut | .conditional .., .loop .. => isFalse nofun
  | .conditional .., .function .. | .conditional .., .foreign _ => isFalse nofun
  | .function .., .move _ | .function .., .collect | .function .., .wait => isFalse nofun
  | .function .., .breakOut | .function .., .loop .. | .function .., .conditional .. =>
    isFalse nofun
  | .function .., .foreign _ => isFalse nofun
  | .foreign _, .move _ | .foreign _, .collect | .foreign _, .wait => isFalse nofun
  | .foreign _, .breakOut | .foreign _, .loop .. | .foreign _, .conditional .. => isFalse nofun
  | .foreign _, .function .. | .foreign _, .derived .. => isFalse nofun
  | .derived .., .move _ | .derived .., .collect | .derived .., .wait => isFalse nofun
  | .derived .., .breakOut | .derived .., .loop .. | .derived .., .conditional .. => isFalse nofun
  | .derived .., .function .. | .derived .., .foreign _ => isFalse nofun
  | .move _, .derived .. | .collect, .derived .. | .wait, .derived .. => isFalse nofun
  | .breakOut, .derived .. | .loop .., .derived .. | .conditional .., .derived .. => isFalse nofun
  | .function .., .derived .. => isFalse nofun

/-- Equality of lists of blocks is decidable. -/
def decEqList : (a b : List Block) → Decidable (a = b)
  | [], [] => isTrue rfl
  | [], _ :: _ | _ :: _, [] => isFalse nofun
  | x :: xs, y :: ys =>
    have := decEq x y
    have := decEqList xs ys
    decidable_of_iff (x = y ∧ xs = ys) (by simp)
end

instance : DecidableEq Block := decEq

/-! ## Limits and defaults -/

/-- The fewest repetitions of a loop. -/
def minCount : Int := 2

/-- The most repetitions of a loop. -/
def maxCount : Int := 6

/-- The depth of the deepest block; a top-level block has depth one. -/
def maxDepth : Nat := 16

/-- The name of a function that was given none. -/
def defaultName : String := "MyFunction"

/-- The block that the palette hands out for a kind. -/
def ofKind : Kind → Block
  | .up => .move (.known .up)
  | .down => .move (.known .down)
  | .left => .move (.known .left)
  | .right => .move (.known .right)
  | .collect => .collect
  | .wait => .wait
  | .breakOut => .breakOut
  | .loop => .loop (.int minCount) []
  | .conditional => .conditional (.known .itemHere) []
  | .function => .function (.text defaultName) []

/-! ## Looking at a node -/

/-- The name of the class of a node. -/
def sort : Block → String
  | .move _ => "Move"
  | .collect => "Collect"
  | .wait => "Wait"
  | .breakOut => "Break"
  | .loop .. => "Loop"
  | .conditional .. => "If"
  | .function .. => "Function"
  | .foreign v => v.typeName
  | .derived name _ => name

/-- Is the node a block? -/
def isBlock : Block → Bool
  | .foreign _ => false
  | .derived _ b => b.isBlock
  | _ => true

/-- The kind of a block. -/
def kind? : Block → Except Defect Kind
  | .move (.known d) => .ok (.ofDirection d)
  | .move (.other v) => .error (.direction v)
  | .collect => .ok .collect
  | .wait => .ok .wait
  | .breakOut => .ok .breakOut
  | .loop .. => .ok .loop
  | .conditional .. => .ok .conditional
  | .function .. => .ok .function
  | .foreign v => .error (.notABlock v.typeName)
  | .derived name b => if b.isBlock then b.kind? else .error (.notABlock name)

theorem kind?_ofKind (k : Kind) : (ofKind k).kind? = .ok k := by
  cases k <;> rfl

/-- Is the node a block of the given kind? -/
def hasKind (k : Kind) (b : Block) : Bool :=
  match b.kind? with
  | .ok k' => k' = k
  | .error _ => false

/-- The body of a block that holds one. -/
def body? : Block → Option (List Block)
  | .loop _ body | .conditional _ body | .function _ body => some body
  | .derived _ b => b.body?
  | _ => none

/-- The children of a node; a leaf has none. -/
def children (b : Block) : List Block := b.body?.getD []

/-- The block with another body; leaves stay as they are. -/
def withBody (body : List Block) : Block → Block
  | .loop count _ => .loop count body
  | .conditional condition _ => .conditional condition body
  | .function name _ => .function name body
  | .derived name b => .derived name (b.withBody body)
  | b => b

/-! ## Walking the tree -/

mutual
/-- The nodes at and below a block with their paths, a parent before its children. -/
def walk (path : Path) : Block → List (Path × Block)
  | .loop count body => (path, .loop count body) :: walkFrom path 0 body
  | .conditional condition body => (path, .conditional condition body) :: walkFrom path 0 body
  | .function name body => (path, .function name body) :: walkFrom path 0 body
  | .move direction => [(path, .move direction)]
  | .collect => [(path, .collect)]
  | .wait => [(path, .wait)]
  | .breakOut => [(path, .breakOut)]
  | .foreign v => [(path, .foreign v)]
  | .derived name b => (path, .derived name b) :: (walk path b).tail

/-- The nodes of siblings below a path, the first of them at the given index. -/
def walkFrom (path : Path) (index : Nat) : List Block → List (Path × Block)
  | [] => []
  | b :: bs => walk (path ++ [index]) b ++ walkFrom path (index + 1) bs
end

end Block

namespace Program

/-- All nodes of a program with their paths, depth first. -/
def walk (p : Program) : List (Path × Block) := Block.walkFrom [] 0 p

/-- The number of nodes of a program. -/
def size (p : Program) : Nat := (walk p).length

/-- The kinds of blocks that occur, in the order of the palette. -/
def kinds (p : Program) : List Kind :=
  Kind.all.filter (fun k => (walk p).any (fun (_, b) => b.hasKind k))

end Program

end GridRobot
