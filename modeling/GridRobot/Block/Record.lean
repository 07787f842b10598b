import GridRobot.Block
import GridRobot.Text.Capital
import GridRobot.Value.Source

/-!
# Blocks as records

The exchange form of a block is a record: its kind under `type`, a loop's count under `value`, a
conditional's `condition`, a function's `name`, and the body under `children`. Reading checks the
shape only, and reports the first node that has none, children before their parent's own settings.
-/

namespace GridRobot

/-- Why a record is no block. -/
inductive RecordProblem where
  | tooDeep
  | notARecord (v : Value)
  | missingKind
  | unknownKind (v : Value)
  | childrenNotAList
  | missingCount
  | countNotAnInteger (v : Value)
  | missingCondition
  | unknownCondition (v : Value)
deriving DecidableEq, Repr

/-- A problem and the indices that lead to its node from where reading began. -/
structure RecordError where
  path : Path
  problem : RecordProblem
deriving DecidableEq, Repr

namespace RecordProblem

/-- Can the problem be put into words? -/
def isWritable : RecordProblem → Bool
  | unknownKind v | countNotAnInteger v | unknownCondition v => v.isWritable
  | tooDeep | notARecord _ | missingKind | childrenNotAList | missingCount | missingCondition =>
    true

/-- The wording of a problem. -/
def message : RecordProblem → String
  | tooDeep => s!"nested deeper than {Block.maxDepth} levels"
  | notARecord v => s!"expected an object, got {v.typeName}"
  | missingKind => "missing 'type' field"
  | unknownKind v => s!"unknown block type {v.quoted}"
  | childrenNotAList => "'children' must be a list"
  | missingCount => "LOOP needs a 'value' (iteration count)"
  | countNotAnInteger v => s!"LOOP 'value' must be an integer, got {v.quoted}"
  | missingCondition => "IF needs a 'condition'"
  | unknownCondition v => s!"unknown condition {v.quoted}"

end RecordProblem

/-- What an error tells behind the label of the node where reading began. -/
def RecordError.detail (e : RecordError) : String :=
  let place := String.join (e.path.map (fun index => s!"/{index}"))
  let problem := e.problem.message
  s!"{place}: {problem}"

/-- The wording of an error, given the label of the node where reading began. A problem that cannot
be put into words is told without its node. -/
def RecordError.message (label : Text) (e : RecordError) : Text :=
  if e.problem.isWritable then "Block " ++ label ++ e.detail else Numeral.tooLong

namespace Block

/-! ## Writing -/

/-- A record with the given fields. -/
def recordOf (kind : Kind) (settings : List (Text × Value)) : Value :=
  .record (("type", .text kind.name) :: settings)

mutual
/-- The record of a block. -/
def toRecord : Block → Except Defect Value
  | .move (.known d) => .ok (recordOf (.ofDirection d) [])
  | .move (.other v) => .error (.direction v)
  | .collect => .ok (recordOf .collect [])
  | .wait => .ok (recordOf .wait [])
  | .breakOut => .ok (recordOf .breakOut [])
  | .loop count body =>
    (toRecords body).map (fun vs => recordOf .loop [("value", count), ("children", .list vs)])
  | .conditional (.known c) body =>
    (toRecords body).map (fun vs =>
      recordOf .conditional [("condition", .text c.name), ("children", .list vs)])
  | .conditional (.other v) _ => .error (.condition v)
  | .function name body =>
    (toRecords body).map (fun vs => recordOf .function [("name", name), ("children", .list vs)])
  | .foreign v => .error (.notABlock v.typeName)
  | .derived name b => if b.isBlock then toRecord b else .error (.notABlock name)

/-- The records of a list of blocks. -/
def toRecords : List Block → Except Defect (List Value)
  | [] => .ok []
  | b :: bs =>
    match toRecord b with
    | .error e => .error e
    | .ok v => (toRecords bs).map (v :: ·)
end

/-! ## Reading -/

/-- The kind that a value names, in any case of letters. -/
def kindNamed? (v : Value) : Option Kind := Kind.ofName? (Capital.ofText v.display.toString)

/-- The condition that a value names, in any case of letters. -/
def conditionNamed? (v : Value) : Option Condition :=
  Condition.ofName? (Capital.ofText v.display.toString)

/-- The name of a function record: its first name that counts as true, or the default one. -/
def functionName (data : Value) : Value :=
  let name := (data.field? "name").getD .null
  let other := (data.field? "functionName").getD .null
  if name.isTruthy then name else if other.isTruthy then other else .text defaultName

/-- Read the items of a list one after the other, the first of them at the given index, and stop at
the first one that cannot be read. -/
def readItems (read : Value → Except RecordError Block) :
    Nat → List Value → Except RecordError (List Block)
  | _, [] => .ok []
  | index, v :: vs =>
    match read v with
    | .error e => .error ⟨index :: e.path, e.problem⟩
    | .ok b => (readItems read (index + 1) vs).map (b :: ·)

/-- The block of a container's record, once its body is read. -/
def container (kind : Kind) (data : Value) (body : List Block) : Except RecordProblem Block :=
  match kind with
  | .loop =>
    match data.field? "value" with
    | none => .error .missingCount
    | some (.int n) => .ok (.loop (.int n) body)
    | some v => .error (.countNotAnInteger v)
  | .conditional =>
    match data.field? "condition" with
    | none | some .null => .error .missingCondition
    | some v =>
      match conditionNamed? v with
      | some c => .ok (.conditional (.known c) body)
      | none => .error (.unknownCondition v)
  | .function => .ok (.function (functionName data) body)
  | leaf => .ok (ofKind leaf)

/-- The kind that a record names. -/
def recordKind (data : Value) : Except RecordProblem Kind :=
  match data with
  | .record _ =>
    let named := (data.field? "type").getD .null
    if named.isTruthy then
      match kindNamed? named with
      | some k => .ok k
      | none => .error (.unknownKind named)
    else .error .missingKind
  | v => .error (.notARecord v)

/-- The values under `children`; none if there is no such field. -/
def recordChildren (data : Value) : Except RecordProblem (List Value) :=
  match data.field? "children" with
  | none => .ok []
  | some (.list vs) => .ok vs
  | some _ => .error .childrenNotAList

/-- Read a block from its record, with room for so many levels of blocks. -/
def ofRecord : (room : Nat) → Value → Except RecordError Block
  | 0, _ => .error ⟨[], .tooDeep⟩
  | room + 1, data =>
    match recordKind data with
    | .error p => .error ⟨[], p⟩
    | .ok kind =>
      if kind.isContainer then
        match recordChildren data with
        | .error p => .error ⟨[], p⟩
        | .ok vs =>
          match readItems (ofRecord room) 0 vs with
          | .error e => .error e
          | .ok body => (container kind data body).mapError (⟨[], ·⟩)
      else .ok (ofKind kind)

/-- More levels than any record has. -/
def amplyDeep : Nat := 1000

/-- The levels of blocks that fit below a given depth. -/
def roomAt (depth : Number) : Nat :=
  match depth.ceiling? with
  | some d => ((maxDepth : Int) + 1 - d).toNat
  | none => if Number.below (.int maxDepth) depth then 0 else amplyDeep

end Block

/-- Why a text or a value is no program. -/
inductive ProgramError where
  | notAList
  | badText (e : SourceError)
  | badBlocks (errors : List RecordError)
deriving DecidableEq, Repr

namespace ProgramError

/-- The messages of an error; the path of a block starts with its own index. -/
def messages : ProgramError → List String
  | notAList => ["Program must be a list of blocks"]
  | badText e =>
    let reason := e.message
    [s!"Invalid program JSON: {reason}"]
  | badBlocks errors => errors.map (fun e =>
    if e.problem.isWritable then
      match e.path with
      | [] => s!"Block {e.detail}"
      | index :: path =>
        let detail := RecordError.detail ⟨path, e.problem⟩
        s!"Block {index}{detail}"
    else Numeral.tooLong)

end ProgramError

namespace Program

/-- The exchange form of a program. -/
def toRecords (p : Program) : Except Defect Value := (Block.toRecords p).map .list

/-- Read every item: the blocks of those that can be read, and an error for each of the others. -/
def readEach : Nat → List Value → List Block × List RecordError
  | _, [] => ([], [])
  | index, v :: vs =>
    let (blocks, errors) := readEach (index + 1) vs
    match Block.ofRecord Block.maxDepth v with
    | .ok b => (b :: blocks, errors)
    | .error e => (blocks, ⟨index :: e.path, e.problem⟩ :: errors)

/-- Read a program from its exchange form. -/
def ofRecords (data : Value) : Except ProgramError Program :=
  match data with
  | .list vs =>
    match readEach 0 vs with
    | (blocks, []) => .ok blocks
    | (_, errors) => .error (.badBlocks errors)
  | _ => .error .notAList

/-- The program inside a value: a record may hold it under `program` or, failing that, `blocks`. -/
def unwrap (data : Value) : Value :=
  match data with
  | .record _ => ((data.field? "program").or (data.field? "blocks")).getD .null
  | v => v

/-- Read a program from text, whose lists and records are not nested deeper than allowed. -/
def parse (nesting : Nat) (t : Text) : Except ProgramError Program :=
  match Value.parse nesting t with
  | .error e => .error (.badText e)
  | .ok data => ofRecords (unwrap data)

/-- Why a program has no text. -/
inductive RenderFault where
  | defect (d : Defect)
  /-- The program holds an integer that is too long to be written. -/
  | unwritable
deriving DecidableEq, Repr

/-- The wording of a fault. -/
def RenderFault.message : RenderFault → String
  | .defect d => d.message
  | .unwritable => Numeral.tooLong

/-- The text of a program. -/
def render (style : Value.Style) (p : Program) : Except RenderFault Text :=
  match toRecords p with
  | .error d => .error (.defect d)
  | .ok data => if data.isWritable then .ok (Value.render style data) else .error .unwritable

end Program

end GridRobot
