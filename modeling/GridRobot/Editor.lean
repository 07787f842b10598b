import GridRobot.Number.Index
import GridRobot.Program.Check

/-!
# Editor

An editor holds a program under construction. It keeps the budget of the level whenever a top-level
block is added, refuses kinds that the palette lacks, and reaches nested blocks by routes. An index
of a route counts from the end if it is negative. What fails changes nothing, with one exception: a
child is in its place before its own route is put together, which fails if the route of the parent
was handed over as a list.

Indices are integers unless something else is said. If they are values, a truth value counts as one
or zero, and every other value that is no integer leads nowhere.
-/

namespace GridRobot

/-! ## Routes -/

/-- What can stand for an index of a route. -/
class RouteIndex (ι : Type) where
  /-- The index of a place. -/
  ofNat : Nat → ι
  /-- The integer that an index means. -/
  toInt? : ι → Option Int
  /-- The text of an index. -/
  text : ι → String
  /-- Can the index be written? -/
  isWritable : ι → Bool
  /-- The name of the kind of an index, for messages. -/
  typeName : ι → String

instance : RouteIndex Int where
  ofNat n := n
  toInt? n := some n
  text := toString
  isWritable := Numeral.fits
  typeName n := (Value.int n).typeName

instance : RouteIndex Value where
  ofNat n := .int n
  toInt? v := v.number?.bind Number.whole?
  text v := v.display.toString
  isWritable := Value.isWritable
  typeName := Value.typeName

@[simp] theorem RouteIndex.ofNat_int (n : Nat) : (RouteIndex.ofNat n : Int) = n := rfl

@[simp] theorem RouteIndex.toInt?_int (n : Int) : RouteIndex.toInt? n = some n := rfl

/-- The indices that lead to a block from an editor; negative ones count from the end. -/
abbrev Route (ι : Type := Int) := List ι

namespace Route

/-- The text of a route, its indices divided by slashes. -/
def text {ι : Type} [RouteIndex ι] (r : Route ι) : String :=
  String.intercalate "/" (r.map RouteIndex.text)

/-- Can the route be written? -/
def isWritable {ι : Type} [RouteIndex ι] (r : Route ι) : Bool := r.all RouteIndex.isWritable

/-- The place that an integer means in a list of the given length. -/
def place? (index : Int) (length : Nat) : Option Nat :=
  let place := if index < 0 then index + length else index
  if 0 ≤ place && place < length then some place.toNat else none

end Route

/-- How a route is handed over. -/
inductive RouteForm where
  | tuple
  | list
deriving DecidableEq, Repr

/-- What is handed to an editor: a kind of the palette or a block. -/
inductive Supply where
  | kind (k : Kind)
  | block (b : Block)
deriving DecidableEq, Repr

/-- The block that is handed over. -/
def Supply.toBlock : Supply → Block
  | kind k => .ofKind k
  | block b => b

/-- A new setting of a block. -/
inductive Update where
  | direction (d : Setting Direction)
  | condition (c : Setting Condition)
  | count (v : Value)
  | name (v : Value)
  | body (blocks : List Block)
  | unknown (key : Text)
deriving DecidableEq, Repr

/-- The key of a setting. -/
def Update.key : Update → Text
  | direction _ => "direction"
  | condition _ => "condition"
  | count _ => "iterations"
  | name _ => "name"
  | body _ => "body"
  | unknown key => key

/-- Is the key of the setting a name that the edit itself uses? -/
def Update.isTaken (u : Update) : Bool := u.key = "self" || u.key = "path"

namespace Block

/-- The name of the block class to which a node belongs, if only by derivation. -/
def origin : Block → String
  | .derived _ b => b.origin
  | b => b.sort

/-- Does the block have the setting? -/
def takes : Block → Update → Bool
  | .move _, .direction _ => true
  | .loop .., .count _ => true
  | .conditional .., .condition _ => true
  | .function .., .name _ => true
  | .derived _ b, u => b.takes u
  | b, .body _ => b.body?.isSome
  | _, _ => false

/-- The block with a setting changed; settings that it does not have change nothing. -/
def update : Block → Update → Block
  | .move _, .direction d => .move d
  | .loop _ body, .count v => .loop v body
  | .conditional _ body, .condition c => .conditional c body
  | .function _ body, .name v => .function v body
  | .derived name b, u => .derived name (b.update u)
  | b, .body blocks => b.withBody blocks
  | b, _ => b

end Block

/-- Why an edit is refused. -/
inductive EditFault (ι : Type := Int) where
  | overBudget (limit : Number)
  | unavailable (k : Kind)
  | cannotHold (route : Route ι) (k : Kind)
  | rejected (issues : List Issue)
  | defect (d : Defect)
  | emptyRoute
  | noSuchBlock
  | noSuchChild
  | notABlockIndex (index : ι)
  | notAChildIndex (index : ι)
  | notARemoval (index : ι)
  | throughLeaf (route : Route ι)
  | nothingLeft
  | noBlockToRemove
  | noPlace
  | noIndex
  | indexTooLarge
  | removalTooLarge
  | noBody (b : Block)
  | unknownSetting (b : Block) (key : Text)
  | takenName (key : Text)
  | notConfigurable
  /-- The route of a child cannot be put together from a list. -/
  | notATuple
  /-- The fault holds an integer that is too long to be told. -/
  | unwritable
deriving DecidableEq, Repr

variable {ι : Type} [RouteIndex ι]

namespace EditFault

/-- The complaints of a fault that breaks a rule of programs or of the level. -/
def complaints : EditFault ι → List String
  | overBudget limit => [s!"Block limit reached: at most {limit.text} top-level blocks"]
  | unavailable k => [s!"{k.name} is not available in this level"]
  | cannotHold route k => [s!"Block {route.text} ({k.name}) cannot hold children"]
  | rejected issues => issues.map Issue.message
  | _ => []

/-- The wording of a fault. -/
def message : EditFault ι → Text
  | defect d => d.message
  | emptyRoute => "Empty block path"
  | noSuchBlock => "list index out of range"
  | noSuchChild => "tuple index out of range"
  | notABlockIndex i => s!"list indices must be integers or slices, not {RouteIndex.typeName i}"
  | notAChildIndex i => s!"tuple indices must be integers or slices, not {RouteIndex.typeName i}"
  | notARemoval i => s!"'{RouteIndex.typeName i}' object cannot be interpreted as an integer"
  | throughLeaf route => s!"Block path {route.text} goes through a non-container"
  | nothingLeft => "pop from empty list"
  | noBlockToRemove => "pop index out of range"
  | noPlace => "list assignment index out of range"
  | noIndex => "tuple index out of range"
  | indexTooLarge => Index.tooLarge
  | removalTooLarge => "Python int too large to convert to C ssize_t"
  | noBody b => s!"'{b.sort}' object has no attribute 'body'"
  | unknownSetting b key =>
    s!"{b.origin}.__init__() got an unexpected keyword argument '" ++ key ++ "'"
  | takenName key => "ProgramBuilder.configure() got multiple values for argument '" ++ key ++ "'"
  | notConfigurable => "replace() should be called on dataclass instances"
  | notATuple => "can only concatenate list (not \"tuple\") to list"
  | unwritable => Numeral.tooLong
  | fault => summary "Program" fault.complaints

/-- Can the fault be put into words? -/
def isWritable : EditFault ι → Bool
  | overBudget limit => limit.isWritable
  | cannotHold route _ | throughLeaf route => route.isWritable
  | rejected issues => issues.all Issue.isWritable
  | _ => true

/-- What is told of a fault: the fault, or that it cannot be put into words. -/
def told (f : EditFault ι) : EditFault ι := if f.isWritable then f else unwritable

end EditFault

/-- A program under construction. -/
structure Editor where
  rules : Rules := {}
  blocks : Program := []
deriving DecidableEq, Repr

namespace Editor

/-! ## Looking -/

/-- The number of top-level blocks that may still be added. -/
def remaining (e : Editor) : Option Number :=
  e.rules.limit.map (fun limit =>
    let left := limit.sub (.int e.blocks.length)
    if Number.below 0 left then left else 0)

/-- Is the budget used up? -/
def isFull (e : Editor) : Bool :=
  match e.rules.limit with
  | some limit => limit.atMost (.int e.blocks.length)
  | none => false

/-- A budget that is an integer is used up when one block more is too many. -/
theorem isFull_eq {e : Editor} {limit : Int} (h : e.rules.limit = some (.int limit)) :
    e.isFull = !e.rules.affords (e.blocks.length + 1) := by
  have hl : limit ≤ (e.blocks.length : Int) ↔ limit < ((e.blocks.length + 1 : Nat) : Int) := by
    omega
  simp only [isFull, Rules.affords, h, Number.atMost_int, Number.below_int, Bool.not_not,
    decide_eq_decide.2 hl]

/-- The block that an integer means, or the fault if there is none. -/
def pick (missing : EditFault ι) (index : Int) (blocks : List Block) :
    Except (EditFault ι) Block :=
  if Index.fits index then
    match (Route.place? index blocks.length).bind (blocks[·]?) with
    | none => .error missing
    | some b => .ok b
  else .error .indexTooLarge

/-- The top-level block that an index means. -/
def pickBlock (index : ι) (blocks : List Block) : Except (EditFault ι) Block :=
  match RouteIndex.toInt? index with
  | none => .error (.notABlockIndex index)
  | some n => pick .noSuchBlock n blocks

/-- The child that an index means. -/
def pickChild (index : ι) (body : List Block) : Except (EditFault ι) Block :=
  match RouteIndex.toInt? index with
  | none => .error (.notAChildIndex index)
  | some n => pick .noSuchChild n body

/-- The block below another one. -/
def descend (whole : Route ι) : Route ι → Block → Except (EditFault ι) Block
  | [], b => .ok b
  | index :: route, b =>
    match b.body? with
    | none => .error (EditFault.told (.throughLeaf whole))
    | some body =>
      match pickChild index body with
      | .error f => .error f
      | .ok child => descend whole route child

/-- The block at a route. -/
def get (e : Editor) : Route ι → Except (EditFault ι) Block
  | [] => .error .emptyRoute
  | index :: route =>
    match pickBlock index e.blocks with
    | .error f => .error f
    | .ok b => descend (index :: route) route b

/-- The finished program, if it keeps the rules. -/
def build (e : Editor) : Except (EditFault ι) Program :=
  match (e.blocks.check e.rules).issues with
  | [] => .ok e.blocks
  | issues => .error (EditFault.told (.rejected issues))

/-! ## Changing -/

/-- The place that an index means among blocks that shall be changed. -/
def placeOf (index : ι) (blocks : List Block) : Except (EditFault ι) Nat :=
  match RouteIndex.toInt? index with
  | none => .error (.notABlockIndex index)
  | some n =>
    if Index.fits n then
      match Route.place? n blocks.length with
      | none => .error .noPlace
      | some place => .ok place
    else .error .indexTooLarge

/-- Blocks in which another one stands at a route. -/
def replaceAt (new : Block) (whole : Route ι) :
    Route ι → List Block → Except (EditFault ι) (List Block)
  | [], _ => .error .emptyRoute
  | index :: route, blocks =>
    match placeOf index blocks with
    | .error f => .error f
    | .ok place =>
      match route with
      | [] => .ok (blocks.set place new)
      | route =>
        match blocks[place]? with
        | none => .error .noPlace
        | some old =>
          match old.body? with
          | none => .error (EditFault.told (.throughLeaf whole))
          | some body =>
            match replaceAt new whole route body with
            | .error f => .error f
            | .ok body => .ok (blocks.set place (old.withBody body))

/-- The editor with another block at a route. -/
def put (e : Editor) (route : Route ι) (b : Block) : Except (EditFault ι) Editor :=
  (replaceAt b route route e.blocks).map (fun blocks => { e with blocks := blocks })

/-- The block that is handed over, if the palette has its kind. -/
def accept (e : Editor) (s : Supply) : Except (EditFault ι) Block :=
  match e.rules.palette with
  | none => .ok s.toBlock
  | some _ =>
    match s.toBlock.kind? with
    | .error d => .error (.defect d)
    | .ok k => if e.rules.allows k then .ok s.toBlock else .error (.unavailable k)

/-- Add a top-level block: its index. -/
def add (e : Editor) (s : Supply) : Except (EditFault ι) Nat × Editor :=
  match e.accept s with
  | .error f => (.error f, e)
  | .ok b =>
    match e.isFull, e.rules.limit with
    | true, some limit => (.error (EditFault.told (.overBudget limit)), e)
    | _, _ => (.ok e.blocks.length, { e with blocks := e.blocks ++ [b] })

/-- Remove a top-level block: the block. -/
def remove (e : Editor) (index : ι) : Except (EditFault ι) Block × Editor :=
  match RouteIndex.toInt? index with
  | none => (.error (.notARemoval index), e)
  | some n =>
    if !Index.fits n then (.error .removalTooLarge, e)
    else if e.blocks.isEmpty then (.error .nothingLeft, e)
    else
      match Route.place? n e.blocks.length with
      | none => (.error .noBlockToRemove, e)
      | some place =>
        match e.blocks[place]? with
        | none => (.error .noBlockToRemove, e)
        | some b => (.ok b, { e with blocks := e.blocks.eraseIdx place })

/-- Remove all blocks. -/
def clear (e : Editor) : Editor := { e with blocks := [] }

/-- Add a child to the container at a route: the route of the child, which is put together when the
child is in its place. -/
def addChild (e : Editor) (route : Route ι) (s : Supply) (form : RouteForm := .tuple) :
    Except (EditFault ι) (Route ι) × Editor :=
  match e.accept s with
  | .error f => (.error f, e)
  | .ok b =>
    match e.get route with
    | .error f => (.error f, e)
    | .ok parent =>
      match parent.body? with
      | some body =>
        match e.put route (parent.withBody (body ++ [b])) with
        | .error f => (.error f, e)
        | .ok e =>
          match form with
          | .tuple => (.ok (route ++ [RouteIndex.ofNat body.length]), e)
          | .list => (.error .notATuple, e)
      | none =>
        match parent.kind? with
        | .ok k => (.error (EditFault.told (.cannotHold route k)), e)
        | .error d => (.error (.defect d), e)

/-- What stands in front of an index; a negative index counts from the end. -/
def frontOf (index : Int) (blocks : List Block) : List Block :=
  if index < 0 then blocks.take (blocks.length + index).toNat else blocks.take index.toNat

/-- What stands from an index on; a negative index counts from the end. -/
def backFrom (index : Int) (blocks : List Block) : List Block :=
  if index < 0 then blocks.drop (blocks.length + index).toNat else blocks.drop index.toNat

/-- A body without the child at an index: what stands in front of it, then what stands from the next
index on. The index after `-1` is `0`, which counts from the front. -/
def without (index : Int) (body : List Block) : List Block :=
  frontOf index body ++ backFrom (index + 1) body

/-- Remove a child below a route, or a top-level block if the route has a single index: the block.
-/
def removeChild (e : Editor) (route : Route ι) : Except (EditFault ι) Block × Editor :=
  match route with
  | [] => (.error .noIndex, e)
  | [index] => e.remove index
  | index :: more =>
    let above := (index :: more).dropLast
    let last := more.getLast?.getD index
    match e.get above with
    | .error f => (.error f, e)
    | .ok parent =>
      match parent.body? with
      | none => (.error (.noBody parent), e)
      | some body =>
        match pickChild last body with
        | .error f => (.error f, e)
        | .ok child =>
          let place := (RouteIndex.toInt? last).getD 0
          match e.put above (parent.withBody (without place body)) with
          | .error f => (.error f, e)
          | .ok e => (.ok child, e)

/-- Change settings of the block at a route: the block after the change. Names that the edit itself
uses are refused before the block is looked for. -/
def configure (e : Editor) (route : Route ι) (updates : List Update) :
    Except (EditFault ι) Block × Editor :=
  match updates.find? Update.isTaken with
  | some u => (.error (.takenName u.key), e)
  | none =>
    match e.get route with
    | .error f => (.error f, e)
    | .ok b =>
      if b.isBlock then
        match updates.find? (fun u => !b.takes u) with
        | some u => (.error (.unknownSetting b u.key), e)
        | none =>
          let b := updates.foldl Block.update b
          match e.put route b with
          | .error f => (.error f, e)
          | .ok e => (.ok b, e)
      else (.error .notConfigurable, e)

end Editor

/-! ## Edits as data -/

/-- What can be asked of an editor. -/
inductive Edit (ι : Type := Int) where
  | add (s : Supply)
  | remove (index : ι)
  | clear
  | addChild (route : Route ι) (s : Supply) (form : RouteForm := .tuple)
  | removeChild (route : Route ι)
  | configure (route : Route ι) (updates : List Update)
  | get (route : Route ι)
  | build
deriving DecidableEq, Repr

/-- What an editor answers. -/
inductive EditAnswer (ι : Type := Int) where
  | index (n : Nat)
  | route (r : Route ι)
  | block (b : Block)
  | program (p : Program)
  | done
deriving DecidableEq, Repr

/-- Do what is asked. -/
def Editor.perform (e : Editor) : Edit ι → Except (EditFault ι) (EditAnswer ι) × Editor
  | .add s => let (r, e) := e.add s; (r.map .index, e)
  | .remove index => let (r, e) := e.remove index; (r.map .block, e)
  | .clear => (.ok .done, e.clear)
  | .addChild route s form => let (r, e) := e.addChild route s form; (r.map .route, e)
  | .removeChild route => let (r, e) := e.removeChild route; (r.map .block, e)
  | .configure route updates => let (r, e) := e.configure route updates; (r.map .block, e)
  | .get route => ((e.get route).map .block, e)
  | .build => (e.build.map .program, e)

end GridRobot
