import GridRobot.Level
import GridRobot.Random.Source
import GridRobot.Text.Summary
import GridRobot.World.Reach

/-!
# Layouts

The first levels have layouts of their own. The layouts of the others are drawn: cells for walls and
items until enough of them are free, again and again until the goal and all items can be reached.
The number of attempts is limited. A grid may be full, and then the draws for a free cell would
never end; so they are followed only so far. Where they are given up there is no layout, and neither
is there one where the source of draws comes to no number.
-/

namespace GridRobot

/-- Why there is no layout. -/
inductive LayoutFault where
  /-- No attempt gave a layout in which everything can be reached. -/
  | unreachable (level attempts : Value)
  /-- The draws for a free cell were not followed to their end. -/
  | noFreeCell
  /-- The parts of a layout do not make a world. -/
  | unsound (e : WorldError)
deriving DecidableEq, Repr

namespace LayoutFault

/-- The complaints of a fault. -/
def complaints : LayoutFault → List String
  | unreachable level attempts =>
    [s!"Could not generate a reachable layout for level {level.display.toString} " ++
      s!"after {attempts.display.toString} attempts"]
  | noFreeCell => ["Could not find a free cell"]
  | unsound (.unsound faults) => faults.map WorldFault.message
  | unsound .unwritable => []

/-- Can the fault be put into words? -/
def isWritable : LayoutFault → Bool
  | unreachable level attempts => level.isWritable && attempts.isWritable
  | noFreeCell => true
  | unsound (.unsound _) => true
  | unsound .unwritable => false

/-- The wording of a fault. -/
def message (f : LayoutFault) : String :=
  if f.isWritable then summary "World" f.complaints else Numeral.tooLong

end LayoutFault

namespace Layout

/-- The side of the grid. -/
def side : Nat := 6

/-- The most attempts at a layout. -/
def maxAttempts : Int := 100

/-- How far draws are followed if nothing else is said: those for one cell, and those for one number
of it. -/
def maxDraws : Nat := 1000000

/-! ## Layouts that are given -/

/-- Start, goal and walls of the levels whose layout is given. -/
def given? : Int → Option (Cell × Cell × List Cell)
  | 1 => some (⟨1, 2⟩, ⟨3, 2⟩, [])
  | 2 => some (⟨1, 1⟩, ⟨4, 3⟩, [])
  | 3 => some (⟨0, 0⟩, ⟨5, 5⟩, [⟨2, 1⟩, ⟨4, 3⟩])
  | 4 => some (⟨1, 3⟩, ⟨5, 3⟩, [])
  | 5 => some (⟨0, 0⟩, ⟨5, 2⟩, [])
  | 6 => some (⟨0, 0⟩, ⟨5, 5⟩, [⟨2, 0⟩, ⟨2, 1⟩, ⟨2, 2⟩, ⟨4, 3⟩, ⟨4, 4⟩, ⟨4, 5⟩])
  | _ => none

/-- A world on the grid of all levels. -/
def world (start goal : Cell) (walls : List Cell) (items : List Item) : Except LayoutFault World :=
  (World.build (side : Int) start goal walls items).mapError .unsound

/-! ## Layouts that are drawn -/

variable {σ : Type} (source : DrawSource σ)

/-- Go on with what was drawn, if anything was. -/
def andThen {α β : Type} (drawn : Option α × σ) (next : α → σ → Option β × σ) : Option β × σ :=
  match drawn with
  | (some a, s) => next a s
  | (none, s) => (none, s)

/-- Draw a cell: its column, then its row. -/
def drawCell (s : σ) : Option Cell × σ :=
  andThen (source.roll 6 s) fun x s =>
  andThen (source.roll 6 s) fun y s => (some ⟨x, y⟩, s)

/-- Draw cells until one is not taken. -/
def drawFree (taken : List Cell) : (draws : Nat) → σ → Option Cell × σ
  | 0, s => (none, s)
  | draws + 1, s =>
    andThen (drawCell source s) fun cell s =>
      if taken.contains cell then drawFree taken draws s else (some cell, s)

/-- Draw so many cells, none of them taken and no two the same, newest first. -/
def drawCells (draws : Nat) (taken : List Cell) :
    (count : Nat) → List Cell → σ → Option (List Cell) × σ
  | 0, drawn, s => (some drawn, s)
  | count + 1, drawn, s =>
    andThen (drawFree source (drawn ++ taken) draws s) fun cell s =>
      drawCells draws taken count (cell :: drawn) s

/-- Items at cells, their kinds in turn coin, gem and key. -/
def itemsAt (cells : List Cell) : List Item :=
  cells.zipIdx.map (fun (cell, index) =>
    ⟨cell, if index % 3 = 0 then .coin else if index % 3 = 1 then .gem else .key⟩)

/-- The number of walls in the layouts of a level with items. -/
def wallCount (number : Int) : Nat := (min 8 (3 + number)).toNat

/-- A layout with items: the start and the goal are in opposite corners. -/
def drawWithItems (draws walls items : Nat) (s : σ) : Except LayoutFault World × σ :=
  let start : Cell := ⟨0, 0⟩
  let goal : Cell := ⟨5, 5⟩
  match drawCells source draws [start, goal] walls [] s with
  | (none, s) => (.error .noFreeCell, s)
  | (some walls, s) =>
    match drawCells source draws (walls ++ [start, goal]) items [] s with
    | (none, s) => (.error .noFreeCell, s)
    | (some cells, s) => (world start goal walls (itemsAt cells.reverse), s)

/-- A layout without items: a start, a goal and so many walls. -/
def drawWalls (draws : Nat) (start goal : Cell) (count : Nat) (s : σ) :
    Except LayoutFault World × σ :=
  match drawCells source draws [start, goal] count [] s with
  | (none, s) => (.error .noFreeCell, s)
  | (some walls, s) => (world start goal walls [], s)

/-- Draw what a layout without items begins with: a start in the left half, a goal in the right half
and the number of walls. -/
def drawEnds (hasWalls : Bool) (s : σ) : Option (Cell × Cell × Nat) × σ :=
  andThen (source.roll 3 s) fun x s =>
  andThen (source.roll 6 s) fun y s =>
  andThen (source.roll 3 s) fun u s =>
  andThen (source.roll 6 s) fun v s =>
  let start : Cell := ⟨x, y⟩
  let goal : Cell := ⟨3 + u, v⟩
  if hasWalls then andThen (source.roll 6 s) fun more s => (some (start, goal, 4 + more), s)
  else (some (start, goal, 0), s)

/-- A layout without items. -/
def drawPlain (draws : Nat) (hasWalls : Bool) (s : σ) : Except LayoutFault World × σ :=
  match drawEnds source hasWalls s with
  | (none, s) => (.error .noFreeCell, s)
  | (some (start, goal, count), s) => drawWalls source draws start goal count s

/-- Draw layouts until everything in one can be reached, at most so many. -/
def attempt (draw : σ → Except LayoutFault World × σ) (fault : LayoutFault) :
    (attempts : Nat) → σ → Except LayoutFault World
  | 0, _ => .error fault
  | attempts + 1, s =>
    match draw s with
    | (.error f, _) => .error f
    | (.ok w, s) => if w.isSolvable then .ok w else attempt draw fault attempts s

/-- The world of a level, the given layout or one that is drawn, where the draws for one cell are
followed so far. -/
def generateWithin (draws : Nat) (number : Int) (t : Terrain) (attempts : Int) (s : σ) :
    Except LayoutFault World :=
  match given? number with
  | some (start, goal, walls) => world start goal walls []
  | none =>
    let draw :=
      if t.items = 0 then drawPlain source draws t.hasWalls
      else drawWithItems source draws (if t.hasWalls then wallCount number else 0) t.items.toNat
    attempt draw (.unreachable (.int number) (.int attempts)) attempts.toNat s

end Layout

end GridRobot
