import GridRobot.Number

/-!
# Cells and directions

A cell is a pair of coordinates; the column grows to the right and the row grows downward, so that
the top-left corner of a grid is `(0,0)`. Cells are ordered by column, then by row.

Coordinates are integers unless something else is said. The rules of the game need only little of
them: they can be shifted by an integer, and they have a place on the line.
-/

namespace GridRobot

/-- The four directions of a move. -/
inductive Direction where
  | up
  | down
  | left
  | right
deriving DecidableEq, Repr, Inhabited

namespace Direction

/-- Every direction, in the order of the palette. -/
def all : List Direction := [up, down, left, right]

/-- The name under which a direction is shown. -/
def name : Direction → String
  | up => "UP"
  | down => "DOWN"
  | left => "LEFT"
  | right => "RIGHT"

/-- The direction with the given name. -/
def ofName? (s : String) : Option Direction :=
  all.find? (fun d => d.name == s)

theorem ofName?_name (d : Direction) : ofName? d.name = some d := by
  cases d <;> decide

/-- By how many columns and rows a direction leads on. -/
def offset : Direction → Int × Int
  | up => (0, -1)
  | down => (0, 1)
  | left => (-1, 0)
  | right => (1, 0)

end Direction

/-! ## Coordinates -/

/-- What can stand for a column or a row. -/
class Coordinate (κ : Type) where
  /-- The coordinate of an integer. -/
  ofInt : Int → κ
  /-- The coordinate so much further. -/
  shift : κ → Int → κ
  /-- Are the coordinates equal as numbers? -/
  same : κ → κ → Bool
  /-- Is the first coordinate smaller? -/
  below : κ → κ → Bool
  /-- The number that a coordinate is. -/
  number : κ → Number

namespace Coordinate

instance : Coordinate Int where
  ofInt n := n
  shift n k := n + k
  same m n := m = n
  below m n := m < n
  number := .int

-- the real that stands for no number is still the same place as itself
instance : Coordinate Number where
  ofInt := .int
  shift n k := n.add (.int k)
  same m n := m.same n || m = n
  below := Number.below
  number n := n

variable {κ : Type} [Coordinate κ]

/-- Is the first coordinate smaller or equal? -/
def atMost (a b : κ) : Bool := below a b || same a b

/-- How many cells a row has that ends in front of a coordinate. -/
def extent (k : κ) : Nat := (number k).count?.getD 0

/-- The text of a coordinate. -/
def text (k : κ) : String := (number k).text

/-- Can the coordinate be written? -/
def isWritable (k : κ) : Bool := (number k).isWritable

@[simp] theorem ofInt_int (n : Int) : (ofInt n : Int) = n := rfl

@[simp] theorem shift_int (n k : Int) : shift n k = n + k := rfl

@[simp] theorem same_int (m n : Int) : same m n = decide (m = n) := rfl

@[simp] theorem below_int (m n : Int) : below m n = decide (m < n) := rfl

@[simp] theorem atMost_int (m n : Int) : atMost m n = decide (m ≤ n) :=
  Number.atMost_int m n

@[simp] theorem extent_int (n : Int) : extent n = n.toNat := rfl

@[simp] theorem text_int (n : Int) : text n = toString n := rfl

@[simp] theorem isWritable_int (n : Int) : isWritable n = Numeral.fits n := rfl

end Coordinate

/-! ## Cells -/

/-- A cell of the plane. -/
structure Cell (κ : Type := Int) where
  x : κ
  y : κ
deriving DecidableEq, Repr, Inhabited

namespace Cell

/-- The cell with other coordinates. -/
def map {κ μ : Type} (f : κ → μ) (c : Cell κ) : Cell μ := ⟨f c.x, f c.y⟩

variable {κ : Type} [Coordinate κ]

/-- The neighbour of a cell in a direction. -/
def step (c : Cell κ) (d : Direction) : Cell κ :=
  ⟨Coordinate.shift c.x d.offset.1, Coordinate.shift c.y d.offset.2⟩

/-- Are the cells the same place? -/
def same (a b : Cell κ) : Bool := Coordinate.same a.x b.x && Coordinate.same a.y b.y

/-- Cells compare by column first, then by row. -/
def before (a b : Cell κ) : Bool :=
  if Coordinate.same a.x b.x then Coordinate.below a.y b.y else Coordinate.below a.x b.x

/-- Before or equal. -/
def notAfter (a b : Cell κ) : Bool :=
  a.before b || a.same b

/-- The text of a cell, `(x,y)`. -/
def text (c : Cell κ) : String :=
  s!"({Coordinate.text c.x},{Coordinate.text c.y})"

/-- Can the cell be written? -/
def isWritable (c : Cell κ) : Bool := Coordinate.isWritable c.x && Coordinate.isWritable c.y

/-- Is the cell one of those in a list? -/
def isIn (c : Cell κ) (cs : List (Cell κ)) : Bool := cs.any c.same

/-- Put a cell into an ascending list, in place of the same cell if it is there already. -/
def insertSorted (c : Cell κ) : List (Cell κ) → List (Cell κ)
  | [] => [c]
  | d :: ds =>
    if c.before d then c :: d :: ds else if c.same d then c :: ds else d :: insertSorted c ds

/-- The distinct cells of a list in ascending order. -/
def sortDistinct (cs : List (Cell κ)) : List (Cell κ) :=
  cs.foldr insertSorted []

/-- All cells of a list in ascending order, repetitions kept. -/
def sort (cs : List (Cell κ)) : List (Cell κ) :=
  cs.mergeSort notAfter

/-! ## Cells with integer coordinates -/

@[simp] theorem same_eq_decide (a b : Cell) : a.same b = decide (a = b) := by
  cases a; cases b; simp [same]

@[simp] theorem isIn_eq_decide (c : Cell) (cs : List Cell) : c.isIn cs = decide (c ∈ cs) := by
  simp [isIn, List.any_eq]

theorem mem_insertSorted {a c : Cell} {ds : List Cell} :
    a ∈ insertSorted c ds ↔ a = c ∨ a ∈ ds := by
  induction ds with
  | nil => simp [insertSorted]
  | cons d ds ih =>
    unfold insertSorted
    split
    · simp
    · split
      · next h => simp at h; subst h; simp
      · simp [ih, or_left_comm]

/-- Sorting keeps exactly the members. -/
@[simp] theorem mem_sortDistinct {a : Cell} {cs : List Cell} : a ∈ sortDistinct cs ↔ a ∈ cs := by
  induction cs with
  | nil => simp [sortDistinct]
  | cons c cs ih =>
    have h : sortDistinct (c :: cs) = insertSorted c (sortDistinct cs) := rfl
    rw [h, mem_insertSorted, ih, List.mem_cons]

end Cell

end GridRobot
