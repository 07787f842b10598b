import GridRobot.Item
import GridRobot.Value

/-!
# Items and marks kept apart

A tally holds items and marks as two lists, which need not have the same length. A mark is any value
and says by its truth whether the item has been taken. Whether an item without a mark has been taken
cannot be told, so a search that comes to one at its cell fails. Marks without an item count like
all others. A pouch is a tally whose lists have the same length and whose marks are truth values.

Main statement: taking from a tally that comes from a pouch is taking from the pouch.
-/

namespace GridRobot

/-- Items and marks. -/
structure Tally (κ : Type := Int) where
  items : List (Item κ)
  marks : List Value
deriving DecidableEq, Repr

/-- What goes wrong with marks. -/
inductive MarkFault where
  /-- An item has no mark. -/
  | noMark
  /-- A mark cannot be added to the sum of those before it. -/
  | notANumber (sum : Number) (v : Value)
deriving DecidableEq, Repr

/-- The wording of a fault. -/
def MarkFault.message : MarkFault → String
  | noMark => "list index out of range"
  | notANumber sum v =>
    s!"unsupported operand type(s) for +: '{(Value.ofNumber sum).typeName}' and '{v.typeName}'"

namespace Tally

variable {κ : Type}

/-- The tally of a pouch. -/
def ofPouch (p : Pouch κ) : Tally κ := ⟨p.items, p.marks.map .bool⟩

/-- The place of the first free item at a cell. -/
def placeOf [Coordinate κ] (c : Cell κ) : List (Item κ) → List Value → Except MarkFault (Option Nat)
  | [], _ => .ok none
  | i :: items, marks =>
    if i.cell.same c then
      match marks with
      | [] => .error .noMark
      | mark :: marks =>
        if mark.isTruthy then (placeOf c items marks).map (·.map (· + 1)) else .ok (some 0)
    else (placeOf c items marks.tail).map (·.map (· + 1))

/-- The first free item at a cell. -/
def itemAt [Coordinate κ] (c : Cell κ) (t : Tally κ) : Except MarkFault (Option (Item κ)) :=
  (placeOf c t.items t.marks).map (·.bind (t.items[·]?))

/-- Take the first free item at a cell: the item, if there is one, and the tally after it. -/
def take [Coordinate κ] (c : Cell κ) (t : Tally κ) : Except MarkFault (Option (Item κ) × Tally κ) :=
  (placeOf c t.items t.marks).map (fun place? =>
    match place? with
    | none => (none, t)
    | some place => (t.items[place]?, { t with marks := t.marks.set place (.bool true) }))

/-- The items that are still free; an item without a mark is not among them. -/
def remaining (t : Tally κ) : List (Item κ) :=
  ((t.items.zip t.marks).filter (fun (_, mark) => !mark.isTruthy)).map (·.1)

/-- Is every mark set? -/
def allTaken (t : Tally κ) : Bool := t.marks.all Value.isTruthy

/-- A sum with further marks. -/
def addMarks (sum : Number) : List Value → Except MarkFault Number
  | [] => .ok sum
  | mark :: marks =>
    match mark.number? with
    | some n => addMarks (sum.add n) marks
    | none => .error (.notANumber sum mark)

/-- The sum of the marks: the number of items that have been taken, if the marks are truth values.
-/
def takenCount (t : Tally κ) : Except MarkFault Number := addMarks 0 t.marks

/-! ## Tallies of pouches -/

/-- The place of the first free slot of a pouch. -/
theorem placeOf_pouch [Coordinate κ] (c : Cell κ) (p : Pouch κ) :
    placeOf c p.items (p.marks.map .bool) = .ok (p.findIdx? (Pouch.freeAt c)) := by
  induction p with
  | nil => rfl
  | cons s rest ih =>
    obtain ⟨item, taken⟩ := s
    simp only [Pouch.items, Pouch.marks, List.map_cons] at ih ⊢
    by_cases hc : item.cell.same c
    · cases taken <;>
        simp [placeOf, hc, ih, List.findIdx?_cons, Pouch.freeAt, Except.map, Value.isTruthy,
          -List.map_map]
    · simp [placeOf, hc, ih, List.findIdx?_cons, Pouch.freeAt, Except.map, -List.map_map]

/-- Taking from a pouch sets the mark of its first free slot. -/
theorem take_pouch [Coordinate κ] (c : Cell κ) (p : Pouch κ) :
    p.take c = match p.findIdx? (Pouch.freeAt c) with
      | none => (none, p)
      | some place => (p.items[place]?, p.modify place (fun s => { s with taken := true })) := by
  induction p with
  | nil => rfl
  | cons s rest ih =>
    by_cases h : Pouch.freeAt c s
    · simp [Pouch.take, List.findIdx?_cons, h, Pouch.items]
    · rw [Pouch.take, ih]
      cases hp : rest.findIdx? (Pouch.freeAt c) <;>
        simp [List.findIdx?_cons, h, hp, Pouch.items]

/-- Setting the mark of a slot changes no item. -/
theorem items_modify (p : Pouch κ) (place : Nat) :
    Pouch.items (p.modify place (fun s => { s with taken := true })) = p.items := by
  induction p generalizing place with
  | nil => simp [Pouch.items]
  | cons s rest ih => cases place <;> simp_all [Pouch.items]

/-- Setting the mark of a slot sets it among the marks. -/
theorem marks_modify (p : Pouch κ) (place : Nat) :
    Pouch.marks (p.modify place (fun s => { s with taken := true })) = p.marks.set place true := by
  induction p generalizing place with
  | nil => simp [Pouch.marks]
  | cons s rest ih => cases place <;> simp_all [Pouch.marks]

/-- Taking from the tally of a pouch is taking from the pouch. -/
theorem take_ofPouch [Coordinate κ] (c : Cell κ) (p : Pouch κ) :
    (ofPouch p).take c = .ok ((p.take c).1, ofPouch (p.take c).2) := by
  rw [take_pouch]
  simp only [take, ofPouch, placeOf_pouch, Except.map]
  cases p.findIdx? (Pouch.freeAt c) with
  | none => rfl
  | some place => simp only [items_modify, marks_modify, List.map_set]

/-- The marks of a pouch add up to the number of items taken from it. -/
theorem addMarks_pouch (p : Pouch κ) (n : Int) :
    addMarks (.int n) (p.marks.map .bool) = .ok (.int (n + p.takenCount)) := by
  induction p generalizing n with
  | nil => simp [addMarks, Pouch.marks, Pouch.takenCount]
  | cons s rest ih =>
    obtain ⟨item, taken⟩ := s
    have h : (Number.int n).add (.truth taken) = .int (n + taken.toInt) := rfl
    simp only [Pouch.marks, Pouch.takenCount, List.map_cons, addMarks, Value.number?] at ih ⊢
    rw [h, ih]
    cases taken <;> simp [Int.add_assoc, Int.add_comm]

end Tally

end GridRobot
