import GridRobot.Cell

/-!
# Items

Items lie on cells of the grid; several may share one. A pouch pairs every item with a mark that
says whether it has been taken, so marks and items always have the same length and order. Taking at
a cell marks the first item there that is still free.
-/

namespace GridRobot

/-- The kinds of items. -/
inductive ItemKind where
  | coin
  | gem
  | key
deriving DecidableEq, Repr, Inhabited

namespace ItemKind

/-- Every kind, in the order in which layouts hand them out. -/
def all : List ItemKind := [coin, gem, key]

/-- The name of a kind. -/
def name : ItemKind → String
  | coin => "coin"
  | gem => "gem"
  | key => "key"

/-- The kind with the given name. -/
def ofName? (s : String) : Option ItemKind :=
  all.find? (fun k => k.name == s)

theorem ofName?_name (k : ItemKind) : ofName? k.name = some k := by
  cases k <;> decide

end ItemKind

/-- An item on the grid. -/
structure Item (κ : Type := Int) where
  cell : Cell κ
  kind : ItemKind := .coin
deriving DecidableEq, Repr, Inhabited

/-- The item at a cell with other coordinates. -/
def Item.map {κ μ : Type} (f : κ → μ) (i : Item κ) : Item μ := ⟨i.cell.map f, i.kind⟩

/-- An item and its mark. -/
structure Slot (κ : Type := Int) where
  item : Item κ
  taken : Bool := false
deriving DecidableEq, Repr, Inhabited

/-- Items with their marks. -/
abbrev Pouch (κ : Type := Int) := List (Slot κ)

namespace Pouch

variable {κ : Type}

/-- A pouch in which nothing has been taken. -/
def ofItems (items : List (Item κ)) : Pouch κ := items.map (fun i => ⟨i, false⟩)

/-- Is there an item at the cell that is still free? -/
def freeAt [Coordinate κ] (c : Cell κ) (s : Slot κ) : Bool := s.item.cell.same c && !s.taken

/-- The first free item at a cell. -/
def itemAt? [Coordinate κ] (c : Cell κ) (p : Pouch κ) : Option (Item κ) :=
  (p.find? (freeAt c)).map (·.item)

/-- Take the first free item at a cell: the item, if there is one, and the pouch after it. -/
def take [Coordinate κ] (c : Cell κ) : Pouch κ → Option (Item κ) × Pouch κ
  | [] => (none, [])
  | s :: rest =>
    if freeAt c s then (some s.item, { s with taken := true } :: rest)
    else
      let (found, rest) := take c rest
      (found, s :: rest)

/-- The items. -/
def items (p : Pouch κ) : List (Item κ) := p.map (·.item)

/-- The marks, in the order of the items. -/
def marks (p : Pouch κ) : List Bool := p.map (·.taken)

/-- The items that are still free. -/
def remaining (p : Pouch κ) : List (Item κ) := (p.filter (fun s => !s.taken)).map (·.item)

/-- Has every item been taken? -/
def allTaken (p : Pouch κ) : Bool := p.all (·.taken)

/-- The number of items that have been taken. -/
def takenCount (p : Pouch κ) : Nat := p.countP (·.taken)

/-- Looking at a cell finds the item that taking there would give. -/
theorem take_fst [Coordinate κ] (c : Cell κ) (p : Pouch κ) : (take c p).1 = itemAt? c p := by
  induction p with
  | nil => rfl
  | cons s rest ih =>
    unfold take itemAt?
    by_cases h : freeAt c s
    · simp [h]
    · simpa [h, itemAt?] using ih

/-- Taking changes no item. -/
theorem items_take [Coordinate κ] (c : Cell κ) (p : Pouch κ) : items (take c p).2 = items p := by
  induction p with
  | nil => rfl
  | cons s rest ih =>
    unfold take
    by_cases h : freeAt c s
    · simp [h, items]
    · simpa [h, items] using ih

end Pouch

end GridRobot
