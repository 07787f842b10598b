import GridRobot.Level.World

/-!
# Custom levels

A custom level is described by values of any kind: the key under which it is known, the number of
its items and the number of attempts at a layout. A key that equals the number of a given layout
stands for that layout. The other values matter only when a layout is drawn, and what is wrong with
them shows only then.

Main statement: a custom level with the values of a level of the course has the same worlds.
-/

namespace GridRobot

/-- A level that is no part of the course. -/
structure CustomLevel where
  key : Value
  hasWalls : Bool := false
  items : Value := .int 0
  attempts : Value := .int Layout.maxAttempts
deriving DecidableEq, Repr

/-- Why a custom level has no world. -/
inductive CustomFault where
  | notAKey (v : Value)
  | noSeed (f : SeedFault)
  /-- Something else stands where a number of things should. -/
  | notACount (v : Value)
  | notAddable (a b : Value)
  | noLayout (f : LayoutFault)
deriving DecidableEq, Repr

/-- The wording of a fault. -/
def CustomFault.message : CustomFault → String
  | notAKey v => v.notAKey
  | noSeed f => f.message
  | notACount v => s!"'{v.typeName}' object cannot be interpreted as an integer"
  | notAddable a b => a.notAddable b
  | noLayout f => f.message

namespace CustomLevel

/-- A level of the course as a custom level. -/
def ofLevel (l : Level) : CustomLevel where
  key := .int l.number
  hasWalls := l.terrain.hasWalls
  items := .int l.terrain.items

/-- The layout that is given for the key. -/
def given? (l : CustomLevel) : Option (Cell × Cell × List Cell) :=
  l.key.equalInt?.bind Layout.given?

/-- The number of attempts at a layout. -/
def attemptCount (l : CustomLevel) : Except CustomFault Nat :=
  match l.attempts.number?, l.attempts.count? with
  | none, _ => .error (.notAddable l.attempts (.int 1))
  | some _, none => .error (.notACount l.attempts)
  | some _, some n => .ok n

/-- The number of walls in layouts with items: three more than the key, and no more than eight. -/
def wallCount (l : CustomLevel) : Except CustomFault Nat :=
  if l.hasWalls then
    match l.key.number? with
    | none => .error (.notAddable (.int 3) l.key)
    | some n =>
      let wanted := Number.add 3 n
      .ok ((if wanted.below 8 then wanted else 8).count?.getD 0)
  else .ok 0

/-- The numbers of walls and items in layouts with items; there are none of these if the number of
items counts as false. -/
def counts (l : CustomLevel) : Except CustomFault (Option (Nat × Nat)) :=
  if l.items.isTruthy then
    match l.wallCount, l.items.count? with
    | .error f, _ => .error f
    | .ok _, none => .error (.notACount l.items)
    | .ok walls, some items => .ok (some (walls, items))
  else .ok none

/-- Draw a layout with walls and items in the given numbers, or one without items. -/
def draw (l : CustomLevel) : Option (Nat × Nat) → Twister → Except LayoutFault World × Twister
  | some (walls, items) =>
    Layout.drawWithItems (Twister.source Layout.maxDraws) Layout.maxDraws walls items
  | none => Layout.drawPlain (Twister.source Layout.maxDraws) Layout.maxDraws l.hasWalls

/-- The world that is drawn for a seed. -/
def drawnWorld (l : CustomLevel) (seed : Int) : Except CustomFault World :=
  match l.attemptCount with
  | .error f => .error f
  | .ok 0 => .error (.noLayout (.unreachable l.key l.attempts))
  | .ok attempts =>
    match l.counts with
    | .error f => .error f
    | .ok counts =>
      (Layout.attempt (l.draw counts) (.unreachable l.key l.attempts) attempts
        (Twister.ofSeed seed)).mapError .noLayout

/-- The world of a custom level for a seed of any kind. -/
def world (l : CustomLevel) (seed : Value) : Except CustomFault World :=
  if l.key.isKey then
    match l.given? with
    | some (start, goal, walls) => (Layout.world start goal walls []).mapError .noLayout
    | none =>
      match Seed.ofValue seed with
      | .error f => .error (.noSeed f)
      | .ok seed => l.drawnWorld (seed.getD 0)
  else .error (.notAKey l.key)

/-! ## Levels of the course -/

theorem wallCount_ofLevel (l : Level) :
    (ofLevel l).wallCount =
      .ok (if l.terrain.hasWalls then Layout.wallCount l.number else 0) := by
  have h : Number.add 3 (.int l.number) = .int (3 + l.number) := rfl
  have h8 (n : Int) : Number.below (.int n) 8 = decide (n < 8) := rfl
  by_cases hw : l.terrain.hasWalls
  · simp only [wallCount, ofLevel, hw, Value.number?, h, h8, Layout.wallCount]
    by_cases hn : 3 + l.number < 8
    · simp [hn, Int.min_eq_right (Int.le_of_lt hn)]
    · simp only [hn, Int.min_eq_left (Int.not_lt.1 hn)]
      rfl
  · simp [wallCount, ofLevel, hw]

/-- As a custom level, a level of the course has the same worlds. -/
theorem world_ofLevel (l : Level) (seed : Int) :
    (ofLevel l).world (.int seed) = (l.world seed).mapError .noLayout := by
  have hg : (ofLevel l).given? = Layout.given? l.number := rfl
  have ha : (ofLevel l).attemptCount = .ok 100 := rfl
  have hk : (ofLevel l).key.isKey = true := rfl
  unfold world Level.world Level.worldWithin Layout.generateWithin
  rw [hg, hk]
  cases Layout.given? l.number with
  | some given => rfl
  | none =>
    simp only [if_true, Seed.ofValue, Option.getD_some, drawnWorld, ha, counts, wallCount_ofLevel]
    by_cases hi : l.terrain.items = 0
    · simp [ofLevel, Value.isTruthy, hi, draw, Layout.maxAttempts]
    · simp [ofLevel, Value.isTruthy, Value.count?, hi, draw, Layout.maxAttempts]

end CustomLevel

end GridRobot
