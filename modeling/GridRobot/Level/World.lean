import GridRobot.Level.Layout
import GridRobot.Random.Seed
import GridRobot.Random.Twister

/-!
# The world of a level

A seed settles the world of a level: the layouts are drawn from a twister that is seeded with it.
Levels whose layout is given need no seed, and take anything in its place.
-/

namespace GridRobot

/-- The seed that a value settles for the layout with a number. A layout that is given takes
anything. -/
def Layout.seedOf (number : Int) (seed : Value) : Except SeedFault (Option Int) :=
  if (given? number).isNone then Seed.ofValue seed else .ok none

namespace Level

/-- The world of a level for a seed, where draws are followed so far. -/
def worldWithin (draws : Nat) (l : Level) (seed : Int) : Except LayoutFault World :=
  Layout.generateWithin (Twister.source draws) draws l.number l.terrain Layout.maxAttempts
    (Twister.ofSeed seed)

/-- The world of a level for a seed. -/
def world (l : Level) (seed : Int) : Except LayoutFault World :=
  l.worldWithin Layout.maxDraws seed

/-- Are the layouts of the level drawn? -/
def isDrawn (l : Level) : Bool := (Layout.given? l.number).isNone

end Level

end GridRobot
