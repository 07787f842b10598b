import GridRobot.Level

/-!
# The course

The fifteen levels of the course, from single moves to everything at once.
-/

namespace GridRobot.Level

/-- The kinds of moves. -/
def moves : List Kind := [.up, .down, .left, .right]

/-- The levels on sequences of moves. -/
def sequenceLevels : List Level := [
  { number := 1
    name := "First Steps"
    topic := "Basic Movement"
    tutorial := "Welcome! Move the robot to the battery."
    instructions := [
      "Add arrow blocks to build your moves",
      "Each arrow moves the robot one space",
      "Press Run to execute your program",
      "Goal: Reach the battery"]
    limit := 4
    palette := moves
    concept := some .sequence
    hints := [
      "The battery is 2 spaces to the right",
      "Use 2 RIGHT arrows"] },
  { number := 2
    name := "Two Turns"
    topic := "Sequences"
    tutorial := "Navigate around! Use multiple directions."
    instructions := [
      "You'll need to move in different directions",
      "Plan your path to avoid going off the grid",
      "The order of moves matters!"]
    limit := 6
    palette := moves
    concept := some .sequence },
  { number := 3
    name := "The Long Path"
    topic := "Longer Sequences"
    tutorial := "This requires many moves in sequence."
    instructions := [
      "Notice how many blocks you're using",
      "When you use the same move multiple times...",
      "...wouldn't a shortcut be nice?",
      "Complete this level to unlock LOOPS!"]
    limit := 12
    palette := moves
    concept := some .sequence }]

/-- The levels on loops. -/
def loopLevels : List Level := [
  { number := 4
    name := "Repeat Discovery"
    topic := "Loop Introduction"
    tutorial := "Try the new LOOP block! Same path, fewer blocks."
    instructions := [
      "NEW BLOCK UNLOCKED: LOOP (Repeat)",
      "The LOOP block repeats moves multiple times",
      "Instead of: RIGHT RIGHT RIGHT RIGHT",
      "Use: LOOP 4x containing RIGHT",
      "Set how many times to repeat on the LOOP block",
      "Put moves INTO the loop block"]
    limit := 8
    palette := moves ++ [.loop]
    concept := some .loop
    hints := [
      "Use LOOP 4x with RIGHT inside",
      "You can combine loops with regular moves"] },
  { number := 5
    name := "Nested Journey"
    topic := "Loop Mastery"
    tutorial := "Use multiple loops efficiently!"
    instructions := [
      "This path has repeating patterns",
      "Break it into smaller loops",
      "Example: Move right 3x, then up 3x"]
    limit := 6
    palette := moves ++ [.loop]
    concept := some .loop },
  { number := 6
    name := "Obstacle Course"
    topic := "Walls & Loops"
    tutorial := "Walls appear! Plan carefully with loops."
    instructions := [
      "NEW: Walls block your path",
      "Hitting a wall wastes a move",
      "Plan your route to avoid walls",
      "Loops are still useful here!"]
    limit := 8
    palette := moves ++ [.loop]
    concept := some .loop
    terrain := { hasWalls := true } },
  { number := 7
    name := "Collector"
    topic := "Multiple Goals"
    tutorial := "Collect all coins, then reach the battery!"
    instructions := [
      "NEW: Collectible items!",
      "Use COLLECT to pick up items",
      "You must collect ALL items before reaching the goal",
      "Plan your route efficiently"]
    limit := 15
    palette := moves ++ [.collect, .loop]
    terrain := { items := 3 }
    objective := .collectAll }]

/-- The levels on decisions. -/
def conditionalLevels : List Level := [
  { number := 8
    name := "Smart Decisions"
    topic := "IF Blocks"
    tutorial := "Sometimes you need to make decisions!"
    instructions := [
      "NEW BLOCK: IF (Conditional)",
      "IF blocks execute moves only when a condition is true",
      "IF ITEM_HERE -> COLLECT",
      "This picks up items automatically!",
      "Choose the condition on the IF block"]
    limit := 10
    palette := moves ++ [.collect, .loop, .conditional]
    concept := some .conditional
    terrain := { items := 2 }
    objective := .collectAll
    hints := [
      "Use IF ITEM_HERE with COLLECT inside",
      "You don't need to know exactly where items are!"] },
  { number := 9
    name := "Wall Detection"
    topic := "IF with Obstacles"
    tutorial := "Detect walls before hitting them!"
    instructions := [
      "IF WALL_AHEAD lets you detect walls",
      "Make smart turns to avoid obstacles",
      "Combine IF blocks with different directions"]
    limit := 12
    palette := moves ++ [.loop, .conditional]
    concept := some .conditional
    terrain := { hasWalls := true } },
  { number := 10
    name := "Treasure Hunt"
    topic := "Complex Conditionals"
    tutorial := "Navigate maze, collect treasures!"
    instructions := [
      "Combine everything you've learned",
      "Use loops for repeated moves",
      "Use IF ITEM_HERE to collect automatically",
      "Use IF WALL_AHEAD to avoid crashes",
      "NEW: BREAK stops a loop early when needed!"]
    limit := 16
    palette := moves ++ [.collect, .breakOut, .loop, .conditional]
    concept := some .conditional
    terrain := { hasWalls := true, items := 4 }
    objective := .collectAll }]

/-- The levels on functions. -/
def functionLevels : List Level := [
  { number := 11
    name := "Function Power"
    topic := "Reusable Code"
    tutorial := "Create a function to reuse complex patterns!"
    instructions := [
      "NEW BLOCK: FUNCTION",
      "Functions let you group and reuse sequences",
      "Example: 'StepRight' = RIGHT + IF ITEM_HERE \x7b COLLECT \x7d",
      "Great for repeated complex patterns!"]
    limit := 14
    palette := Kind.all.erase .wait
    concept := some .function
    terrain := { items := 3 }
    objective := .collectAll },
  { number := 12
    name := "Pattern Master"
    topic := "Function Optimization"
    tutorial := "Find the repeating pattern and functionize it!"
    instructions := [
      "Look for patterns in your required path",
      "Create a function for the pattern",
      "Use loops around the function",
      "Achieve maximum code efficiency!"]
    limit := 10
    palette := moves ++ [.breakOut, .loop, .conditional, .function]
    concept := some .function
    terrain := { hasWalls := true } }]

/-- The levels that use everything. -/
def masterLevels : List Level := [
  { number := 13
    name := "The Gauntlet"
    topic := "Everything Combined"
    tutorial := "Use all your skills to master this complex maze!"
    instructions := [
      "This is a master challenge",
      "You'll need loops, conditionals, and functions",
      "Think about efficiency",
      "Multiple valid solutions exist!"]
    limit := 20
    palette := Kind.all
    concept := some .mixed
    terrain := { hasWalls := true, items := 5 }
    objective := .collectAll },
  { number := 14
    name := "Efficiency Expert"
    topic := "Code Golf"
    tutorial := "Same as before, but use MINIMAL blocks!"
    instructions := [
      "You know the concepts...",
      "Now optimize your solution",
      "Use the fewest blocks possible",
      "Think like a real programmer!"]
    limit := 12
    palette := Kind.all.erase .wait
    concept := some .mixed
    terrain := { hasWalls := true, items := 4 }
    objective := .collectAll },
  { number := 15
    name := "Final Boss"
    topic := "Ultimate Challenge"
    tutorial := "The ultimate programming puzzle!"
    instructions := [
      "FINAL CHALLENGE",
      "Complex maze with multiple paths",
      "Many collectibles and obstacles",
      "Show everything you've learned!"]
    limit := 25
    palette := Kind.all
    concept := some .mixed
    terrain := { hasWalls := true, items := 6 }
    objective := .collectAll }]
/-- All levels, in the order of their numbers. -/
def catalog : List Level :=
  sequenceLevels ++ loopLevels ++ conditionalLevels ++ functionLevels ++ masterLevels

/-- The level with a number. -/
def find? (number : Int) : Option Level := catalog.find? (fun l => l.number == number)

/-- The level under a key of any kind: numbers that are equal are the same key. -/
def atKey? (key : Value) : Option Level := key.equalInt?.bind find?

end GridRobot.Level
