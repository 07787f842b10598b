import GridRobot.World

/-!
# Goals and verdicts

When a program has ended, the goal of the level is asked whether the final state counts as success.
If it does not, the verdict names the reason: items left behind come before a wrong cell if the goal
cares about items, or if the robot stands on the goal cell already.
-/

namespace GridRobot

/-- What a level asks for. -/
structure Goal (κ : Type := Int) where
  /-- Does the final state count as success? -/
  holds : Cell κ → Pouch κ → World κ → Bool
  /-- Does the goal fail as long as items are left? -/
  wantsItems : Bool := false
  /-- Does judging cancel the run that is being judged? -/
  cancelsRun : Bool := false

namespace Goal

variable {κ : Type} [Coordinate κ]

/-- The robot ends on the goal cell. -/
def reach : Goal κ where
  holds position _ world := position.same world.goal

/-- Every item is taken and the robot ends on the goal cell. -/
def collectAll : Goal κ where
  holds position pouch world := pouch.allTaken && position.same world.goal
  wantsItems := true

end Goal

/-- Why a goal was missed. -/
inductive Failure (κ : Type := Int) where
  | wrongCell (actual expected : Cell κ)
  | missingItems (remaining : List (Item κ)) (total : Nat)
deriving DecidableEq, Repr

namespace Failure

variable {κ : Type}

/-- The code of a reason. -/
def code : Failure κ → String
  | wrongCell .. => "POSITION_MISMATCH"
  | missingItems .. => "MISSING_COLLECTIBLES"

/-- The wording of a reason. -/
def message [Coordinate κ] : Failure κ → String
  | wrongCell actual expected => s!"You ended at {actual.text}, but the goal is at {expected.text}"
  | missingItems _ total => s!"You need to collect all {total} items before reaching the goal!"

end Failure

/-- The answer of a goal. -/
inductive Verdict (κ : Type := Int) where
  | passed
  | failed (reason : Failure κ)
deriving DecidableEq, Repr

namespace Verdict

variable {κ : Type}

/-- Was the goal met? -/
def success : Verdict κ → Bool
  | passed => true
  | failed _ => false

/-- The reason of a failure. -/
def failure? : Verdict κ → Option (Failure κ)
  | passed => none
  | failed reason => some reason

/-- The wording of a verdict. -/
def message [Coordinate κ] : Verdict κ → String
  | passed => "Goal reached!"
  | failed reason => reason.message

end Verdict

/-- Judge a final state. -/
def Goal.judge {κ : Type} [Coordinate κ] (g : Goal κ) (position : Cell κ) (pouch : Pouch κ)
    (world : World κ) : Verdict κ :=
  if g.holds position pouch world then .passed
  else
    let remaining := pouch.remaining
    if !remaining.isEmpty && (g.wantsItems || position.same world.goal) then
      .failed (.missingItems remaining pouch.length)
    else .failed (.wrongCell position world.goal)

end GridRobot
