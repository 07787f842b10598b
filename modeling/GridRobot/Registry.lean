import GridRobot.Run

/-!
# The registry of runs

The registry keeps runs in the order of their creation, each with what its host tells of the level
and the seed it was made for, and gives them ids that are never used twice. Runs leave it when they
are ended, or when they have been over for long enough and the registry is swept.
-/

namespace GridRobot

/-- A registered run. -/
structure Entry (κ : Type := Int) where
  run : Run κ
  level : Value := .null
  seed : Value := .null

/-- The runs that are known. -/
structure Registry (κ : Type := Int) where
  /-- The entries in the order of their creation. -/
  entries : List (Entry κ) := []
  /-- The number of ids given so far. -/
  issued : Nat := 0

/-- The age of a run cannot be compared with something that is no number. -/
structure AgeFault where
  age : Number
  maxAge : Value
deriving DecidableEq, Repr

/-- The wording of a fault. -/
def AgeFault.message (f : AgeFault) : String := (Value.ofNumber f.age).notOrdered ">" f.maxAge

namespace Registry

variable {κ : Type}

/-- The id that is given next. -/
def nextId (g : Registry κ) : Value := .text s!"run-{g.issued + 1}"

/-- Make a run that is not registered. A given id is used unless it counts as false. -/
def launch (g : Registry κ) (now : Number) (id : Value) (p : Program) (w : World κ)
    (goal : Goal κ) : Except LaunchFault (Run κ) × Registry κ :=
  if id.isTruthy then (Run.launch id now p w goal, g)
  else
    match Run.launch g.nextId now p w goal with
    | .ok r => (.ok r, { g with issued := g.issued + 1 })
    | .error f => (.error f, g)

/-- Make and register a run. -/
def start (g : Registry κ) (now : Number) (p : Program) (w : World κ) (goal : Goal κ)
    (level seed : Value) : Except LaunchFault (Run κ) × Registry κ :=
  match g.launch now .null p w goal with
  | (.ok r, g) => (.ok r, { g with entries := g.entries ++ [⟨r, level, seed⟩] })
  | (.error f, g) => (.error f, g)

/-! ## Looking -/

/-- The entry with an id. -/
def entry? (g : Registry κ) (id : Value) : Option (Entry κ) :=
  g.entries.find? (fun e => e.run.id == id)

/-- The run with an id. -/
def get? (g : Registry κ) (id : Value) : Option (Run κ) := (g.entry? id).map (·.run)

/-- The ids of all runs. -/
def ids (g : Registry κ) : List Value := g.entries.map (·.run.id)

/-- The ids of the runs that are not over. -/
def activeIds (g : Registry κ) : List Value :=
  (g.entries.filter (·.run.isActive)).map (·.run.id)

/-- The outcome of a run. -/
def outcome (g : Registry κ) (id : Value) : Option (Outcome κ) := (g.get? id).bind Run.outcome

/-! ## Changing -/

/-- The registry with a new state of the run that has the same id. -/
def update (g : Registry κ) (r : Run κ) : Registry κ :=
  { g with entries := g.entries.map (fun e => if e.run.id == r.id then { e with run := r } else e) }

/-- Cancel a run: was it cancelled? -/
def cancel (g : Registry κ) (now : Number) (id : Value) : Bool × Registry κ :=
  match g.get? id with
  | none => (false, g)
  | some r =>
    let (done, r) := r.cancel now
    (done, g.update r)

/-- Forget a run, which is cancelled unless it is over: the run, if it was known. -/
def endRun (g : Registry κ) (now : Number) (id : Value) : Option (Run κ) × Registry κ :=
  match g.get? id with
  | none => (none, g)
  | some r =>
    (some (r.cancel now).2, { g with entries := g.entries.filter (fun e => e.run.id != id) })

/-- Has the run been over for more than so many seconds? -/
def isStale (now maxAge : Number) (r : Run κ) : Bool := (r.age? now).any maxAge.below

/-- The age, in seconds, at which runs are swept if nothing else is said. -/
def defaultMaxAge : Number := 3600

/-- Forget the runs that have been over for more than so many seconds: those runs. -/
def sweep (g : Registry κ) (now maxAge : Number) : List (Run κ) × Registry κ :=
  ((g.entries.filter (fun e => isStale now maxAge e.run)).map (·.run),
    { g with entries := g.entries.filter (fun e => !isStale now maxAge e.run) })

/-- Sweep with an age of any kind. What is no number cannot be compared with the age of a run, which
shows if there is a run that is over. -/
def sweepBy (g : Registry κ) (now : Number) (maxAge : Value) :
    Except AgeFault (List (Run κ) × Registry κ) :=
  match maxAge.number? with
  | some n => .ok (g.sweep now n)
  | none =>
    match g.entries.findSome? (fun e => e.run.age? now) with
    | some age => .error ⟨age, maxAge⟩
    | none => .ok ([], g)

end Registry

end GridRobot
