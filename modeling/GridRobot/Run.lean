import GridRobot.Machine
import GridRobot.Program.Check

/-!
# Runs

A run is one execution of a program that its host drives: idle until it is started, running while
events are pulled, and at last finished or cancelled. A finished run has an outcome; a cancelled one
has none. A run cannot be started twice. The id of a run may be any value that can be a key.

If the program breaks off, the host is told why, and the run is still running. There is nothing left
to pull from it then: the next pull finishes the run, without an outcome.
-/

namespace GridRobot

/-- How far a run is. -/
inductive Phase where
  | idle
  | running
  | finished
  | cancelled
deriving DecidableEq, Repr

namespace Phase

/-- The name of a phase. -/
def name : Phase → String
  | idle => "idle"
  | running => "running"
  | finished => "finished"
  | cancelled => "cancelled"

/-- Is the run over? -/
def isTerminal : Phase → Bool
  | finished | cancelled => true
  | idle | running => false

end Phase

/-- One execution of a program. Times are in seconds. -/
structure Run (κ : Type := Int) where
  id : Value
  program : Program
  world : World κ
  goal : Goal κ
  machine : Machine κ
  createdAt : Number
  phase : Phase := .idle
  /-- Has the program broken off? -/
  brokenOff : Bool := false
  finishedAt : Option Number := none
  /-- Shall the next action be refused? -/
  cancelRequested : Bool := false
  /-- Has the host been told that the run is cancelled? -/
  cancelGranted : Bool := false
  /-- What the program came to. -/
  result : Option (Outcome κ) := none

/-- Why a program cannot become a run. -/
inductive LaunchFault where
  | empty
  | invalid (issues : List Issue)
  /-- An issue holds an integer that is too long to be told. -/
  | unwritable
deriving DecidableEq, Repr

namespace LaunchFault

/-- The fault of a program with issues. -/
def ofIssues (issues : List Issue) : LaunchFault :=
  if issues.all Issue.isWritable then invalid issues else unwritable

/-- The wording of a fault. -/
def message : LaunchFault → String
  | empty => "Nothing to run: the program is empty"
  | invalid issues => Issue.summary issues
  | unwritable => Numeral.tooLong

end LaunchFault

/-- A request that does not fit the phase of a run. -/
inductive PhaseFault where
  | alreadyStarted (id : Value) (phase : Phase)
  | noOutcome (id : Value) (phase : Phase)
deriving DecidableEq, Repr

/-- The wording of a fault. -/
def PhaseFault.message : PhaseFault → Text
  | .alreadyStarted id phase =>
    "Run " ++ id.display ++ s!" already started (state: {phase.name}); start a new run to replay"
  | .noOutcome id phase => "Run " ++ id.display ++ s!" has no outcome (state: {phase.name})"

namespace Run

variable {κ : Type} [Coordinate κ]

/-- Can the program become a run? -/
def launchFault? (p : Program) : Option LaunchFault :=
  if p.isEmpty then some .empty
  else
    match (p.check {}).issues with
    | [] => none
    | issues => some (.ofIssues issues)

/-- A new run of a program. -/
def new (id : Value) (now : Number) (p : Program) (w : World κ) (g : Goal κ) : Run κ where
  id := id
  program := p
  world := w
  goal := g
  machine := Machine.start w p
  createdAt := now

/-- A new run of a program, if the program can be run. -/
def launch (id : Value) (now : Number) (p : Program) (w : World κ) (g : Goal κ) :
    Except LaunchFault (Run κ) :=
  match launchFault? p with
  | some f => .error f
  | none => .ok (new id now p w g)

/-! ## Looking -/

/-- The events handed out so far. -/
def trace (r : Run κ) : List (Event κ) := r.machine.state.trace

/-- The number of events handed out so far. -/
def eventCount (r : Run κ) : Nat := r.machine.state.steps

/-- Is the run not yet over? -/
def isActive (r : Run κ) : Bool := !r.phase.isTerminal

/-- The seconds since the end of a run that is over. -/
def age? (now : Number) (r : Run κ) : Option Number :=
  if r.phase.isTerminal then r.finishedAt.map now.sub else none

/-- The outcome of a finished run. -/
def outcome (r : Run κ) : Option (Outcome κ) :=
  if r.phase = .finished then r.result else none

/-- The outcome, which only a finished run has. -/
def requireOutcome (r : Run κ) : Except PhaseFault (Option (Outcome κ)) :=
  if r.phase = .finished then .ok r.result else .error (.noOutcome r.id r.phase)

/-! ## Driving -/

/-- Start an idle run. -/
def start (r : Run κ) : Except PhaseFault (Run κ) :=
  if r.phase = .idle then .ok { r with phase := .running }
  else .error (.alreadyStarted r.id r.phase)

/-- The run, marked as cancelled. -/
def markCancelled (now : Number) (r : Run κ) : Run κ :=
  { r with phase := .cancelled, finishedAt := some now }

/-- Cancel a run, unless it is over: was it cancelled? -/
def cancel (now : Number) (r : Run κ) : Bool × Run κ :=
  if r.isActive then
    (true, { r with cancelRequested := true, cancelGranted := true }.markCancelled now)
  else (false, r)

/-- Ask that the next action be refused, and leave the phase as it is. -/
def requestCancel (r : Run κ) : Run κ := { r with cancelRequested := true }

/-- The run after its program has ended and the goal has been judged. -/
def conclude (now : Number) (r : Run κ) : Run κ :=
  let r := if r.goal.cancelsRun then (r.cancel now).2 else r
  { r with
    phase := .finished
    finishedAt := some now
    result := some (r.machine.outcome r.goal) }

/-- The run after a pull that found nothing left of its program. -/
def abandon (now : Number) (r : Run κ) : Run κ :=
  { r with phase := .finished, finishedAt := some now, result := none }

/-- Pull an event from a run that has been started. -/
def pull (now : Number) (r : Run κ) : Except RunFault (Option (Event κ)) × Run κ :=
  if r.brokenOff then (.ok none, r.abandon now)
  else
    match r.machine.pull (fun _ => r.cancelRequested) with
    | (.event e, m) => (.ok (some e), { r with machine := m })
    | (.ended, m) => (.ok none, { r with machine := m }.conclude now)
    | (.failed .cancelled, m) => (.ok none, { r with machine := m }.markCancelled now)
    | (.failed f, m) => (.error f, { r with machine := m, brokenOff := true })

/-- Pull the next event; an idle run is started first, and a run that is over has no more events. -/
def step (now : Number) (r : Run κ) : Except RunFault (Option (Event κ)) × Run κ :=
  match r.phase with
  | .idle => { r with phase := .running }.pull now
  | .running => r.pull now
  | .finished | .cancelled => (.ok none, r)

/-- Pull events until there are no more, at most so many: those pulled, of which the newest stands
first, and what the program broke off with, if it did. -/
def stepsFrom (now : Number) (pulled : List (Event κ)) :
    Nat → Run κ → (List (Event κ) × Option RunFault) × Run κ
  | 0, r => ((pulled, none), r)
  | n + 1, r =>
    match r.step now with
    | (.ok (some e), r) => stepsFrom now (e :: pulled) n r
    | (.ok none, r) => ((pulled, none), r)
    | (.error f, r) => ((pulled, some f), r)

/-- Pull at most so many events. They are lost if the program breaks off. -/
def steps (now : Number) (n : Nat) (r : Run κ) : Except RunFault (List (Event κ)) × Run κ :=
  match r.stepsFrom now [] n with
  | ((pulled, none), r) => (.ok pulled.reverse, r)
  | ((_, some f), r) => (.error f, r)

/-- Pull all events that are left. Every event uses up some of the work left. -/
def drain (now : Number) (r : Run κ) : Except RunFault (List (Event κ)) × Run κ :=
  r.steps now (r.machine.work + 1)

/-- Pull all events that are left: the outcome, if the run was not cancelled. -/
def runToEnd (now : Number) (r : Run κ) : Except RunFault (Option (Outcome κ)) × Run κ :=
  let (pulled, r) := r.drain now
  (pulled.map (fun _ => r.outcome), r)

end Run

end GridRobot
