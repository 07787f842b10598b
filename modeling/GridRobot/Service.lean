import GridRobot.Block.Record
import GridRobot.Level.Catalog
import GridRobot.Level.World
import GridRobot.Registry

/-!
# The service

The service is what a client of the game talks to: it shows levels, takes submitted programs, and
hands out the events of runs in batches. A submission is read, checked against its level and started
on the world that its seed settles. Runs that have been over for long are dropped whenever a program
is submitted.

Two settings of the service and the limit of a batch come from outside, as values of any kind. One
that is no number is found out when it is needed.
-/

namespace GridRobot

/-- A program submitted for a level. -/
structure Submission where
  level : Int
  /-- The blocks of the program in their exchange form. -/
  program : List Value
  seed : Option Int := none
deriving DecidableEq, Repr

/-- Why a request is refused. -/
inductive Refusal where
  | levelNotFound (key : Value)
  /-- A level or a run was asked for by something that is no key. -/
  | notAKey (key : Value)
  | runNotFound (id : Value)
  | unreadable (e : ProgramError)
  | emptyProgram
  | unfit (number : Int) (issues : List Issue)
  | notFinished (id : Value) (phase : Phase)
  /-- The level has no layout for the seed. -/
  | noLayout (f : LayoutFault)
  /-- A program that fits its level cannot become a run. -/
  | notLaunched (f : LaunchFault)
  /-- A run stops in the middle. -/
  | broken (f : RunFault)
  /-- The size of a batch is no number. -/
  | noSize (size limit : Value)
  /-- The age at which runs are dropped is no number. -/
  | noAge (f : AgeFault)
  /-- The reason holds an integer that is too long to be told. -/
  | unwritable
deriving DecidableEq, Repr

namespace Refusal

/-- The code of a refusal. -/
def code : Refusal → String
  | levelNotFound _ => "LEVEL_NOT_FOUND"
  | runNotFound _ => "RUN_NOT_FOUND"
  | unreadable _ => "INVALID_PROGRAM"
  | emptyProgram => "EMPTY_PROGRAM"
  | unfit .. => "INVALID_PROGRAM"
  | notFinished .. => "RUN_NOT_FINISHED"
  | notAKey _ | noLayout _ | notLaunched _ | broken _ | noSize .. | noAge _ | unwritable =>
    "INTERNAL_ERROR"

/-- The status of the reply to a refused request. -/
def status : Refusal → Nat
  | levelNotFound _ => 404
  | runNotFound _ => 404
  | unreadable _ => 400
  | emptyProgram => 400
  | unfit .. => 400
  | notFinished .. => 409
  | notAKey _ | noLayout _ | notLaunched _ | broken _ | noSize .. | noAge _ | unwritable => 500

/-- The wording of a refusal. -/
def message : Refusal → Text
  | levelNotFound key => "Level " ++ key.display ++ " not found"
  | notAKey key => key.notAKey
  | runNotFound id => "Run " ++ id.display ++ " not found"
  | unreadable _ => "Program could not be parsed"
  | emptyProgram => LaunchFault.empty.message
  | unfit number _ => s!"Program does not fit level {number}"
  | notFinished id phase => "Run " ++ id.display ++ s!" is {phase.name}; no outcome yet"
  | noLayout f => f.message
  | notLaunched f => f.message
  | broken f => f.message
  | noSize size limit => size.notOrdered "<" limit
  | noAge f => f.message
  | unwritable => Numeral.tooLong

/-- The complaints about a program, if they are the reason. -/
def details : Refusal → Option (List String)
  | unreadable e => some e.messages
  | unfit _ issues => some (issues.map Issue.message)
  | _ => none

/-- The refusal of a level that is not there. -/
def ofLevel (key : Value) : Refusal := if key.isWritable then levelNotFound key else unwritable

/-- The refusal of a program with issues. -/
def ofIssues (number : Int) (issues : List Issue) : Refusal :=
  if issues.all Issue.isWritable then unfit number issues else unwritable

end Refusal

/-! ## Replies -/

/-- A level and the world that was made for a seed. -/
structure LevelView where
  level : Level
  seed : Option Int
  world : World

/-- How a run stands. -/
structure RunView where
  id : Value
  /-- What the registry tells of the level. -/
  level : Value
  phase : Phase
  emitted : Nat
  outcome : Option Outcome
  warnings : List Warning := []

/-- A batch of events, and how the run stands after it. -/
structure Batch where
  id : Value
  phase : Phase
  events : List Event
  done : Bool
  outcome : Option Outcome

/-- The answer to a request to cancel. -/
structure CancelView where
  id : Value
  cancelled : Bool
  phase : Phase

/-- The state of the service. -/
structure Service where
  registry : Registry := {}
  /-- The most events in a batch. -/
  maxBatch : Value := .int 100
  /-- The seconds after which a run that is over may be dropped. -/
  maxAge : Value := .ofNumber Registry.defaultMaxAge
  /-- The seed of layouts for which no seed is given. -/
  freeSeed : Int := 0

namespace Service

/-! ## Levels -/

/-- All levels. -/
def levels : List Level := Level.catalog

/-- The level under a key. -/
def requireLevel (key : Value) : Except Refusal Level :=
  if key.isKey then
    match Level.atKey? key with
    | some l => .ok l
    | none => .error (.ofLevel key)
  else .error (.notAKey key)

/-- The world of a level. -/
def makeWorld (s : Service) (l : Level) (seed : Option Int) : Except Refusal World :=
  (l.world (seed.getD s.freeSeed)).mapError .noLayout

/-- A level with its world. -/
def viewLevel (s : Service) (key : Value) (seed : Option Int) : Except Refusal LevelView :=
  match requireLevel key with
  | .error f => .error f
  | .ok l => (s.makeWorld l seed).map (fun w => ⟨l, seed, w⟩)

/-! ## Runs -/

/-- The run with an id. -/
def requireRun (s : Service) (id : Value) : Except Refusal Run :=
  if id.isKey then
    match s.registry.get? id with
    | some r => .ok r
    | none => .error (.runNotFound id)
  else .error (.notAKey id)

/-- The service with a new state of a run. -/
def update (s : Service) (r : Run) : Service := { s with registry := s.registry.update r }

/-- How a run stands. -/
def view (s : Service) (r : Run) : RunView where
  id := r.id
  level := ((s.registry.entry? r.id).map (·.level)).getD .null
  phase := r.phase
  emitted := r.eventCount
  outcome := r.outcome

/-- The level and the program of a submission, if the program fits the level. -/
def examine (sub : Submission) : Except Refusal (Level × Program) :=
  match requireLevel (.int sub.level) with
  | .error f => .error f
  | .ok l =>
    match Program.ofRecords (.list sub.program) with
    | .error e => .error (.unreadable e)
    | .ok p =>
      if p.isEmpty then .error .emptyProgram
      else
        match (p.check l.rules).issues with
        | [] => .ok (l, p)
        | issues => .error (.ofIssues l.number issues)

/-- Drop the runs that have been over for too long. -/
def sweep (s : Service) (now : Number) : Except Refusal Service :=
  match s.registry.sweepBy now s.maxAge with
  | .error f => .error (.noAge f)
  | .ok (_, registry) => .ok { s with registry := registry }

/-- Make a run of a submission. -/
def addRun (s : Service) (now : Number) (sub : Submission) : Except Refusal RunView × Service :=
  match examine sub with
  | .error f => (.error f, s)
  | .ok (l, p) =>
    match s.makeWorld l sub.seed with
    | .error f => (.error f, s)
    | .ok w =>
      match s.registry.start now p w l.goal (.int l.number) ((sub.seed.map .int).getD .null) with
      | (.error f, registry) => (.error (.notLaunched f), { s with registry := registry })
      | (.ok r, registry) =>
        let s := { s with registry := registry }
        (.ok { s.view r with warnings := (p.check l.rules).warnings }, s)

/-- Make a run of a submission, after old runs have been dropped. -/
def createRun (s : Service) (now : Number) (sub : Submission) : Except Refusal RunView × Service :=
  match s.sweep now with
  | .error f => (.error f, s)
  | .ok s => s.addRun now sub

/-- How the run with an id stands. -/
def getRun (s : Service) (id : Value) : Except Refusal RunView := (s.requireRun id).map s.view

/-- The size of a batch: the limit that was asked for, and never more than the service gives. A
limit that counts as false is none. Texts and lists have an order among themselves, and yet none of
them is a size. -/
def batchSize (s : Service) (limit : Value) : Except Refusal Number :=
  let wanted := if limit.isTruthy then limit else s.maxBatch
  match s.maxBatch.number?, wanted.number? with
  | some most, some n => .ok (if most.below n then most else n)
  | _, _ =>
    match s.maxBatch, wanted with
    | .text _, .text _ | .list _, .list _ => .error (.noSize (.int 0) wanted)
    | most, wanted => .error (.noSize most wanted)

/-- The most events in a batch of a size; a batch without end has all events that are left. -/
def batchCount (size : Number) (r : Run) : Nat := size.count?.getD (r.machine.work + 1)

/-- Pull the next events of a run. -/
def pullEvents (s : Service) (now : Number) (id limit : Value) :
    Except Refusal Batch × Service :=
  match s.requireRun id with
  | .error f => (.error f, s)
  | .ok r =>
    match s.batchSize limit with
    | .error f => (.error f, s)
    | .ok size =>
      match r.steps now (batchCount size r) with
      | (.error f, r) => (.error (.broken f), s.update r)
      | (.ok events, r) => (.ok ⟨r.id, r.phase, events, !r.isActive, r.outcome⟩, s.update r)

/-- Cancel a run. -/
def cancelRun (s : Service) (now : Number) (id : Value) : Except Refusal CancelView × Service :=
  match s.requireRun id with
  | .error f => (.error f, s)
  | .ok r =>
    let (cancelled, r) := r.cancel now
    (.ok ⟨id, cancelled, r.phase⟩, s.update r)

/-- The outcome of a finished run. -/
def getOutcome (s : Service) (id : Value) : Except Refusal (Option Outcome) :=
  match s.requireRun id with
  | .error f => .error f
  | .ok r => if r.phase = .finished then .ok r.outcome else .error (.notFinished id r.phase)

/-- Forget a run: was it known? Nobody looks at the id while there are no runs. -/
def endRun (s : Service) (now : Number) (id : Value) : Except Refusal Bool × Service :=
  if id.isKey || s.registry.entries.isEmpty then
    let (run, registry) := s.registry.endRun now id
    (.ok run.isSome, { s with registry := registry })
  else (.error (.notAKey id), s)

/-- The ids of the runs that are not over. -/
def activeRuns (s : Service) : List Value := s.registry.activeIds

end Service

/-! ## Requests as data -/

/-- What can be asked of the service. -/
inductive Request where
  | listLevels
  | getLevel (key : Value) (seed : Option Int)
  | createRun (sub : Submission)
  | getRun (id : Value)
  | pullEvents (id limit : Value)
  | cancelRun (id : Value)
  | getOutcome (id : Value)
  | endRun (id : Value)
  | listRuns
deriving DecidableEq, Repr

/-- What the service replies. -/
inductive Reply where
  | levels (levels : List Level)
  | level (view : LevelView)
  | run (view : RunView)
  | batch (batch : Batch)
  | cancel (view : CancelView)
  | outcome (o : Option Outcome)
  | ended (id : Value) (known : Bool)
  | runs (ids : List Value)

/-- Answer a request at a time. -/
def Service.handle (s : Service) (now : Number) : Request → Except Refusal Reply × Service
  | .listLevels => (.ok (.levels levels), s)
  | .getLevel key seed => ((s.viewLevel key seed).map .level, s)
  | .createRun sub => let (r, s) := s.createRun now sub; (r.map .run, s)
  | .getRun id => ((s.getRun id).map .run, s)
  | .pullEvents id limit => let (r, s) := s.pullEvents now id limit; (r.map .batch, s)
  | .cancelRun id => let (r, s) := s.cancelRun now id; (r.map .cancel, s)
  | .getOutcome id => ((s.getOutcome id).map .outcome, s)
  | .endRun id => let (r, s) := s.endRun now id; (r.map (.ended id), s)
  | .listRuns => (.ok (.runs s.activeRuns), s)

end GridRobot
