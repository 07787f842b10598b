import GridRobot.Block.Record
import GridRobot.CommandLine.Command
import GridRobot.CommandLine.Folder
import GridRobot.Level.Catalog
import GridRobot.Level.World
import GridRobot.Run

/-!
# Running commands

What a command prints and how it ends. Files are read through a function, so that nothing here
depends on where they are kept. The service is not started here: the result says at which address it
is wanted.
-/

namespace GridRobot.CommandLine

/-- What breaks a command off. -/
inductive Breakdown where
  /-- The level was dropped, and without it none can be looked up. -/
  | noLevel
  /-- The seed was dropped, and the layout cannot be drawn without it. -/
  | noSeed
  /-- The path leads to no text. -/
  | badPath (path : Text) (fault : PathFault)
  /-- The text of the program goes beyond the limits of the reader. -/
  | beyondLimits (problem : SourceProblem)
  /-- An issue of the program holds an integer that is too long to be told. -/
  | unwritable
deriving DecidableEq, Repr

/-- The message of a breakdown. -/
def Breakdown.message : Breakdown → String
  | noLevel => Value.notAKey (.list [])
  | noSeed => SeedFault.notASeed.message
  | badPath path fault => fault.message path
  | beyondLimits problem => problem.message
  | unwritable => Numeral.tooLong

/-- What a command came to. -/
structure Result where
  /-- What is printed. -/
  output : Text := ""
  /-- The exit code. -/
  exit : Nat := 0
  /-- The line that tells that an argument is wrong. -/
  usageError : Option Text := none
  /-- The host and the socket number at which the service is wanted. -/
  serving : Option (Given Text × Given Int) := none
  /-- What broke the command off. -/
  breakdown : Option Breakdown := none
deriving DecidableEq, Repr

/-- What a command needs to know. -/
structure Surroundings where
  /-- The text of a file, by its path. -/
  file : Text → Except PathFault Text
  /-- The deepest nesting of lists and records that the reader of files takes. -/
  nesting : Nat
  /-- The seed of layouts for which no seed is given. -/
  freeSeed : Int := 0

/-- A result that prints lines. -/
def Result.printing (ls : List String) (exit : Nat) : Result :=
  { output := lines ls, exit := exit }

/-- A result of a command that is broken off. -/
def Result.broken (b : Breakdown) : Result := { exit := 1, breakdown := some b }

/-- A text with blanks in front, so that it is as wide as asked for at least. -/
def padLeft (width : Nat) (s : String) : String :=
  String.ofList (List.replicate (width - s.length) ' ') ++ s

/-- Entries of a list, one a line. -/
def bullets (ls : List String) : List String := ls.map ("  - " ++ ·)

/-- A text in which every line ends in a line feed: a carriage return, alone or with a line feed
behind it, becomes one. -/
def unixLines : List Glyph → List Glyph
  | .char '\r' :: .char '\n' :: gs => .char '\n' :: unixLines gs
  | .char '\r' :: gs => .char '\n' :: unixLines gs
  | g :: gs => g :: unixLines gs
  | [] => []

/-! ## Levels -/

/-- What is special about a level. -/
def extras (l : Level) : List String :=
  (if l.terrain.hasWalls then ["walls"] else []) ++
    (if l.terrain.items = 0 then [] else [s!"{l.terrain.items} items"])

/-- The line that tells a level. -/
def levelLine (l : Level) : String :=
  let number := padLeft 2 (toString l.number)
  let special := String.intercalate ", " (extras l)
  let suffix := if (extras l).isEmpty then "" else s!" [{special}]"
  s!"{number}. {l.name} - {l.topic} (max {l.limit} blocks){suffix}"

/-- List the levels. -/
def listLevels : Result := .printing (Level.catalog.map levelLine) 0

/-! ## Programs -/

/-- The program in a file. -/
def loadProgram (env : Surroundings) (path : Text) : Except Result Program :=
  match env.file path with
  | .error .missing =>
    .error { output := "Error: File not found: " ++ path ++ "\n", exit := 1 }
  | .error fault => .error (.broken (.badPath path fault))
  | .ok text =>
    match Program.parse env.nesting ⟨unixLines text.glyphs⟩ with
    | .ok p => .ok p
    | .error e =>
      let told := Result.printing ("Error: Program could not be parsed" :: bullets e.messages) 1
      match e with
      | .badText s =>
        .error (if s.problem.isMalformed then told else .broken (.beyondLimits s.problem))
      | _ => .error told

/-- The level and the program that a command is about; the level is looked for first. -/
def load (env : Surroundings) (path : Text) (level : Given Int) :
    Except Result (Level × Program) :=
  match level with
  | .dropped => .error (.broken .noLevel)
  | .value n =>
    match Level.find? n with
    | none => .error (.printing [s!"Error: Level {n} not found"] 1)
    | some l => (loadProgram env path).map (l, ·)

/-- The lines under a heading, if there are any. -/
def section? (heading : String) (ls : List String) : List String :=
  if ls.isEmpty then [] else heading :: bullets ls

/-- Check a program against a level. -/
def validate (l : Level) (p : Program) : Result :=
  let report := p.check l.rules
  let warnings := section? "Warnings:" (report.warnings.map Warning.message)
  let errors := section? "Errors:" (report.issues.map Issue.message)
  if report.valid then
    .printing (warnings ++
      [s!"Program is valid for level {l.number} ({p.length}/{l.limit} blocks)"]) 0
  else if report.issues.all Issue.isWritable then .printing (warnings ++ errors) 1
  else .broken .unwritable

/-- The line that tells an event. -/
def eventLine (e : Event) : String :=
  let number := padLeft 3 (toString e.sequence)
  s!"  {number}  {e.text}"

/-- The lines that tell how a run ended. -/
def outcomeLines (o : Outcome) : List String :=
  (if o.stoppedEarly then ["Program stopped early at a BREAK outside any loop"] else []) ++
    [o.verdict.message]

/-- Drive a run to its end and tell it. -/
def tell (l : Level) (r : Run) : Result :=
  let (ended, r) := r.runToEnd 0
  let head := [s!"Level {l.number}: {l.name}",
    s!"Start {r.world.start.text}, goal {r.world.goal.text}"]
  let told := head ++ r.trace.map eventLine
  match ended with
  | .ok (some o) => .printing (told ++ outcomeLines o) (if o.verdict.success then 0 else 2)
  | .ok none => .printing told 1
  | .error f => .printing (told ++ [f.message]) 1

/-- Run a program on a level. -/
def runProgram (env : Surroundings) (l : Level) (p : Program) (seed : Option (Given Int)) :
    Result :=
  match (p.check l.rules).issues with
  | [] =>
    match seed with
    | some .dropped => if l.isDrawn then .broken .noSeed else onLayout env.freeSeed
    | some (.value n) => onLayout n
    | none => onLayout env.freeSeed
  | issues =>
    if issues.all Issue.isWritable then
      .printing (section? "Errors:" (issues.map Issue.message)) 1
    else .broken .unwritable
where
  /-- Run the program on the layout of a seed. -/
  onLayout (seed : Int) : Result :=
    match l.world seed with
    | .error f => .printing [s!"Error: {f.message}"] 1
    | .ok w =>
      match Run.launch (.text "") 0 p w l.goal with
      | .error f => .printing [s!"Error: {f.message}"] 1
      | .ok r => tell l r

/-! ## The program -/

/-- Run a command. -/
def runCommand (env : Surroundings) : Command → Result
  | .levels => listLevels
  | .run file level seed =>
    match load env file level with
    | .error r => r
    | .ok (l, p) => runProgram env l p seed
  | .validate file level =>
    match load env file level with
    | .error r => r
    | .ok (l, p) => validate l p
  | .serve host socket => { serving := some (host, socket) }

/-- Run the program with the given arguments. -/
def runArguments (env : Surroundings) (args : List Text) : Result :=
  match readArguments args with
  | .error (.help text) => { output := text }
  | .error (.usage program message) =>
    { exit := 2, usageError := some (Stop.usageLine program message) }
  | .ok none => { output := mainHelp, exit := 1 }
  | .ok (some c) => runCommand env c

end GridRobot.CommandLine
