import GridRobot.CommandLine.Shell
import GridRobot.Http.Front

/-!
# The program

The outermost layer: arguments, files, the clock and the terminal. The service takes its calls from
standard input, one a line: a method, an address and, if there is one, a body, divided by blanks.
Each answer is a line with a status and a body.
-/

namespace GridRobot

/-- The call in a line. -/
def Http.Call.ofLine (line : String) : Http.Call :=
  match (line.trimAscii.toString).splitOn " " with
  | method :: address :: body => ⟨method, address, String.intercalate " " body⟩
  | [method] => ⟨method, "/", ""⟩
  | [] => ⟨"GET", "/", ""⟩

/-- The line of an answer. -/
def Http.Response.toLine (r : Http.Response) : String :=
  match r.body with
  | some body => s!"{r.status} {(body.render .plain).toString}"
  | none => s!"{r.status}"

/-- How deep lists and records may be nested in what is read. -/
def readerNesting : Nat := 1000

/-- Answer calls until there are no more. -/
partial def serveLoop (input output : IO.FS.Stream) (s : Service) : IO Unit := do
  let line ← input.getLine
  if line.isEmpty then return
  let now : Number := .int ((← IO.monoMsNow) / 1000)
  let (r, s) := Http.serve readerNesting s now (.ofLine line)
  output.putStrLn r.toLine
  output.flush
  serveLoop input output s

/-- The name of the file that the arguments ask for. -/
def wantedFile? (args : List Text) : Option Text :=
  match CommandLine.readArguments args with
  | .ok (some c) => c.file?
  | _ => none

/-- The fault of a path at which reading failed. -/
def CommandLine.PathFault.ofError : IO.Error → CommandLine.PathFault
  | .inappropriateType _ code _ => ofCode code
  | .invalidArgument .. => .tooLong
  | _ => .missing
where
  /-- The fault with a number. -/
  ofCode (code : UInt32) : CommandLine.PathFault := if code = 20 then .notAFolder else .isFolder

/-- The text of a file. -/
def readText (path : Text) : IO (Except CommandLine.PathFault Text) := do
  try
    return .ok (← IO.FS.readFile path.toString)
  catch e =>
    return .error (.ofError e)

end GridRobot

open GridRobot in
/-- Run the program. -/
def main (args : List String) : IO UInt32 := do
  let args := args.map Text.ofString
  let seed ← IO.rand 0 0x7fffffff
  let text ← match wantedFile? args with
    | some path => readText path
    | none => pure (.error .missing)
  let env : CommandLine.Surroundings :=
    { file := fun _ => text, nesting := readerNesting, freeSeed := seed }
  let r := CommandLine.runArguments env args
  IO.print r.output.toString
  for line in r.usageError do
    IO.eprintln line.toString
  for b in r.breakdown do
    IO.eprintln b.message
  for _ in r.serving do
    IO.eprintln "Serving calls from standard input"
    serveLoop (← IO.getStdin) (← IO.getStdout) { freeSeed := seed }
  return r.exit.toUInt32
