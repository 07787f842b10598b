import GridRobot.CommandLine.Arguments

/-!
# The commands of the program

The grammars of the program and of its commands, with their help texts, and the commands that
arguments stand for.
-/

namespace GridRobot.CommandLine

/-- What the program is asked to do. -/
inductive Command where
  | levels
  | run (file : Text) (level : Given Int) (seed : Option (Given Int))
  | validate (file : Text) (level : Given Int)
  | serve (host : Given Text) (socket : Given Int)
deriving DecidableEq, Repr

/-- The file that a command reads. -/
def Command.file? : Command → Option Text
  | levels => none
  | run file _ _ => some file
  | validate file _ => some file
  | serve _ _ => none

/-! ## Grammars -/

/-- The flag that asks for help. -/
def helpFlag : Flag := ⟨["-h", "--help"], .help, "help", false⟩

/-- The flag that names the level. -/
def levelFlag : Flag := ⟨["--level", "-l"], .integer, "level", true⟩

/-- Lines, each ended by a line feed. -/
def lines (ls : List String) : String := String.join (ls.map (· ++ "\n"))

/-- The names of the commands. -/
def commandNames : List String := ["levels", "run", "validate", "serve"]

/-- The help text of the program. -/
def mainHelp : String := lines [
  "usage: codegrid [-h] [--verbose] \x7blevels,run,validate,serve\x7d ...",
  "",
  "Codegrid - Block programming puzzle engine",
  "",
  "positional arguments:",
  "  \x7blevels,run,validate,serve\x7d",
  "                        Commands",
  "    levels              List the level catalog",
  "    run                 Run a program on a level",
  "    validate            Validate a program against a level",
  "    serve               Start the HTTP API",
  "",
  "options:",
  "  -h, --help            show this help message and exit",
  "  --verbose, -v         Debug logging"]

/-- The grammar of the program. -/
def mainGrammar : Grammar where
  program := "codegrid"
  flags := [helpFlag, ⟨["--verbose", "-v"], .switch, "verbose", false⟩]
  operand := some (.command "command" commandNames)
  help := mainHelp

/-- The grammar of the command that lists the levels. -/
def levelsGrammar : Grammar where
  program := "codegrid levels"
  flags := [helpFlag]
  help := lines [
    "usage: codegrid levels [-h]",
    "",
    "options:",
    "  -h, --help  show this help message and exit"]

/-- The grammar of the command that runs a program. -/
def runGrammar : Grammar where
  program := "codegrid run"
  flags := [helpFlag, levelFlag, ⟨["--seed"], .integer, "seed", false⟩]
  operand := some (.file "program_file")
  help := lines [
    "usage: codegrid run [-h] --level LEVEL [--seed SEED] program_file",
    "",
    "positional arguments:",
    "  program_file          Path to program JSON",
    "",
    "options:",
    "  -h, --help            show this help message and exit",
    "  --level LEVEL, -l LEVEL",
    "                        Level id",
    "  --seed SEED           Seed for generated layouts"]

/-- The grammar of the command that checks a program. -/
def validateGrammar : Grammar where
  program := "codegrid validate"
  flags := [helpFlag, levelFlag]
  operand := some (.file "program_file")
  help := lines [
    "usage: codegrid validate [-h] --level LEVEL program_file",
    "",
    "positional arguments:",
    "  program_file          Path to program JSON",
    "",
    "options:",
    "  -h, --help            show this help message and exit",
    "  --level LEVEL, -l LEVEL",
    "                        Level id"]

/-- The grammar of the command that starts the service. -/
def serveGrammar : Grammar where
  program := "codegrid serve"
  flags := [helpFlag, ⟨["--host"], .text, "host", false⟩, ⟨["--port"], .integer, "socket", false⟩]
  help := lines [
    "usage: codegrid serve [-h] [--host HOST] [--port PORT]",
    "",
    "options:",
    "  -h, --help   show this help message and exit",
    "  --host HOST",
    "  --port PORT"]

/-- The grammar of a command. -/
def grammarOf : String → Grammar
  | "run" => runGrammar
  | "validate" => validateGrammar
  | "serve" => serveGrammar
  | _ => levelsGrammar

/-! ## From arguments to commands -/

/-- Read the arguments behind a command; none of them is a command again. -/
def readCommand (name : String) (args : List Text) : Except Stop Taken :=
  (grammarOf name).read (fun _ _ => .ok {}) args

/-- The command that has been taken. -/
def Taken.command? (t : Taken) : Option Command :=
  let file := (t.operand? "program_file").getD ""
  let level := (t.integer? "level").getD .dropped
  match (t.operand? "command").map Text.toString with
  | some "levels" => some .levels
  | some "run" => some (.run file level (t.integer? "seed"))
  | some "validate" => some (.validate file level)
  | some "serve" =>
    some (.serve ((t.text? "host").getD (.value "127.0.0.1"))
      ((t.integer? "socket").getD (.value 8000)))
  | _ => none

/-- Read the arguments of the program: the command, if there is one. -/
def readArguments (args : List Text) : Except Stop (Option Command) :=
  match mainGrammar.read readCommand args with
  | .error s => .error s
  | .ok t =>
    match t.extras ++ t.inner with
    | [] => .ok t.command?
    | extras =>
      let list := Text.intercalate " " extras
      .error (.usage mainGrammar.program ("unrecognized arguments: " ++ list))

end GridRobot.CommandLine
