import GridRobot.Text.Encoding

/-!
# The working folder

A command reads its program from a file in the folder in which it runs. A path leads there part by
part: the parts are divided by slashes, a dot and an empty part stay where they are, and two dots go
up. Above the working folder there are only folders; a path that names anything there leads nowhere.
Names of files are told apart by their bytes.
-/

namespace GridRobot.CommandLine

/-- Why a path leads to no text. -/
inductive PathFault where
  /-- There is nothing of that name. -/
  | missing
  /-- The path leads to a folder. -/
  | isFolder
  /-- The path goes on behind a file. -/
  | notAFolder
  /-- A part of the path, or the whole, is too long. -/
  | tooLong
  /-- The path holds the character zero. -/
  | zeroCharacter
  /-- The path has no bytes. -/
  | noBytes (f : EncodingFault)
deriving DecidableEq, Repr

namespace PathFault

/-- The message of a fault on a path. -/
def message (path : Text) : PathFault → String
  | missing => about 2 "No such file or directory"
  | isFolder => about 21 "Is a directory"
  | notAFolder => about 20 "Not a directory"
  | tooLong => about 36 "File name too long"
  | zeroCharacter => "embedded null byte"
  | noBytes f => f.message
where
  /-- A message with its number, about the path. -/
  about (number : Nat) (text : String) : String :=
    let quoted := String.ofList (Quoted.encode path)
    s!"[Errno {number}] {text}: {quoted}"

end PathFault

/-- The files of the working folder, by name. -/
structure Folder where
  files : List (Text × Text) := []
deriving DecidableEq, Repr

namespace Folder

/-- How many bytes a part of a path has at most. -/
def maxPart : Nat := 255

/-- How many bytes a path has at most. -/
def maxPath : Nat := 4095

/-- Where a path has led so far. -/
inductive Place where
  /-- The working folder. -/
  | here
  /-- A folder above the working folder. -/
  | above
  /-- A file, with its text. -/
  | file (text : Text)
deriving DecidableEq, Repr

/-- The byte that divides the parts of a path. -/
def slash : UInt8 := 0x2f

/-- The byte of a dot. -/
def dot : UInt8 := 0x2e

/-- What is in a folder under a name. -/
def look (folder : Folder) (name : List UInt8) : Except PathFault Place :=
  if name.length > maxPart then .error .tooLong
  else
    match folder.files.find? (fun (t, _) => t.fileBytes.toOption = some name) with
    | some (_, text) => .ok (.file text)
    | none => .error .missing

/-- Go on by one part of a path. -/
def step (folder : Folder) (place : Place) (part : List UInt8) : Except PathFault Place :=
  match place with
  | .file _ => .error .notAFolder
  | place =>
    if part = [] || part = [dot] then .ok place
    else if part = [dot, dot] then .ok .above
    else if place = .here then folder.look part
    else Folder.look {} part

/-- Go on by all parts of a path. -/
def walk (folder : Folder) : Place → (parts : List (List UInt8)) → Except PathFault Place
  | place, [] => .ok place
  | place, part :: parts =>
    match folder.step place part with
    | .error f => .error f
    | .ok place => walk folder place parts

/-- Where a path begins: one that begins with a slash begins at the top. -/
def origin (path : List UInt8) : Place := if path.head? = some slash then .above else .here

/-- The text to which a path leads. -/
def read (folder : Folder) (path : Text) : Except PathFault Text :=
  match path.fileBytes with
  | .error f => .error (.noBytes f)
  | .ok bytes =>
    if bytes.contains 0 then .error .zeroCharacter
    else if bytes.isEmpty then .error .missing
    else if bytes.length > maxPath then .error .tooLong
    else
      match folder.walk (origin bytes) (bytes.splitOn slash) with
      | .error f => .error f
      | .ok (.file text) => .ok text
      | .ok _ => .error .isFolder

end Folder

end GridRobot.CommandLine
