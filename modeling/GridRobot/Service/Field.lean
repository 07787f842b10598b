import GridRobot.Service
import GridRobot.Text.Integer
import GridRobot.Value.Source

/-!
# Fields of requests

The fields of a request come as values or as texts and are read with some leniency: truth values
count as one and zero, a real without a fraction and a text that spells an integer are integers.
Everything that is wrong is reported, each with the place where it is.
-/

namespace GridRobot

/-- What can be wrong with a field. -/
inductive FieldProblem where
  | missing
  | notAnInteger
  | brokenText
  | unreadableInteger
  | integerTooLong
  | fraction
  | notFinite
  | belowOne
  | notAList
  | notARecord
  | bodyNotARecord
  | badText
deriving DecidableEq, Repr

namespace FieldProblem

/-- The code of a problem. -/
def code : FieldProblem → String
  | missing => "missing"
  | notAnInteger => "int_type"
  | brokenText => "string_unicode"
  | unreadableInteger => "int_parsing"
  | integerTooLong => "int_parsing_size"
  | fraction => "int_from_float"
  | notFinite => "finite_number"
  | belowOne => "greater_than_equal"
  | notAList => "list_type"
  | notARecord => "dict_type"
  | bodyNotARecord => "model_attributes_type"
  | badText => "json_invalid"

/-- The wording of a problem. -/
def message : FieldProblem → String
  | missing => "Field required"
  | notAnInteger => "Input should be a valid integer"
  | brokenText => "Input should be a valid string, unable to parse raw data as a unicode string"
  | unreadableInteger => "Input should be a valid integer, unable to parse string as an integer"
  | integerTooLong => "Unable to parse input string as an integer, exceeded maximum size"
  | fraction => "Input should be a valid integer, got a number with a fractional part"
  | notFinite => "Input should be a finite number"
  | belowOne => "Input should be greater than or equal to 1"
  | notAList => "Input should be a valid list"
  | notARecord => "Input should be a valid dictionary"
  | bodyNotARecord => "Input should be a valid dictionary or object to extract fields from"
  | badText => "JSON decode error"

end FieldProblem

/-- A problem, the place of the field (keys and indices, outermost first), and what was found. -/
structure FieldError where
  place : List Value
  problem : FieldProblem
  found : Value
deriving DecidableEq, Repr

namespace FieldError

/-- The error at a place further out. -/
def below (key : String) (e : FieldError) : FieldError := { e with place := .text key :: e.place }

/-- The record of an error. -/
def toRecord (e : FieldError) : Value := .record [
  ("type", .text e.problem.code),
  ("loc", .list e.place),
  ("msg", .text e.problem.message)]

end FieldError

/-- The fields of a record, or the errors. -/
abbrev FieldResult (α : Type) := Except (List FieldError) α

namespace Field

/-- Read an integer from a text. -/
def integerOfText (s : String) : Except FieldProblem Int :=
  match IntegerText.readRequest s with
  | .value n => .ok n
  | .malformed => .error .unreadableInteger
  | .tooLong => .error .integerTooLong

/-- Read an integer from a real: it has no fraction and lies within 64 bits. -/
def integerOfReal (x : Binary64) : Except FieldProblem Int :=
  match x with
  | .nan | .infinite _ => .error .notFinite
  | x =>
    match x.toInt? with
    | none => .error .fraction
    | some n => if n.natAbs < 0x8000000000000000 then .ok n else .error .integerTooLong

/-- Read an integer from a value. -/
def integer : Value → Except FieldProblem Int
  | .int n => .ok n
  | .bool b => .ok b.toInt
  | .real x => integerOfReal x
  | .text t => if t.isWhole then integerOfText t.toString else .error .brokenText
  | _ => .error .notAnInteger

/-- An integer that is one at least. -/
def atLeastOne (n : Int) : Except FieldProblem Int :=
  if n < 1 then .error .belowOne else .ok n

/-- The items of a list that shall be records: an error for each that is none. -/
def itemErrors (items : List Value) : List FieldError :=
  items.zipIdx.filterMap (fun (v, index) =>
    match v with
    | .record _ => none
    | v => some ⟨[.int index], .notARecord, v⟩)

/-- Read a list of records. -/
def records : Value → FieldResult (List Value)
  | .list items => if (itemErrors items).isEmpty then .ok items else .error (itemErrors items)
  | v => .error [⟨[], .notAList, v⟩]

/-- Read a field that has no parts. -/
def whole {α : Type} (read : Value → Except FieldProblem α) (v : Value) : FieldResult α :=
  (read v).mapError (fun p => [⟨[], p, v⟩])

/-- A field that is required. -/
def required {α : Type} (data : Value) (key : String) (read : Value → FieldResult α) :
    FieldResult α :=
  let result := match data.field? key with
    | some v => read v
    | none => .error [⟨[], .missing, data⟩]
  result.mapError (·.map (·.below key))

/-- A field that may be absent or null. -/
def optional {α : Type} (data : Value) (key : String) (read : Value → FieldResult α) :
    FieldResult (Option α) :=
  match data.field? key with
  | none | some .null => .ok none
  | some v => ((read v).map some).mapError (·.map (·.below key))

/-- The errors of a field. -/
def errors {α : Type} : FieldResult α → List FieldError
  | .ok _ => []
  | .error es => es

end Field

namespace Submission

/-- Read a submission from a record, whose other fields do not matter. -/
def ofRecord (data : Value) : FieldResult Submission :=
  let level := Field.required data "level_id"
    (Field.whole (fun v => (Field.integer v).bind Field.atLeastOne))
  let program := Field.required data "program" Field.records
  let seed := Field.optional data "seed" (Field.whole Field.integer)
  match level, program, seed with
  | .ok level, .ok program, .ok seed => .ok ⟨level, program, seed⟩
  | level, program, seed =>
    .error (Field.errors level ++ Field.errors program ++ Field.errors seed)

/-- Read a submission from a value. -/
def ofValue (data : Value) : FieldResult Submission :=
  match data with
  | .record _ => ofRecord data
  | v => .error [⟨[], .bodyNotARecord, v⟩]

end Submission

/-! ## Levels asked for by values -/

/-- Why a level cannot be shown to someone who asks for it with a key and a seed of any kind. -/
inductive LevelFault where
  | refused (f : Refusal)
  /-- The layouts of the level are drawn, and nothing can be drawn for the seed. -/
  | noSeed (f : SeedFault)
  /-- The seed is no integer, so it cannot be told with the level. -/
  | badSeed (errors : List FieldError)
deriving DecidableEq, Repr

/-- A level with its world, for a key and a seed of any kind. -/
def Service.askLevel (s : Service) (key seed : Value) : Except LevelFault LevelView :=
  match requireLevel key with
  | .error f => .error (.refused f)
  | .ok l =>
    match Layout.seedOf l.number seed with
    | .error f => .error (.noSeed f)
    | .ok drawn =>
      match s.makeWorld l drawn with
      | .error f => .error (.refused f)
      | .ok w =>
        match Field.optional (.record [("seed", seed)]) "seed" (Field.whole Field.integer) with
        | .error es => .error (.badSeed es)
        | .ok told => .ok ⟨l, told, w⟩

end GridRobot
