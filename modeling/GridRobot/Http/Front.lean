import GridRobot.Http.Body
import GridRobot.Http.Echo
import GridRobot.Http.Route
import GridRobot.Service.Field
import GridRobot.Service.Record

/-!
# The front of the service

Requests with a method, an address and a body are turned into requests to the service, and its
replies into records with a status. What the service answers is a parameter, and so is the deepest
nesting of lists and records that the reader of bodies takes: the front is the same for every
service.
-/

namespace GridRobot.Http

/-- A request as it arrives. -/
structure Call where
  method : String
  address : String
  body : String := ""
deriving DecidableEq, Repr

/-- A reply as it leaves; a reply without a body has none. -/
structure Response where
  status : Nat
  body : Option Value
deriving DecidableEq, Repr

namespace Response

/-- A reply that all went well. -/
def ok (body : Value) : Response := ⟨200, some body⟩

/-- A reply that only tells a detail. -/
def detail (status : Nat) (text : String) : Response :=
  ⟨status, some (.record [("detail", .text text)])⟩

/-- The reply to a request that is refused. -/
def refused (status : Nat) (code : String) (message : Text) (details : Value) : Response :=
  ⟨status, some (.record [
    ("error", .text message),
    ("error_code", .text code),
    ("details", details),
    ("api_version", .text "v1")])⟩

/-- The reply when something went wrong that is not the fault of the client. -/
def internalError : Response := refused 500 "INTERNAL_ERROR" "Internal server error" .null

/-- The reply to a request whose fields are wrong. What was found is part of the report; if it
cannot be shown there is none. -/
def invalid (errors : List FieldError) : Response :=
  if errors.all (fun e => Echo.canShow e.found) then
    refused 422 "VALIDATION_ERROR" "Request failed validation"
      (.record [("errors", .list (errors.map FieldError.toRecord))])
  else internalError

/-- The reply to a request that the service refuses. -/
def ofRefusal (f : Refusal) : Response :=
  if f.status = 500 then internalError
  else refused f.status f.code f.message
    (.ofOption (fun es => .record [("errors", .texts es)]) f.details)

/-- The reply of the service. -/
def ofReply : Reply → Response
  | .levels levels => ok (Level.listRecord levels)
  | .level v => ok v.toRecord
  | .run v => ok v.toRecord
  | .batch b => ok b.toRecord
  | .cancel v => ok v.toRecord
  | .outcome (some o) => ok o.toRecord
  | .outcome none => internalError
  | .ended id true => ok (.record [("success", .bool true), ("run_id", id)])
  | .ended id false => ofRefusal (.runNotFound id)
  | .runs ids => ok (Run.listRecord ids)

end Response

/-- What a call asks for, or the reply if it asks for nothing that the service answers. -/
abbrev Reading := Except Response Request

namespace Call

/-- A parameter at a place, read as an integer. -/
def integerAt (place key text : String) : FieldResult Int :=
  (Field.integerOfText text).mapError (fun p => [⟨[.text place, .text key], p, .text text⟩])

/-- A parameter of the query, read as an integer. -/
def queryInteger? (a : Address) (key : String) : FieldResult (Option Int) :=
  match a.param? key with
  | none => .ok none
  | some text => (integerAt "query" key text).map some

/-- The limit in the query is one at least. -/
def queryLimit? (a : Address) : FieldResult (Option Int) :=
  match queryInteger? a "limit" with
  | .ok (some n) =>
    ((Field.atLeastOne n).map some).mapError (fun p =>
      [⟨[.text "query", .text "limit"], p, .int n⟩])
  | result => result

/-- Read the number of a level and its seed. -/
def readLevel (a : Address) (number : String) : Reading :=
  match integerAt "path" "level_id" number, queryInteger? a "seed" with
  | .ok n, .ok seed => .ok (.getLevel (.int n) seed)
  | number, seed => .error (.invalid (Field.errors number ++ Field.errors seed))

/-- Read a pull of events. -/
def readPull (a : Address) (id : String) : Reading :=
  match queryLimit? a with
  | .ok limit => .ok (.pullEvents (.text id) ((limit.map .int).getD .null))
  | .error es => .error (.invalid es)

/-- The reply to a request whose body is no text, or one that goes beyond the limits. -/
def unreadable : Response := .detail 400 "There was an error parsing the body"

/-- The value in a body. -/
def readBody (nesting : Nat) (body : String) : Except Response Value :=
  if body.isEmpty then .error (.invalid [⟨[.text "body"], .missing, .null⟩])
  else
    match Body.decode? body with
    | none => .error unreadable
    | some text =>
      match Value.parse nesting text with
      | .ok data => .ok data
      | .error e =>
        if e.problem.isMalformed then
          .error (.invalid [⟨[.text "body", .int e.place.offset], .badText, .record []⟩])
        else .error unreadable

/-- Read a submission. -/
def readSubmission (nesting : Nat) (body : String) : Reading :=
  match readBody nesting body with
  | .error r => .error r
  | .ok data =>
    match Submission.ofValue data with
    | .ok sub => .ok (.createRun sub)
    | .error es => .error (.invalid (es.map (·.below "body")))

/-- The reply that tells that the service is there. -/
def health : Response := .ok (.record [
  ("status", .text "healthy"),
  ("service", .text "codegrid-engine"),
  ("version", .text "0.1.0")])

/-- The reply that tells what the service is. -/
def root : Response := .ok (.record [
  ("name", .text "Codegrid API"),
  ("version", .text "0.1.0"),
  ("env", .text "development"),
  ("docs", .text "/api/docs"),
  ("health", .text "/health")])

/-- The reply to a request for a page; the text of the page is no value, so it is not told. -/
def page : Response := ⟨200, none⟩

/-- Read a call that goes to an endpoint with the parts of its path. -/
def readAt (nesting : Nat) (a : Address) (body : String) (endpoint : Endpoint)
    (parts : List String) : Reading :=
  let id := parts.headD ""
  match endpoint with
  | .levels => .ok .listLevels
  | .level => readLevel a id
  | .createRun => readSubmission nesting body
  | .runs => .ok .listRuns
  | .run => .ok (.getRun (.text id))
  | .events => readPull a id
  | .outcome => .ok (.getOutcome (.text id))
  | .cancel => .ok (.cancelRun (.text id))
  | .endRun => .ok (.endRun (.text id))
  | .health => .error health
  | .root => .error root
  | .page => .error page

/-- Read a call. -/
def read (nesting : Nat) (c : Call) : Reading :=
  let a := Address.read c.address
  match Route.resolve c.method a.path with
  | .found endpoint parts => readAt nesting a c.body endpoint parts
  | .methodNotAllowed => .error (.detail 405 "Method Not Allowed")
  | .redirect => .error ⟨307, none⟩
  | .notFound => .error (.detail 404 "Not Found")

end Call

/-- Answer a call, given what the service answers to its requests. -/
def respond {σ : Type} (nesting : Nat) (answer : σ → Request → Except Refusal Reply × σ) (s : σ)
    (c : Call) : Response × σ :=
  match c.read nesting with
  | .error r => (r, s)
  | .ok q =>
    match answer s q with
    | (.ok r, s) => (.ofReply r, s)
    | (.error f, s) => (.ofRefusal f, s)

/-- Answer a call to the service at a time. -/
def serve (nesting : Nat) (s : Service) (now : Number) (c : Call) : Response × Service :=
  respond nesting (fun s q => s.handle now q) s c

end GridRobot.Http
