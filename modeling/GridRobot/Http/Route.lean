import GridRobot.Http.Address

/-!
# Routes

A route is a method and a pattern of path segments. The first route that matches path and method
serves the request. If only paths match, the method is not allowed; if a path would match with its
trailing slashes removed, or with one added, the client is sent there.
-/

namespace GridRobot.Http

/-- What can be asked for. -/
inductive Endpoint where
  | levels
  | level
  | createRun
  | runs
  | run
  | events
  | outcome
  | cancel
  | endRun
  | health
  | root
  /-- A page for readers. -/
  | page
deriving DecidableEq, Repr

/-- A segment of a pattern: a fixed text, or a part that differs from request to request. -/
inductive Segment where
  | fixed (s : String)
  | part
deriving DecidableEq, Repr

/-- Do the segments of a path match a pattern? The parts of the path, in order. A line feed at the
very end of a path does not count for a fixed text. -/
def Segment.capture? : List Segment → List String → Option (List String)
  | [], [] => some []
  | [], _ :: _ => none
  | _ :: _, [] => none
  | .part :: pattern, t :: path =>
    if t.isEmpty then none else (capture? pattern path).map (t :: ·)
  | .fixed s :: pattern, t :: path =>
    if t = s || (pattern.isEmpty && t = s ++ "\n") then capture? pattern path else none

/-- A route. -/
structure Route where
  method : String
  pattern : List Segment
  endpoint : Endpoint
deriving DecidableEq, Repr

namespace Route

/-- The pattern below the root of all levels and runs. -/
def under (segments : List Segment) : List Segment :=
  [.fixed "", .fixed "api", .fixed "v1"] ++ segments

/-- The routes of a page for readers, which may be asked for without its text. -/
def pageAt (segments : List String) : List Route :=
  ["GET", "HEAD"].map (fun method => ⟨method, (("" :: segments).map .fixed), .page⟩)

/-- The routes of all pages for readers. -/
def pages : List Route :=
  [["openapi.json"], ["api", "docs"], ["docs", "oauth2-redirect"], ["api", "redoc"]].flatMap pageAt

/-- All routes, in the order in which they are tried. -/
def all : List Route := pages ++ [
  ⟨"GET", under [.fixed "levels"], .levels⟩,
  ⟨"GET", under [.fixed "levels", .part], .level⟩,
  ⟨"POST", under [.fixed "runs"], .createRun⟩,
  ⟨"GET", under [.fixed "runs"], .runs⟩,
  ⟨"GET", under [.fixed "runs", .part], .run⟩,
  ⟨"GET", under [.fixed "runs", .part, .fixed "events"], .events⟩,
  ⟨"GET", under [.fixed "runs", .part, .fixed "outcome"], .outcome⟩,
  ⟨"POST", under [.fixed "runs", .part, .fixed "cancel"], .cancel⟩,
  ⟨"DELETE", under [.fixed "runs", .part], .endRun⟩,
  ⟨"GET", [.fixed "", .fixed "health"], .health⟩,
  ⟨"GET", [.fixed "", .fixed ""], .root⟩]

/-- The parts of a path that matches a route. -/
def capture? (path : String) (r : Route) : Option (List String) :=
  Segment.capture? r.pattern (path.splitOn "/")

/-- Does some route match the path? -/
def anyMatches (path : String) : Bool := all.any (fun r => (r.capture? path).isSome)

/-- Where a request goes. -/
inductive Target where
  | found (endpoint : Endpoint) (parts : List String)
  | methodNotAllowed
  | redirect
  | notFound
deriving DecidableEq, Repr

/-- A path without its trailing slashes. -/
def trimSlashes (path : String) : String :=
  String.ofList (path.toList.reverse.dropWhile (· == '/')).reverse

/-- The path to which a client is sent if only that one matches. -/
def sibling (path : String) : String :=
  if path.toList.getLast? = some '/' then trimSlashes path else path ++ "/"

/-- Where a request with a method and a path goes. -/
def resolve (method path : String) : Target :=
  let served := all.findSome? (fun r =>
    if r.method = method then (r.capture? path).map (Target.found r.endpoint) else none)
  match served with
  | some target => target
  | none =>
    if anyMatches path then .methodNotAllowed
    else if path != "/" && anyMatches (sibling path) then .redirect
    else .notFound

end Route

end GridRobot.Http
