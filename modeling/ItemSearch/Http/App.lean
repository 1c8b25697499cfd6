import ItemSearch.Http.Form
import ItemSearch.Http.Route
import ItemSearch.Service

/-!
The service behind HTTP: from requests to replies. What the service answers is sent as the framework
encodes it. Errors that are meant for callers are rendered as a message and a code; any other
failure gives a reply that says nothing about it.
-/

namespace ItemSearch.Http

structure Request where
  method : String := "GET"
  host : String
  path : String
  query : String := ""
  /-- the site that the request is made for -/
  origin : Option String := none
  deriving DecidableEq, Repr

inductive Content where
  | json (v : Json)
  | text (s : String)
  deriving DecidableEq, Repr

structure Reply where
  status : Nat
  content : Content
  location : Option String := none
  allow : Option String := none
  /-- the site that may read the reply -/
  allowOrigin : Option String := none
  /-- the failure behind a reply that says nothing -/
  failure : Option Failure := none
  deriving DecidableEq, Repr

namespace Reply

/-- A reply about the request itself. -/
def detail (status : Nat) (text : String) : Reply :=
  { status := status, content := .json (.obj [("detail", .str text)]) }

/-- An error as its caller sees it. -/
def ofError (e : ApiError) : Reply :=
  { status := e.status
    content := .json (.obj [("message", .str e.message), ("code", .int e.status)]) }

def ofFailure : Failure → Reply
  | .api e => ofError e
  | failure =>
    { status := 500, content := .text "Internal Server Error", failure := some failure }

/-- A value as it is encoded, unless it has an integer that cannot be written. -/
def ok (encode : Json → Json) (v : Json) : Reply :=
  if (encode v).isWritable then { status := 200, content := .json (encode v) }
  else ofFailure (.tooManyDigits .written)

def ofResult (encode : Json → Json) : Except Failure ItemList → Reply
  | .ok list => ok encode list.toJson
  | .error failure => ofFailure failure

/-- The reply, open to the site that asked. A reply to a failure stays as it is. -/
def openTo (origin : Option String) (r : Reply) : Reply :=
  if r.failure.isSome then r else { r with allowOrigin := origin }

end Reply

/-- The service under a name, behind a framework that has an encoding of its own for the values it
sends. -/
structure App where
  name : String
  service : Service
  encode : Json → Json

namespace App

variable (app : App)

/-- The reply of a route, and the calls of the backend that it took. -/
def answer (backend : Backend) (query : String) : Route → Reply × List Call
  | .health => (.ok app.encode (.obj [("status", .str "ok"), ("app", .str app.name)]), [])
  | .ready =>
    if backend.isUp then (.ok app.encode (.obj [("status", .str "ready")]), [])
    else ({ status := 503, content := .json (.obj [("status", .str "unavailable")]) }, [])
  | .search =>
    let run := app.service.search backend (Form.rawParams query)
    (.ofResult app.encode run.result, run.calls)
  | .fetch ids =>
    let run := app.service.fetch backend ids (Form.rawParams query)
    (.ofResult app.encode run.result, run.calls)
  | .random =>
    let run := app.service.random backend (Form.rawParams query)
    (.ofResult app.encode run.result, run.calls)
  | .metrics => ({ status := 200, content := .text "" }, [])

/-- The reply to a request before it is opened to any site. -/
def dispatch (backend : Backend) (r : Request) : Reply × List Call :=
  match Route.of? r.path.toList with
  | some route =>
    if r.method = "GET" ∨ route = .metrics then app.answer backend r.query route
    else ({ Reply.detail 405 "Method Not Allowed" with allow := some "GET" }, [])
  | none => match Route.redirection? r.path.toList with
    | some path =>
      ({ status := 307
         content := .text ""
         location := some (location r.host path r.query) }, [])
    | none => (.detail 404 "Not Found", [])

/-- The reply to a request, and the calls of the backend that it took. -/
def handle (backend : Backend) (r : Request) : Reply × List Call :=
  let (reply, calls) := app.dispatch backend r
  (reply.openTo r.origin, calls)

end App

end ItemSearch.Http
