import ItemSearch.Backend.Call
import ItemSearch.Query.Compile
import ItemSearch.Response.ItemList
import ItemSearch.Validation.Basic

/-!
The service: it answers requests for items by validating them, compiling them, asking the backend
once, and mapping what comes back. A request that fails before that does not reach the backend.
-/

namespace ItemSearch

/-- Why there is no answer. Only the first kind is rendered for the caller; the others are the
service's own. -/
inductive Failure where
  | api (e : ApiError)
  | tooManyDigits (e : Text.TooManyDigits)
  | shape (e : ShapeError)
  | defect (message : String)
  deriving DecidableEq, Repr

namespace Failure

def ofRejection : Rejection → Failure
  | .fault f => .api f.apiError
  | .tooManyDigits e => .tooManyDigits e

def ofUnknownField (e : UnknownField) : Failure := .api e.apiError

end Failure

/-- What an operation comes to, and the calls that it made. -/
structure Run (α : Type) where
  calls : List Call
  result : Except Failure α

structure Service where
  validator : Validator
  compiler : Compiler
  index : String

namespace Service

def of (registry : Registry) (maxPageSize : Int) (urls : Url.Check) (index : String) : Service :=
  ⟨⟨registry, maxPageSize, urls⟩, .of registry, index⟩

variable (s : Service)

/-- Sends a body, if there is one, and maps the response. -/
def run (backend : Backend) (body : Except Failure Body) (map : Json → Shaped ItemList) :
    Run ItemList :=
  match body with
  | .error e => ⟨[], .error e⟩
  | .ok body =>
    let call := Call.search s.index body.members
    ⟨[call], match backend.answer call with
      | .response response => (map response).mapError .shape
      | .failure => .error (.api .backendFailure)
      | .defect message => .error (.defect message)⟩

/-- The body of a search, and how its response is mapped. -/
def prepareSearch (raw : RawParams) : Except Failure (SearchRequest × Body) := do
  let request ← (s.validator.search raw).mapError .ofRejection
  let body ← (s.compiler.searchBody request).mapError .ofUnknownField
  return (request, body)

def search (backend : Backend) (raw : RawParams) : Run ItemList :=
  match s.prepareSearch raw with
  | .error e => ⟨[], .error e⟩
  | .ok (request, body) => s.run backend (.ok body) (ItemList.ofSearch request)

def fetch (backend : Backend) (path : String) (raw : RawParams) : Run ItemList :=
  let body := do
    let ids ← (s.validator.identifiers path raw).mapError .ofRejection
    return s.compiler.fetchBody ids
  s.run backend body ItemList.ofFetch

def random (backend : Backend) (raw : RawParams) : Run ItemList :=
  let body := do
    let request ← (s.validator.random raw).mapError .ofRejection
    (s.compiler.randomBody request).mapError .ofUnknownField
  s.run backend body ItemList.ofFetch

end Service

end ItemSearch
