
/-!
The errors that a caller of the service gets to see: a message and a status code. An error is
either the caller's fault (400) or the service's (500).
-/

namespace ItemSearch

/-- The kinds of errors, from the most general one down. -/
inductive ErrorKind where
  | api
  | badRequest
  | unrecognizedParameters
  | invalidParameter
  | tooManyIdentifiers
  | internal
  | backendFailure
  | queryCompilation
  deriving DecidableEq, Repr

namespace ErrorKind

/-- The kind that a kind is a special case of. -/
def parent? : ErrorKind → Option ErrorKind
  | .api => none
  | .badRequest | .internal => some .api
  | .unrecognizedParameters | .invalidParameter | .tooManyIdentifiers => some .badRequest
  | .backendFailure | .queryCompilation => some .internal

/-- The kinds above a kind, nearest first. -/
def ancestors : ErrorKind → List ErrorKind
  | .api => []
  | .badRequest | .internal => [.api]
  | .unrecognizedParameters | .invalidParameter | .tooManyIdentifiers => [.badRequest, .api]
  | .backendFailure | .queryCompilation => [.internal, .api]

def status : ErrorKind → Nat
  | .badRequest | .unrecognizedParameters | .invalidParameter | .tooManyIdentifiers => 400
  | .api | .internal | .backendFailure | .queryCompilation => 500

end ErrorKind

/-- An error: its kind and its particular text. -/
structure ApiError where
  kind : ErrorKind
  text : String
  deriving DecidableEq, Repr

namespace ApiError

/-- The message of errors about whose cause the caller learns nothing. -/
def internalMessage : String := "Internal error"

def backendFailure : ApiError := ⟨.backendFailure, internalMessage⟩

def status (e : ApiError) : Nat := e.kind.status

/-- What the caller reads. The text of a compilation error stays inside the service. -/
def message (e : ApiError) : String :=
  match e.kind with
  | .unrecognizedParameters => "Unrecognized parameters: " ++ e.text
  | .invalidParameter => "Invalid parameter: " ++ e.text
  | .queryCompilation => internalMessage
  | _ => e.text

/-- What the log of the service reads. -/
def detail (e : ApiError) : String :=
  match e.kind with
  | .queryCompilation => e.text
  | _ => e.message

end ApiError

end ItemSearch
