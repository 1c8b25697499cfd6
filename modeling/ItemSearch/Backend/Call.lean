import ItemSearch.Json.Basic

/-!
Calls of the search backend. A call is a set of named arguments: the index and the parts of a
request body, two of which go by other names there.
-/

namespace ItemSearch

abbrev Call := List (String × Json)

namespace Call

/-- The argument that a part of a body goes to. -/
def argument (key : String) : String :=
  if key = "from" then "from_"
  else if key = "_source" then "source"
  else key

/-- The arguments for the parts of a body. Of two parts for one argument the later one counts. -/
def arguments (parts : List (String × Json)) : Call :=
  Assoc.ofList (parts.map fun part => (argument part.1, part.2))

/-- The call that sends a body to an index. -/
def search (index : String) (body : List (String × Json)) : Call :=
  ("index", .str index) :: arguments body

end Call

/-- What comes of a call. -/
inductive Outcome where
  | response (body : Json)
  /-- the backend could not be reached, or refused -/
  | failure
  /-- something else went wrong on the way -/
  | defect (message : String)
  deriving DecidableEq, Repr

/-- A search backend: what comes of each call, and whether it answers at all. -/
structure Backend where
  answer : Call → Outcome
  isUp : Bool

end ItemSearch
