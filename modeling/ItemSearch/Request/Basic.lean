/-!
Requests after validation: what a search asks for, and what a request for random items asks for.
-/

namespace ItemSearch

/-- How the conditions of a search go together. -/
inductive Operator where
  | and
  | or
  deriving DecidableEq, Repr

def Operator.word : Operator → String
  | .and => "AND"
  | .or => "OR"

inductive SortOrder where
  | asc
  | desc
  deriving DecidableEq, Repr

def SortOrder.word : SortOrder → String
  | .asc => "asc"
  | .desc => "desc"

/-- A value asked for in one field. -/
structure Condition where
  field : String
  value : String
  deriving DecidableEq, Repr

/-- How the results are ordered on demand: by a field, or by the distance from a place. -/
inductive SortSpec where
  | byField (field : String) (order : SortOrder)
  | byDistance (field pin : String)
  deriving DecidableEq, Repr

/-- A search. Conditions of `fieldQueries` count for the ranking, those of `filter` do not. -/
structure SearchRequest where
  exactFieldMatch : Bool := false
  facets : Option (List String) := none
  facetSize : Int := 50
  fields : Option (List String) := none
  fieldQueries : List Condition := []
  filter : Option (List Condition) := none
  op : Operator := .and
  page : Int := 1
  pageSize : Int := 10
  q : Option String := none
  sortBy : Option String := none
  sortByPin : Option String := none
  sortOrder : SortOrder := .asc
  deriving DecidableEq, Repr

structure RandomRequest where
  filter : Option (List Condition) := none
  deriving DecidableEq, Repr

/-- What is wrong with a place to sort by and the field to sort by. -/
inductive SortConflict where
  | pinRequired
  | sortByRequired
  deriving DecidableEq, Repr

def SortConflict.message : SortConflict → String
  | .pinRequired => "The sort_by_pin parameter is required."
  | .sortByRequired => "The sort_by parameter is required."

namespace SearchRequest

/-- The order that the request asks for, if any. -/
def sort? (p : SearchRequest) : Option SortSpec :=
  match p.sortBy, p.sortByPin with
  | none, _ => none
  | some field, some pin => some (.byDistance field pin)
  | some field, none => some (.byField field p.sortOrder)

/-- A place goes with the coordinates field and with no other. Where the name of that field is not
known, a place goes with any field. -/
def sortConflict? (coordinates? : Option String) (p : SearchRequest) : Option SortConflict :=
  match p.sortByPin, coordinates? with
  | some _, some c => if p.sortBy = some c then none else some .sortByRequired
  | some _, none => if p.sortBy.isNone then some .sortByRequired else none
  | none, some c => if p.sortBy = some c then some .pinRequired else none
  | none, none => none

end SearchRequest

end ItemSearch
