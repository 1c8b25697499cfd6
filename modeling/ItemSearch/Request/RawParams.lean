import ItemSearch.Assoc
import ItemSearch.Request.Basic
import ItemSearch.Text.Decimal
import ItemSearch.Text.Split

/-!
Raw parameters: the flat map from names to texts that a request arrives as, and the form in which
a validated search is written back into such a map.
-/

namespace ItemSearch

abbrev RawParams := List (String × String)

/-- The value of a parameter. An empty value counts as absent. -/
def RawParams.value? (raw : RawParams) (name : String) : Option String :=
  match Assoc.find? name raw with
  | some v => if v = "" then none else some v
  | none => none

def boolWord (b : Bool) : String := if b then "true" else "false"

/-- The filter as one expression: the field of the first condition, and the values of all. -/
def filterExpression? : List Condition → Option String
  | [] => none
  | c :: cs => some (c.field ++ ":" ++ Text.join " AND " ((c :: cs).map Condition.value))

/-- A parameter for a list, unless the list is empty. -/
def listParam (name : String) : Option (List String) → RawParams
  | none | some [] => []
  | some items => [(name, Text.join "," items)]

def optionalParam (name : String) : Option String → RawParams
  | none => []
  | some v => [(name, v)]

/-- The parameters of a request in the order in which they are written. -/
def SearchRequest.writtenParams (p : SearchRequest) : RawParams :=
  [("exact_field_match", boolWord p.exactFieldMatch),
   ("facet_size", Text.decimal p.facetSize),
   ("op", p.op.word),
   ("page", Text.decimal p.page),
   ("page_size", Text.decimal p.pageSize),
   ("sort_order", p.sortOrder.word)] ++
  p.fieldQueries.map (fun c => (c.field, c.value)) ++
  listParam "facets" p.facets ++
  listParam "fields" p.fields ++
  optionalParam "filter" (p.filter.bind filterExpression?) ++
  optionalParam "q" p.q ++
  optionalParam "sort_by" p.sortBy ++
  optionalParam "sort_by_pin" p.sortByPin

/-- The raw parameters that say what the request says. A name written twice keeps its first place
and takes the last value. -/
def SearchRequest.rawParams (p : SearchRequest) : RawParams := Assoc.ofList p.writtenParams

/-- The request as raw parameters, if its integers can be written. -/
def SearchRequest.toRawParams (p : SearchRequest) : Except Text.TooManyDigits RawParams :=
  if Text.IsWritable p.facetSize ∧ Text.IsWritable p.page ∧ Text.IsWritable p.pageSize then
    .ok p.rawParams
  else .error .written

end ItemSearch
