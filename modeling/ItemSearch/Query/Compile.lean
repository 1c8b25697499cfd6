import ItemSearch.Error
import ItemSearch.Query.Syntax
import ItemSearch.Query.Terms
import ItemSearch.Registry.Basic

/-!
Compiling requests into bodies for the search backend. Paths come from the registry alone; what
the caller wrote ends up in values, never in paths. A name that the registry does not know is the
only way to fail.
-/

namespace ItemSearch

/-- A field that a request names has no path. -/
structure UnknownField where
  name : String
  deriving DecidableEq, Repr

def UnknownField.detail (e : UnknownField) : String := "Unrecognized field name: " ++ e.name

/-- The caller does not get to know which field it was. -/
def UnknownField.apiError (e : UnknownField) : ApiError := ⟨.queryCompilation, e.detail⟩

/-- What the compiler knows of the index: its fields, and the weighted fields that a search for
words looks into. -/
structure Compiler where
  registry : Registry
  keywordFields : List String

namespace Compiler

/-- The fields that a search for words looks into, with their weights. -/
def itemKeywordFields : List String :=
  ["dataProvider.name^1", "intermediateProvider^1", "provider.name^1",
   "sourceResource.collection.description^1", "sourceResource.collection.title^1",
   "sourceResource.contributor^1", "sourceResource.creator^1",
   "sourceResource.description^0.75", "sourceResource.extent^1", "sourceResource.format^1",
   "sourceResource.language.name^1", "sourceResource.publisher^1", "sourceResource.relation^1",
   "sourceResource.rights^1", "sourceResource.spatial.country^0.75",
   "sourceResource.spatial.county^1", "sourceResource.spatial.name^1",
   "sourceResource.spatial.region^1", "sourceResource.spatial.state^0.75",
   "sourceResource.specType^1", "sourceResource.subject.name^1", "sourceResource.subtitle^2",
   "sourceResource.title^2", "sourceResource.type^1"]

/-- How many hits come before a page. -/
def pageStart (page pageSize : Int) : Int := (page - 1) * pageSize

/-- The path, or else the complaint that the field has none. -/
def resolve (path? : Option String) (name : String) : Except UnknownField String :=
  match path? with
  | some path => .ok path
  | none => .error ⟨name⟩

variable (c : Compiler)

def backendPath (name : String) : Except UnknownField String :=
  resolve (c.registry.backendPath? name) name

def wholeValuePath (name : String) : Except UnknownField String :=
  resolve (c.registry.wholeValuePath? name) name

/-! ### Conditions -/

/-- The bound that a name asks for by its ending: a range that begins before, or ends after, a
date. -/
def boundOf? (name : String) : Option Bound :=
  if ".before".toList.isSuffixOf name.toList then some .atMost
  else if ".after".toList.isSuffixOf name.toList then some .atLeast
  else none

def rangeClause (condition : Condition) (bound : Bound) : Except UnknownField Clause := do
  let path ← c.backendPath condition.field
  return .range path bound condition.value

/-- The clauses of one condition: a range where the name asks for one, whole terms for an exact
match, and a search for words otherwise. -/
def conditionClauses (condition : Condition) (exact : Bool) :
    Except UnknownField (List Clause) :=
  match boundOf? condition.field with
  | some bound => do return [← c.rangeClause condition bound]
  | none =>
    if exact then do
      let path ← c.wholeValuePath condition.field
      return (Query.splitTerms condition.value).map (Clause.term path)
    else do
      let path ← c.backendPath condition.field
      return [.keywords [path] condition.value]

/-- Filters compare whole values and do not count for the ranking. -/
def filterClauses (filter : List Condition) : Except UnknownField (List Clause) :=
  filter.mapM fun condition => do
    let path ← c.backendPath condition.field
    return .term path condition.value

/-- The clauses that count for the ranking: the search for words first. -/
def scoringClauses (p : SearchRequest) : Except UnknownField (List Clause) := do
  let words := match p.q with
    | some q => if q = "" then [] else [Clause.keywords c.keywordFields q]
    | none => []
  let conditions ← p.fieldQueries.mapM fun condition =>
    c.conditionClauses condition p.exactFieldMatch
  return words ++ conditions.flatten

/-- The clauses of a filter that has any. -/
def filter? (filter? : Option (List Condition)) : Except UnknownField (Option (List Clause)) :=
  match filter? with
  | none | some [] => .ok none
  | some filter => do return some (← c.filterClauses filter)

/-- Clauses joined by an operator. With OR, one of them must hold even where a filter stands beside
them. -/
def combine (op : Operator) (clauses : List Clause) (filter : Option (List Clause)) : BoolQuery :=
  match clauses, op with
  | [], _ => { filter := filter }
  | _, .and => { must := some clauses, filter := filter }
  | _, .or => { should := some clauses, minimumShouldMatch := some 1, filter := filter }

def query (p : SearchRequest) : Except UnknownField Query := do
  let clauses ← c.scoringClauses p
  let filter ← c.filter? p.filter
  return if clauses.isEmpty && filter.isNone then .matchAll
    else .bool (combine p.op clauses filter)

/-! ### Facets -/

/-- The distances that are counted apart: steps of a hundred miles, and what is far away. -/
def distanceRanges : List DistanceRange :=
  (List.range 20).map (fun i => ⟨100 * i, some (100 * i + 100)⟩) ++ [⟨2100, none⟩]

/-- A place as `lat,lon`; a colon between the numbers does as well. -/
def placeOf (origin : String) : String :=
  String.ofList (origin.toList.map fun ch => if ch = ':' then ',' else ch)

def distanceAggregation (path origin : String) : Aggregation :=
  .distances path (placeOf origin) distanceRanges

def dateAggregation (facet : String) : Except UnknownField Aggregation := do
  let path ← c.backendPath facet
  return .dates path (if Text.lastPiece '.' facet = "month" then .month else .year)

def aggregation (facet : String) (size : Int) : Except UnknownField Aggregation :=
  let coordinates := c.registry.coordinates
  let origin := Text.after ':' facet
  if Text.before ':' facet = coordinates.name ∧ origin ≠ "" then
    .ok (distanceAggregation coordinates.backendPath origin)
  else if facet ∈ c.registry.dateNames then c.dateAggregation facet
  else do
    let path ← c.wholeValuePath facet
    return .terms path size

/-- One aggregation for each facet, under the name by which it was asked for. -/
def aggregations (facets : Option (List String)) (size : Int) :
    Except UnknownField (List (String × Aggregation)) := do
  let named ← (facets.getD []).mapM fun facet => do return (facet, ← c.aggregation facet size)
  return Assoc.ofList named

/-! ### Order and projection -/

/-- The order when none is asked for: by relevance if anything counts for it. -/
def defaultSort (p : SearchRequest) : List SortKey :=
  if p.q.getD "" = "" ∧ p.fieldQueries = [] then [.storage] else [.score, .storage]

def sort (p : SearchRequest) : Except UnknownField (List SortKey) :=
  match p.sort? with
  | some (.byDistance field pin) => do
    let path ← c.backendPath field
    return [.distance path pin, .score, .storage]
  | some (.byField field order) =>
    match c.registry.nonAnalyzedPath? field with
    | none | some "" => .ok (defaultSort p)
    | some path => .ok [.field path order, .score, .storage]
  | none => .ok (defaultSort p)

/-- The parts of a document to return: those asked for, or all. -/
def source (fields : Option (List String)) : Except UnknownField (List String) :=
  match fields with
  | none | some [] => .ok ["*"]
  | some names => names.mapM c.backendPath

/-! ### Bodies -/

def searchBody (p : SearchRequest) : Except UnknownField Body := do
  let query ← c.query p
  let aggregations ← c.aggregations p.facets p.facetSize
  let sort ← c.sort p
  let source ← c.source p.fields
  return {
    start := some (pageStart p.page p.pageSize)
    size := p.pageSize
    query := query
    aggregations := some aggregations
    sort := some sort
    source := some source
    countsAllHits := true }

/-- Items by their identifiers, as many as there are identifiers. -/
def fetchBody (ids : List String) : Body :=
  let path := c.registry.identifier.backendPath
  { start := some 0
    size := ids.length
    query := .terms path ids
    sort := some [.field path .asc] }

/-- One item at random among those that pass the filter. -/
def randomBody (p : RandomRequest) : Except UnknownField Body := do
  let filter ← c.filter? p.filter
  return { size := 1, query := .random filter }

end Compiler

/-- The compiler for the item index. -/
def Compiler.of (registry : Registry) : Compiler := ⟨registry, Compiler.itemKeywordFields⟩

end ItemSearch
