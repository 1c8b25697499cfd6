import ItemSearch.Request.Basic
import ItemSearch.Json.Basic

/-!
The request bodies of the search backend: queries, aggregations, sort keys, and how they are
written in JSON.
-/

namespace ItemSearch

/-- Which end of a range a value closes. -/
inductive Bound where
  | atMost
  | atLeast
  /-- a bound that requests do not ask for, by the name that the backend has for it -/
  | other (key : String)
  deriving DecidableEq, Repr

/-- A condition on one document that looks at nothing but its fields. -/
inductive Clause where
  /-- an analyzed search for words, in any of the given fields -/
  | keywords (fields : List String) (text : String)
  /-- equality with a whole value -/
  | term (path value : String)
  | range (path : String) (bound : Bound) (value : String)
  deriving DecidableEq, Repr

/-- A boolean combination: all of `must`, enough of `should`, and all of `filter`, which does not
count for the ranking. -/
structure BoolQuery where
  must : Option (List Clause) := none
  should : Option (List Clause) := none
  minimumShouldMatch : Option Nat := none
  filter : Option (List Clause) := none
  deriving DecidableEq, Repr

inductive Query where
  | matchAll
  | bool (query : BoolQuery)
  /-- any of several whole values -/
  | terms (path : String) (values : List String)
  /-- every document that passes the filter, in random order -/
  | random (filter : Option (List Clause))
  deriving DecidableEq, Repr

/-- The width of the steps of a histogram over dates. -/
inductive Interval where
  | month
  | year
  deriving DecidableEq, Repr

/-- A range of distances in miles, from `lower` up to but not including `upper`. -/
structure DistanceRange where
  lower : Nat
  upper : Option Nat
  deriving DecidableEq, Repr

inductive Aggregation where
  | terms (path : String) (size : Int)
  | dates (path : String) (interval : Interval)
  | distances (path origin : String) (ranges : List DistanceRange)
  deriving DecidableEq, Repr

inductive SortKey where
  | field (path : String) (order : SortOrder)
  | distance (path pin : String)
  /-- by relevance -/
  | score
  /-- in the order of storage, which costs least and means nothing -/
  | storage
  deriving DecidableEq, Repr

/-- A request body. A part that is `none` is left out. -/
structure Body where
  start : Option Int := none
  size : Int
  query : Query
  aggregations : Option (List (String × Aggregation)) := none
  sort : Option (List SortKey) := none
  source : Option (List String) := none
  countsAllHits : Bool := false
  deriving DecidableEq, Repr

/-! ### In JSON -/

open Json (object strings)

def Bound.key : Bound → String
  | .atMost => "lte"
  | .atLeast => "gte"
  | .other key => key

namespace Clause

def toJson : Clause → Json
  | .keywords fields text => object
      [("query_string", object
        [("fields", strings fields),
         ("query", .str text),
         ("analyze_wildcard", .bool true),
         ("default_operator", .str Operator.and.word),
         ("lenient", .bool true)])]
  | .term path value => object [("term", object [(path, .str value)])]
  | .range path bound value =>
      object [("range", object [(path, object [(bound.key, .str value)])])]

/-- All of the clauses, as one condition. -/
def allToJson (clauses : List Clause) : Json :=
  object [("bool", object [("must", .arr (clauses.map toJson))])]

end Clause

/-- A member that is there if its value is. -/
def optionalMember {α : Type} (key : String) (f : α → Json) : Option α → List (String × Json)
  | none => []
  | some a => [(key, f a)]

def BoolQuery.toJson (b : BoolQuery) : Json :=
  object
    (optionalMember "must" (fun cs => .arr (cs.map Clause.toJson)) b.must ++
     optionalMember "should" (fun cs => .arr (cs.map Clause.toJson)) b.should ++
     optionalMember "minimum_should_match" (fun n => .int n) b.minimumShouldMatch ++
     optionalMember "filter" Clause.allToJson b.filter)

def Query.toJson : Query → Json
  | .matchAll => object [("match_all", object [])]
  | .bool b => object [("bool", b.toJson)]
  | .terms path values => object [("terms", object [(path, strings values)])]
  | .random filter => object
      [("function_score", object
        ([("random_score", object []), ("boost_mode", .str "sum")] ++
         optionalMember "query"
           (fun cs => object [("bool", object [("filter", Clause.allToJson cs)])]) filter))]

def DistanceRange.toJson (r : DistanceRange) : Json :=
  object ([("from", .int r.lower)] ++ optionalMember "to" (fun n => .int n) r.upper)

def Interval.word : Interval → String
  | .month => "month"
  | .year => "year"

/-- How a date is written in the buckets. -/
def Interval.format : Interval → String
  | .month => "yyyy-MM"
  | .year => "yyyy"

/-- The earliest date that is counted. -/
def Interval.earliest : Interval → String
  | .month => "now-416y"
  | .year => "now-2000y"

def Aggregation.toJson : Aggregation → Json
  | .terms path size => object [("terms", object [("field", .str path), ("size", .int size)])]
  | .dates path interval => object
      [("filter", object [("range", object
          [(path, object [("gte", .str interval.earliest), ("lte", .str "now")])])]),
       ("aggs", object [("facet", object [("date_histogram", object
          [("field", .str path),
           ("calendar_interval", .str interval.word),
           ("format", .str interval.format),
           ("min_doc_count", .int 1),
           ("order", object [("_key", .str SortOrder.desc.word)])])])])]
  | .distances path origin ranges => object
      [("geo_distance", object
        [("field", .str path),
         ("origin", .str origin),
         ("unit", .str "mi"),
         ("ranges", .arr (ranges.map DistanceRange.toJson))])]

def SortKey.toJson : SortKey → Json
  | .field path order => object [(path, object [("order", .str order.word)])]
  | .distance path pin => object
      [("_geo_distance", object
        [(path, .str pin), ("order", .str SortOrder.asc.word), ("unit", .str "mi")])]
  | .score => .str "_score"
  | .storage => .str "_doc"

namespace Body

/-- The members of the body in the order in which they are written. -/
def members (b : Body) : List (String × Json) :=
  optionalMember "from" Json.int b.start ++
  [("size", .int b.size), ("query", b.query.toJson)] ++
  optionalMember "aggs" (fun as => object (as.map fun a => (a.1, a.2.toJson))) b.aggregations ++
  optionalMember "sort" (fun keys => .arr (keys.map SortKey.toJson)) b.sort ++
  optionalMember "_source" strings b.source ++
  (if b.countsAllHits then [("track_total_hits", .bool true)] else [])

def toJson (b : Body) : Json := object b.members

end Body

end ItemSearch
