import ItemSearch.Request.Basic
import ItemSearch.Schema.Number

/-!
Search requests as JSON objects. Members that are missing take the defaults of a search without
parameters, unknown members are passed over, and a place to sort by has to go with the field.
-/

namespace ItemSearch

open Schema

def Operator.words : List (String × Operator) :=
  [(Operator.and.word, .and), (Operator.or.word, .or)]

def SortOrder.words : List (String × SortOrder) :=
  [(SortOrder.asc.word, .asc), (SortOrder.desc.word, .desc)]

/-- A condition, as the record of that name. -/
def Condition.ofJson (record : String) : Json → Reading Condition :=
  Schema.record record fun members =>
    Condition.mk <$> required members "field_name" text <*> required members "value" text

def Condition.toJson (c : Condition) : Json :=
  Json.object [("field_name", .str c.field), ("value", .str c.value)]

namespace SearchRequest

/-- The members, each for itself. -/
def ofMembers (members : List (String × Json)) : Reading SearchRequest :=
  let default : SearchRequest := {}
  SearchRequest.mk
    <$> optional members "exact_field_match" boolean default.exactFieldMatch
    <*> optional members "facets" (nullable (list text)) default.facets
    <*> optional members "facet_size" integer default.facetSize
    <*> optional members "fields" (nullable (list text)) default.fields
    <*> optional members "field_queries" (list (Condition.ofJson "FieldQuery"))
      default.fieldQueries
    <*> optional members "filter" (nullable (list (Condition.ofJson "Filter"))) default.filter
    <*> optional members "op" (word Operator.words .notWord) default.op
    <*> optional members "page" integer default.page
    <*> optional members "page_size" integer default.pageSize
    <*> optional members "q" (nullable text) default.q
    <*> optional members "sort_by" (nullable text) default.sortBy
    <*> optional members "sort_by_pin" (nullable text) default.sortByPin
    <*> optional members "sort_order" (word SortOrder.words .notWord) default.sortOrder

/-- The request, if its sort field and its place go together. -/
def checkSort (coordinates? : Option String) (p : SearchRequest) : Reading SearchRequest :=
  match p.sortConflict? coordinates? with
  | some conflict => .fail (.conflict conflict.message)
  | none => .ok p

/-- The request that a JSON object describes, where the coordinates field has that name. -/
def ofJson (coordinates? : Option String) (v : Json) : Reading SearchRequest :=
  (record "SearchParams" ofMembers v).andThen (checkSort coordinates?)

def toJson (p : SearchRequest) : Json :=
  let conditions (cs : List Condition) : Json := .arr (cs.map Condition.toJson)
  Json.object
    [("exact_field_match", .bool p.exactFieldMatch),
     ("facets", Json.ofOption Json.strings p.facets),
     ("facet_size", .int p.facetSize),
     ("fields", Json.ofOption Json.strings p.fields),
     ("field_queries", conditions p.fieldQueries),
     ("filter", Json.ofOption conditions p.filter),
     ("op", .str p.op.word),
     ("page", .int p.page),
     ("page_size", .int p.pageSize),
     ("q", Json.ofOption .str p.q),
     ("sort_by", Json.ofOption .str p.sortBy),
     ("sort_by_pin", Json.ofOption .str p.sortByPin),
     ("sort_order", .str p.sortOrder.word)]

end SearchRequest

end ItemSearch
