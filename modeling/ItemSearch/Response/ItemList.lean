import ItemSearch.Request.Basic
import ItemSearch.Response.Facet
import ItemSearch.Response.Projection

/-!
Lists of items, the answers to all requests: a page of a search, or the items asked for by
themselves.
-/

namespace ItemSearch

/-- Items with what is known about them. -/
structure ItemList where
  count : Option Int := none
  start : Option Int := none
  limit : Option Int := none
  items : List Json := []
  facets : Option (List Facet) := none
  deriving DecidableEq, Repr

namespace ItemList

/-- The document of a hit. -/
def sourceOf (hit : Json) : Shaped Json := do
  return (← Shaped.member? "_source" hit).getD (.obj [])

/-- The documents of the hits, in their order. -/
def documents (hits : Json) : Shaped (List Json) := do
  (← Shaped.parts (← Shaped.member "hits" hits)).mapM sourceOf

/-- How many documents there are in all, as the backend says it; where it does not, as many as it
sent. -/
def totalHits (hits : Json) : Shaped Json := do
  let sent : Shaped Nat := do Shaped.size (← Shaped.member "hits" hits)
  match ← Shaped.member? "total" hits with
  | some (.obj total) => do
    let sent ← sent
    return (Assoc.find? "value" total).getD (.int sent)
  | some (.int n) => return .int n
  | some (.bool b) => return .bool b
  | _ => return .int (← sent)

/-- The items of an answer, with the total that the backend gives. -/
def ofFetch (response : Json) : Shaped ItemList := do
  let hits ← Shaped.member "hits" response
  let items ← documents hits
  let total ← totalHits hits
  let count ← Shaped.ofReading
    (.under (.field "count") (Schema.nullable Schema.integer total))
  return { count := count, items := items }

/-- The items projected onto fields, if there are any. -/
def projected (fields : Option (List String)) (items : List Json) : List Json :=
  match fields with
  | none | some [] => items
  | some names => items.map fun item => project item names

/-- A page of a search, with the place of the page among all. -/
def ofSearch (p : SearchRequest) (response : Json) : Shaped ItemList := do
  let hits ← Shaped.member "hits" response
  let items := projected p.fields (← documents hits)
  let facets ← Facet.all ((response.member? "aggregations").getD .null) p.facets
  return {
    count := some items.length
    start := some ((p.page - 1) * p.pageSize + 1)
    limit := some p.pageSize
    items := items
    facets := facets }

/-- The answer of the service. What is not known is left out. -/
def toJson (l : ItemList) : Json :=
  let number (key : String) (n? : Option Int) : List (String × Json) :=
    match n? with
    | some n => [(key, .int n)]
    | none => []
  .obj (number "count" l.count ++ number "start" l.start ++ number "limit" l.limit ++
    [("docs", .arr l.items)] ++
    match l.facets with
    | some facets => [("facets", .arr (facets.map Facet.toJson))]
    | none => [])

end ItemList

end ItemSearch
