import ItemSearch.Response.Shape
import ItemSearch.Text.Split

/-!
Facets of a result: the buckets that the backend counted for each facet that was asked for.
-/

namespace ItemSearch

open Schema

inductive BucketKey where
  | text (s : String)
  | integer (n : Int)
  | number (x : Binary64)
  deriving DecidableEq, Repr

/-- A group of documents. Which of the parts are there hangs on the kind of the facet. -/
structure Bucket where
  key : Option BucketKey
  keyAsString : Option String
  count : Option Int
  lower : Option Binary64
  upper : Option Binary64
  deriving DecidableEq, Repr

inductive FacetKind where
  | terms
  | distances
  | dates
  deriving DecidableEq, Repr

def FacetKind.word : FacetKind → String
  | .terms => "terms"
  | .distances => "geo_distance"
  | .dates => "date_histogram"

/-- What the buckets of a kind are called. -/
def FacetKind.bucketsLabel : FacetKind → String
  | .terms => "terms"
  | .distances => "ranges"
  | .dates => "entries"

structure Facet where
  field : String
  kind : FacetKind
  buckets : List Bucket
  deriving DecidableEq, Repr

namespace BucketKey

def toJson : BucketKey → Json
  | .text s => .str s
  | .integer n => .int n
  | .number x => .float x

/-- A key as the backend gives it. A value of no use as a key is reported for each kind of key. -/
def ofJson : Json → Reading BucketKey
  | .str s => .ok (.text s)
  | .int n => .ok (.integer n)
  | .bool b => .ok (.integer (if b then 1 else 0))
  | .float x => .ok (.number x)
  | _ => .problems ⟨[.field "str"], .notText⟩
      [⟨[.field "int"], .notInteger⟩, ⟨[.field "float"], .notNumber⟩]

end BucketKey

namespace Bucket

def ofMembers (members : List (String × Json)) : Reading Bucket :=
  let part {α : Type} (key name : String) (f : Json → Reading α) : Reading (Option α) :=
    Reading.under (.field name) (nullable f ((Assoc.find? key members).getD .null))
  Bucket.mk
    <$> part "key" "key" BucketKey.ofJson
    <*> part "key_as_string" "key_as_string" text
    <*> part "doc_count" "doc_count" integer
    <*> part "from" "from_" number
    <*> part "to" "to" number

def ofJson : Json → Shaped Bucket
  | .obj members => Shaped.ofReading (ofMembers members)
  | _ => .error .noMembers

/-- The parts under their public names, null where there is none. -/
def members (b : Bucket) : List (String × Json) :=
  [("key", Json.ofOption BucketKey.toJson b.key),
   ("keyAsString", Json.ofOption .str b.keyAsString),
   ("docCount", Json.ofOption .int b.count),
   ("from", Json.ofOption .float b.lower),
   ("to", Json.ofOption .float b.upper)]

/-- The parts that are there. -/
def toJson (b : Bucket) : Json := .obj (b.members.filter fun m => m.2 ≠ .null)

end Bucket

namespace Facet

/-- The facet whose buckets stand in an aggregation. -/
def ofAggregation (field : String) (kind : FacetKind) (aggregation : Json) : Shaped Facet := do
  let buckets ← Shaped.member? "buckets" aggregation
  let parts ← Shaped.parts (buckets.getD (.arr []))
  return ⟨field, kind, ← parts.mapM Bucket.ofJson⟩

/-- The facet that a name asked for. Facets of dates stand one level deeper, behind the filter of
their range, and a place in the name makes it a facet of distances. -/
def ofNamed (name : String) (aggregation : Json) : Shaped Facet := do
  if ← Shaped.mentions "facet" aggregation then
    ofAggregation name .dates (← Shaped.member "facet" aggregation)
  else if Text.after ':' name ≠ "" then
    ofAggregation (Text.before ':' name) .distances aggregation
  else ofAggregation name .terms aggregation

/-- The facets by their names, without those for which the backend gave nothing. -/
def listOf (aggregations : Json) : List String → Shaped (List Facet)
  | [] => .ok []
  | name :: names => do
    match ← Shaped.member? name aggregations with
    | none | some .null => listOf aggregations names
    | some aggregation => do
      let facet ← ofNamed name aggregation
      return facet :: (← listOf aggregations names)

/-- The facets that were asked for, if any were and the backend gave any. -/
def all (aggregations : Json) (names : Option (List String)) : Shaped (Option (List Facet)) :=
  match names with
  | none | some [] => .ok none
  | some names =>
    if aggregations.isEmpty then .ok none else some <$> listOf aggregations names

/-- A facet, with its buckets written by `bucket`. -/
def toJsonWith (bucket : Bucket → Json) (f : Facet) : Json :=
  .obj [("field", .str f.field), ("type", .str f.kind.word),
    ("buckets", .arr (f.buckets.map bucket)), ("bucketsLabel", .str f.kind.bucketsLabel)]

def toJson : Facet → Json := toJsonWith Bucket.toJson

end Facet

end ItemSearch
