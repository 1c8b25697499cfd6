import ItemSearch.Registry.Basic
import ItemSearch.Schema.Number

/-!
Fields of a registry as JSON objects.
-/

namespace ItemSearch

open Schema

def FieldType.word : FieldType → String
  | .text => "text"
  | .url => "url"
  | .date => "date"
  | .wildcard => "wildcard"
  | .coordinates => "coordinates"

def FieldType.words : List (String × FieldType) :=
  [FieldType.text, .url, .date, .wildcard, .coordinates].map fun t => (t.word, t)

namespace Field

def ofMembers (members : List (String × Json)) : Reading Field :=
  Field.mk
    <$> required members "name" text
    <*> required members "backend_path" text
    <*> optional members "exact_match_path" (nullable text) none
    <*> optional members "non_analyzed_path" (nullable text) none
    <*> optional members "type" (word FieldType.words .notKind) .text
    <*> optional members "searchable" boolean false
    <*> optional members "sortable" boolean false
    <*> optional members "facetable" boolean false
    <*> optional members "retrievable" boolean true

def ofJson : Json → Reading Field := record "FieldDescriptor" ofMembers

def toJson (f : Field) : Json :=
  Json.object
    [("name", .str f.name),
     ("backend_path", .str f.backendPath),
     ("exact_match_path", Json.ofOption .str f.exactMatchPath),
     ("non_analyzed_path", Json.ofOption .str f.nonAnalyzedPath),
     ("type", .str f.type.word),
     ("searchable", .bool f.searchable),
     ("sortable", .bool f.sortable),
     ("facetable", .bool f.facetable),
     ("retrievable", .bool f.retrievable)]

/-- The fields of a list of JSON objects. The first that does not fit is reported alone. -/
def listOfJson : List Json → Reading (List Field)
  | [] => .ok []
  | v :: vs => (ofJson v).andThen fun f => List.cons f <$> listOfJson vs

end Field

end ItemSearch
