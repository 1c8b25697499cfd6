import ItemSearch.Registry.Basic

/-!
The registry of the item index. Public names follow the metadata profile of the items; the index
keeps analyzed text under the name itself and the unanalyzed value under `.not_analyzed`.
-/

namespace ItemSearch.Profile

/-- Searchable text that is analyzed at `path`, with a keyword subfield beside it. -/
def textAt (path name : String) (sortable facetable : Bool) : Field where
  name := name
  backendPath := path
  exactMatchPath := some (path ++ ".not_analyzed")
  nonAnalyzedPath := some (path ++ ".not_analyzed")
  searchable := true
  sortable := sortable
  facetable := facetable

def text (name : String) : Field := textAt name name false false
def sortableText (name : String) : Field := textAt name name true false
def facetText (name : String) : Field := textAt name name false true
def sortableFacetText (name : String) : Field := textAt name name true true

/-- Searchable text without a keyword subfield: it can be neither sorted nor compared whole. -/
def analyzedText (name : String) : Field where
  name := name
  backendPath := name
  searchable := true

/-- A URL; the index keeps it as a keyword, so one path serves all purposes. -/
def urlField (name : String) (facetable : Bool) : Field where
  name := name
  backendPath := name
  exactMatchPath := some name
  nonAnalyzedPath := some name
  type := .url
  searchable := true
  facetable := facetable

def url (name : String) : Field := urlField name false
def facetUrl (name : String) : Field := urlField name true

/-- A date kept at `path`, with no use allowed but retrieval. -/
def dateAt (path name : String) : Field where
  name := name
  backendPath := path
  exactMatchPath := some path
  nonAnalyzedPath := some path
  type := .date

/-- One end of a date range, and its facets by year and by month. -/
def dateBound (path : String) : List Field :=
  [{ dateAt path path with searchable := true, sortable := true, facetable := true },
   { dateAt path (path ++ ".year") with facetable := true, retrievable := false },
   { dateAt path (path ++ ".month") with facetable := true, retrievable := false }]

/-- A date range with both ends, and the names that ask whether an item's range overlaps with one
given: it begins before a date, or it ends after it. -/
def dateRange (name : String) : List Field :=
  dateBound (name ++ ".begin") ++ dateBound (name ++ ".end") ++
    [{ dateAt (name ++ ".begin") (name ++ ".before") with
        searchable := true, retrievable := false },
     { dateAt (name ++ ".end") (name ++ ".after") with searchable := true, retrievable := false }]

def identifierName : String := "id"

def coordinatesName : String := "sourceResource.spatial.coordinates"

def fields : List Field :=
  [url "@id",
   { name := identifierName, backendPath := "id", exactMatchPath := some "id",
     nonAnalyzedPath := some "id", searchable := true, sortable := true },
   textAt "dataProvider.name" "dataProvider" true true,
   facetUrl "dataProvider.@id",
   sortableFacetText "dataProvider.name",
   url "dataProvider.exactMatch",
   url "hasView.@id",
   facetText "hasView.format",
   sortableFacetText "intermediateProvider",
   url "isShownAt",
   url "object",
   facetUrl "provider.@id",
   sortableFacetText "provider.name",
   facetUrl "rights",
   facetText "rightsCategory",
   facetUrl "sourceResource.collection.@id",
   analyzedText "sourceResource.collection.description",
   sortableFacetText "sourceResource.collection.title",
   sortableFacetText "sourceResource.contributor",
   sortableFacetText "sourceResource.creator"] ++
  dateRange "sourceResource.date" ++
  [sortableText "sourceResource.date.displayDate",
   analyzedText "sourceResource.description",
   facetText "sourceResource.extent",
   sortableFacetText "sourceResource.format",
   facetText "sourceResource.genre",
   text "sourceResource.identifier",
   facetText "sourceResource.language.iso639_3",
   sortableFacetText "sourceResource.language.name",
   sortableFacetText "sourceResource.publisher",
   analyzedText "sourceResource.relation",
   analyzedText "sourceResource.rights",
   { name := "sourceResource.spatial", backendPath := "sourceResource.spatial.*",
     type := .wildcard, searchable := true },
   sortableFacetText "sourceResource.spatial.city",
   { name := coordinatesName, backendPath := coordinatesName, type := .coordinates,
     searchable := true, sortable := true },
   sortableFacetText "sourceResource.spatial.country",
   sortableFacetText "sourceResource.spatial.county",
   sortableFacetText "sourceResource.spatial.name",
   sortableFacetText "sourceResource.spatial.region",
   sortableFacetText "sourceResource.spatial.state",
   sortableFacetText "sourceResource.specType",
   facetUrl "sourceResource.subject.@id",
   sortableFacetText "sourceResource.subject.name",
   sortableFacetText "sourceResource.subtitle"] ++
  dateRange "sourceResource.temporal" ++
  [sortableText "sourceResource.title",
   sortableFacetText "sourceResource.type",
   { name := "sourceResource", backendPath := "sourceResource" },
   { name := "originalRecord", backendPath := "originalRecord" }]

theorem fields_nodup : (fields.map Field.name).Nodup := by decide +kernel

/-- The registry of the item index. -/
def registry : Registry where
  fields := fields
  coordinates :=
    { name := coordinatesName, backendPath := coordinatesName, type := .coordinates,
      searchable := true, sortable := true }
  identifier :=
    { name := identifierName, backendPath := "id", exactMatchPath := some "id",
      nonAnalyzedPath := some "id", searchable := true, sortable := true }
  nodup := fields_nodup
  coordinates_mem := by decide +kernel
  identifier_mem := by decide +kernel

end ItemSearch.Profile
