import ItemSearch.Request.RawParams
import ItemSearch.Validation.Rule
import ItemSearch.Text.Operator
import ItemSearch.Error

/-!
Validating raw parameters. The parameters are looked at in a fixed order and the first one that
breaks a rule decides the answer. A parameter that is absent or empty takes its default.
-/

namespace ItemSearch

/-- What a caller did wrong. -/
inductive Fault where
  | unrecognized (names : List String)
  | invalid (v : Violation)
  | tooManyIdentifiers (limit : Int)
  deriving DecidableEq, Repr

def Fault.apiError : Fault → ApiError
  | .unrecognized names => ⟨.unrecognizedParameters, Text.join ", " names⟩
  | .invalid v => ⟨.invalidParameter, v.message⟩
  | .tooManyIdentifiers limit =>
    ⟨.tooManyIdentifiers, "The number of ids cannot exceed " ++ Text.decimal limit⟩

/-- Why a request is not accepted. Too many digits are not explained to the caller: they become a
failure of the service. -/
inductive Rejection where
  | fault (f : Fault)
  | tooManyDigits (e : Text.TooManyDigits)
  deriving DecidableEq, Repr

def Rejection.ofRefusal : Refusal → Rejection
  | .violation v => .fault (.invalid v)
  | .tooManyDigits e => .tooManyDigits e

/-- What validation knows: the fields, how many items a page may have, and what a URL is. -/
structure Validator where
  registry : Registry
  maxPageSize : Int
  urls : Url.Check

/-- The parameters that are not names of fields. -/
def controlParams : List String :=
  ["exact_field_match", "facets", "facet_size", "fields", "filter", "op", "page", "page_size",
   "q", "sort_by", "sort_by_pin", "sort_order"]

/-- Fields that may be asked for, and are passed over. -/
def ignoredFields : List String := ["sourceResource.subtitle"]

namespace Validator

open Rule

variable (v : Validator)

def acceptsParam (name : String) : Bool :=
  name ∈ v.registry.searchableNames || name ∈ controlParams

/-- The names of all parameters of a search, each once. -/
def acceptedParams : List String :=
  v.registry.searchableNames ++
    controlParams.filter fun name => !decide (name ∈ v.registry.searchableNames)

/-- A parameter under its rule, or the default. -/
def param {α : Type} (raw : RawParams) (name : String) (rule : String → String → Checked α)
    (default : α) : Checked α :=
  match raw.value? name with
  | some value => rule name value
  | none => .ok default

/-- A parameter under its rule, if it is there. -/
def param? {α : Type} (raw : RawParams) (name : String) (rule : String → String → Checked α) :
    Checked (Option α) :=
  match raw.value? name with
  | some value => some <$> rule name value
  | none => .ok none

/-- The entries of a comma-separated list without the ignored ones. Each of the others must be
accepted. -/
def checkEntries (accepted : String → Bool) (param : String) :
    List String → Checked (List String)
  | [] => .ok []
  | entry :: rest =>
    if entry ∈ ignoredFields then checkEntries accepted param rest
    else if accepted entry then do return entry :: (← checkEntries accepted param rest)
    else refuse (.listEntry entry param)

/-- A comma-separated list; if nothing is left of it, it counts as absent. -/
def fieldList (accepted : String → Bool) (param value : String) :
    Checked (Option (List String)) := do
  let entries ← checkEntries accepted param (Text.splitOn ',' value)
  return if entries.isEmpty then none else some entries

/-- A facet is a facetable field, or the coordinates field with a place behind a colon. -/
def acceptsFacet (facet : String) : Bool :=
  v.registry.isFacetable facet ||
    match Text.cut? ':' facet with
    | some (name, origin) => name = v.registry.coordinates.name && origin ≠ ""
    | none => false

def facets (raw : RawParams) : Checked (Option (List String)) :=
  param raw "facets" (fieldList v.acceptsFacet) none

def fields (raw : RawParams) : Checked (Option (List String)) :=
  param raw "fields" (fieldList v.registry.isRetrievable) none

/-- The value of one field under the rule for the type of the field. -/
def fieldQuery? (raw : RawParams) (name : String) : Checked (Option Condition) := do
  let rule ← forField v.registry name
  match raw.value? name with
  | some value => return some ⟨name, ← rule.check v.urls name value⟩
  | none => return none

/-- The values given for searchable fields, in the order of the registry. -/
def fieldQueries (raw : RawParams) : Checked (List Condition) := do
  let queries ← v.registry.searchableNames.mapM (v.fieldQuery? raw)
  return queries.filterMap id

/-- The values of a filter expression: trimmed, and split at AND. -/
def filterValues (values : String) : List String :=
  (Text.splitWord "AND" (Text.trim values)).map Text.trim

/-- A filter: a searchable field, a colon, and values of the field joined by AND. -/
def filterOf (expression : String) : Checked (List Condition) :=
  match Text.cut? ':' expression with
  | none => refuse (.filterForm expression)
  | some (name, values) =>
    if v.registry.isSearchable name then do
      let rule ← forField v.registry name
      (filterValues values).mapM fun value => do
        return ⟨name, ← rule.check v.urls name value⟩
    else refuse (.filterField name)

def filter? (raw : RawParams) : Checked (Option (List Condition)) :=
  match raw.value? "filter" with
  | some expression => some <$> v.filterOf expression
  | none => .ok none

/-- The field to sort by. The coordinates field needs a place to measure from. -/
def sortBy? (raw : RawParams) : Checked (Option String) :=
  match raw.value? "sort_by" with
  | none => .ok none
  | some name =>
    if !v.registry.isSortable name then refuse (.notSortable name)
    else if name = v.registry.coordinates.name ∧ (raw.value? "sort_by_pin").isNone then
      refuse (.sortConflict .pinRequired)
    else .ok (some name)

/-- The place to measure from, which goes with the coordinates field only. -/
def sortByPin? (raw : RawParams) : Checked (Option String) :=
  match raw.value? "sort_by_pin" with
  | none => .ok none
  | some pin => do
    let pin ← Rule.text "sort_by_pin" pin
    if Assoc.find? "sort_by" raw = some v.registry.coordinates.name then return some pin
    else refuse (.sortConflict .sortByRequired)

/-- Exact matching needs a path for whole values; fields that ask for a range stay ranges. -/
def checkExactMatch : List Condition → Checked Unit
  | [] => .ok ()
  | condition :: rest =>
    let name := condition.field
    if ".before".toList.isSuffixOf name.toList || ".after".toList.isSuffixOf name.toList then
      checkExactMatch rest
    else if (v.registry.wholeValuePath? name).isNone then refuse (.noExactMatch name)
    else checkExactMatch rest

/-- The parameters of a search, all of them known, under their rules. -/
def checkSearch (raw : RawParams) : Checked SearchRequest := do
  let exactFieldMatch ← param raw "exact_field_match" boolean false
  let facets ← v.facets raw
  let facetSize ← param raw "facet_size" (integer 0 2000) 50
  let fields ← v.fields raw
  let fieldQueries ← v.fieldQueries raw
  let filter ← v.filter? raw
  let op ← param raw "op" operator .and
  let page ← param raw "page" (integer 1 100) 1
  let pageSize ← param raw "page_size" (integer 0 v.maxPageSize) 10
  let q ← param? raw "q" text
  let sortBy ← v.sortBy? raw
  let sortByPin ← v.sortByPin? raw
  let sortOrder ← param raw "sort_order" sortOrder .asc
  if exactFieldMatch then v.checkExactMatch fieldQueries
  let request : SearchRequest := {
    exactFieldMatch := exactFieldMatch, facets := facets, facetSize := facetSize,
    fields := fields, fieldQueries := fieldQueries, filter := filter, op := op, page := page,
    pageSize := pageSize, q := q, sortBy := sortBy, sortByPin := sortByPin,
    sortOrder := sortOrder }
  match request.sortConflict? (some v.registry.coordinates.name) with
  | some conflict => refuse (.sortConflict conflict)
  | none => return request

/-- The search that the parameters ask for. -/
def search (raw : RawParams) : Except Rejection SearchRequest :=
  match (raw.map Prod.fst).filter fun name => !v.acceptsParam name with
  | [] => (v.checkSearch raw).mapError Rejection.ofRefusal
  | names => .error (.fault (.unrecognized names))

/-- The identifiers in a comma-separated path. No parameter goes with them. That there are too many
is said with the limit, if the limit can be written. -/
def identifiers (path : String) (raw : RawParams) : Except Rejection (List String) :=
  if raw ≠ [] then .error (.fault (.unrecognized (raw.map Prod.fst)))
  else
    let ids := Text.splitOn ',' path
    if v.maxPageSize < ids.length then
      if Text.IsWritable v.maxPageSize then .error (.fault (.tooManyIdentifiers v.maxPageSize))
      else .error (.tooManyDigits .written)
    else (ids.mapM identifier).mapError Rejection.ofRefusal

/-- The request for a random item; a filter is all that may go with it. -/
def random (raw : RawParams) : Except Rejection RandomRequest :=
  match (raw.map Prod.fst).filter fun name => decide (name ≠ "filter") with
  | [] => do return ⟨← (v.filter? raw).mapError Rejection.ofRefusal⟩
  | names => .error (.fault (.unrecognized names))

end Validator

end ItemSearch
