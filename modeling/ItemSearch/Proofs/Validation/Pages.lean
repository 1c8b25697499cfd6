import ItemSearch.Proofs.Validation.Reading
import Mathlib.Data.List.Basic

/-!
Requests that differ in one part. Where parameters agree in all but the page, so do the requests
that are read off them, and it is the same with the facets: nothing else in a request depends on
either.
-/

namespace ItemSearch

namespace RawParams

/-- All other parameters have the same values. -/
def AgreeExcept (name : String) (raw raw' : RawParams) : Prop :=
  ∀ other, other ≠ name → raw.value? other = raw'.value? other

theorem Says.congr {α : Type} {raw raw' : RawParams} {name : String} {reads : String → α → Prop}
    {default a : α} (hvalue : raw.value? name = raw'.value? name)
    (h : raw.Says name reads default a) : raw'.Says name reads default a := by
  cases h with
  | given hgiven hreads => exact .given (hvalue ▸ hgiven) hreads
  | absent habsent => exact .absent (hvalue ▸ habsent)

end RawParams

namespace Validator

variable {v : Validator} {raw raw' : RawParams} {p p' : SearchRequest}

/-- Where a name that is not searchable is left out, all conditions are left. -/
theorem value?_eq_of_searchable {name : String} (hname : name ∉ v.registry.searchableNames)
    (hagree : raw.AgreeExcept name raw') :
    ∀ other ∈ v.registry.searchableNames, raw.value? other = raw'.value? other := by
  intro other hmem
  refine hagree other ?_
  rintro rfl
  exact hname hmem

/-- The request with another page and other facets is read off parameters that say so and agree
otherwise. -/
theorem Reads.withPageAndFacets
    (hsearchable : ∀ name ∈ v.registry.searchableNames, raw.value? name = raw'.value? name)
    (hagree : ∀ name, name ≠ "page" → name ≠ "facets" → raw.value? name = raw'.value? name)
    (h : v.Reads raw p) {page : Int} (hpage : raw'.Says "page" (Rule.IntegerIn 1 100) 1 page)
    {facets : Option (List String)}
    (hfacets : raw'.Says "facets" (ListReads v.IsFacet) none facets) :
    v.Reads raw' { p with page := page, facets := facets } := by
  have hqueries : p.fieldQueries = v.givenConditions raw' := by
    rw [h.fieldQueries, givenConditions, givenConditions]
    refine List.filterMap_congr fun name hmem => ?_
    rw [hsearchable name hmem]
  have hfit : v.ValuesFit raw' := by
    intro f hf hflag s hs
    have hmem : f.name ∈ v.registry.searchableNames :=
      Registry.mem_searchableNames_iff.mpr ⟨f, hf, rfl, hflag⟩
    exact h.valuesFit f hf hflag s (by rw [hsearchable _ hmem, hs])
  exact
    { exactFieldMatch := h.exactFieldMatch.congr (hagree _ (by decide) (by decide))
      facets := hfacets
      facetSize := h.facetSize.congr (hagree _ (by decide) (by decide))
      fields := h.fields.congr (hagree _ (by decide) (by decide))
      fieldQueries := hqueries
      valuesFit := hfit
      filter := h.filter.congr (hagree _ (by decide) (by decide))
      op := h.op.congr (hagree _ (by decide) (by decide))
      page := hpage
      pageSize := h.pageSize.congr (hagree _ (by decide) (by decide))
      q := h.q.congr (hagree _ (by decide) (by decide))
      sortBy := h.sortBy.congr (hagree _ (by decide) (by decide))
      sortByPin := h.sortByPin.congr (hagree _ (by decide) (by decide))
      sortOrder := h.sortOrder.congr (hagree _ (by decide) (by decide))
      sorting := h.sorting
      exactMatch := h.exactMatch }

theorem Reads.withPage (hname : "page" ∉ v.registry.searchableNames)
    (hagree : raw.AgreeExcept "page" raw') (h : v.Reads raw p) {page : Int}
    (hpage : raw'.Says "page" (Rule.IntegerIn 1 100) 1 page) :
    v.Reads raw' { p with page := page } :=
  h.withPageAndFacets (value?_eq_of_searchable hname hagree)
    (fun other hother _ => hagree other hother) hpage (h.facets.congr (hagree _ (by decide)))

theorem Reads.withFacets (hname : "facets" ∉ v.registry.searchableNames)
    (hagree : raw.AgreeExcept "facets" raw') (h : v.Reads raw p) {facets : Option (List String)}
    (hfacets : raw'.Says "facets" (ListReads v.IsFacet) none facets) :
    v.Reads raw' { p with facets := facets } :=
  h.withPageAndFacets (value?_eq_of_searchable hname hagree)
    (fun other _ hother => hagree other hother) (h.page.congr (hagree _ (by decide))) hfacets

/-- Accepted searches that agree in all but the page differ in the page alone. -/
theorem eq_withPage (hname : "page" ∉ v.registry.searchableNames)
    (hagree : raw.AgreeExcept "page" raw') (hp : v.search raw = .ok p)
    (hp' : v.search raw' = .ok p') : p' = { p with page := p'.page } := by
  obtain ⟨hknows, hreads'⟩ := search_eq_ok_iff.mp hp'
  have hreads := (search_eq_ok_iff.mp hp).2.withPage hname hagree hreads'.page
  exact Except.ok.inj (hp'.symm.trans (search_eq_ok_iff.mpr ⟨hknows, hreads⟩))

end Validator

end ItemSearch
