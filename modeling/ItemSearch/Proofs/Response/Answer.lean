import ItemSearch.Proofs.Response.Facets
import ItemSearch.Response.ItemList

/-!
What is read from an answer of the backend. `IsAnswer` says what the backend sends back for a body:
hits, perhaps their total, and perhaps the counts that the body asks for. A list of items is read
from every such answer; nothing in it can make the reading fail.
-/

namespace ItemSearch

/-- The document of a hit. A hit without one has an empty one. -/
def documentOf (hit : Json) : Json := (hit.member? "_source").getD (.obj [])

/-- How many documents there are in all, by the total beside as many hits. -/
inductive Totals (found : Json) (sent : Nat) : Int → Prop where
  | unsaid (h : found.member? "total" = none) : Totals found sent sent
  | plain {n : Int} (h : found.member? "total" = some (.int n)) : Totals found sent n
  | value {total : Json} {n : Int} (h : found.member? "total" = some total)
      (hvalue : total.member? "value" = some (.int n)) : Totals found sent n

/-- The total beside the hits, as a number or as the value of an object, if there is one. -/
inductive Reports (found : Json) : Option Int → Prop where
  | absent (h : found.member? "total" = none) : Reports found none
  | null (h : found.member? "total" = some .null) : Reports found none
  | unvalued {members : List (String × Json)} (h : found.member? "total" = some (.obj members))
      (hvalue : Assoc.find? "value" members = none) : Reports found none
  | plain {n : Int} (h : found.member? "total" = some (.int n)) : Reports found (some n)
  | value {total : Json} {n : Int} (h : found.member? "total" = some total)
      (hvalue : total.member? "value" = some (.int n)) : Reports found (some n)

theorem Totals.exists_reports {found : Json} {sent : Nat} {n : Int} (h : Totals found sent n) :
    ∃ reported, Reports found reported ∧ reported.getD sent = n := by
  cases h with
  | unsaid h => exact ⟨none, .absent h, rfl⟩
  | plain h => exact ⟨_, .plain h, rfl⟩
  | value h hvalue => exact ⟨_, .value h hvalue, rfl⟩

/-- The response answers the body with these hits. Aggregations may be missing, but what is there
has been counted as the body asks for it. -/
structure IsAnswer (body : Body) (response : Json) (hits : List Json) : Prop where
  found : ∃ found, response.member? "hits" = some found ∧
    found.member? "hits" = some (.arr hits) ∧ ∃ n, Totals found hits.length n
  objects : ∀ hit ∈ hits, ∃ members, hit = .obj members
  aggregations : ∀ sent, response.member? "aggregations" = some sent →
    ∃ members, sent = .obj members ∧ ∀ e ∈ body.aggregations.getD [],
      ∀ v, Assoc.find? e.1 members = some v → v = .null ∨ e.2.kind.IsAnsweredBy v

namespace Shaped

variable {key : String} {v : Json}

theorem member_of_member? {w : Json} (h : v.member? key = some w) : member key v = .ok w := by
  cases v with
  | obj members =>
      have hfind : Assoc.find? key members = some w := h
      rw [member, hfind]
  | _ => simp [Json.member?] at h

theorem member?_of_member? {w : Json} (h : v.member? key = some w) (other : String) :
    member? other v = .ok (v.member? other) := by
  cases v with
  | obj members => rfl
  | _ => simp [Json.member?] at h

end Shaped

namespace ItemList

/-- Each document is projected for itself. -/
theorem exists_projected_eq_map (fields : Option (List String)) :
    ∃ view : Json → Json, ∀ items, projected fields items = items.map view := by
  unfold projected
  split
  · exact ⟨id, fun items => (List.map_id items).symm⟩
  · exact ⟨id, fun items => (List.map_id items).symm⟩
  · exact ⟨_, fun _ => rfl⟩

theorem length_projected (fields : Option (List String)) (items : List Json) :
    (projected fields items).length = items.length := by
  obtain ⟨view, hview⟩ := exists_projected_eq_map fields
  rw [hview, List.length_map]

variable {found : Json} {hits : List Json}

theorem documents_eq_ok (hfound : found.member? "hits" = some (.arr hits))
    (hobjects : ∀ hit ∈ hits, ∃ members, hit = .obj members) :
    documents found = .ok (hits.map documentOf) := by
  have hsource : ∀ hit ∈ hits, ∀ document,
      sourceOf hit = .ok document ↔ True ∧ document = documentOf hit := by
    intro hit hhit document
    obtain ⟨members, rfl⟩ := hobjects hit hhit
    show Except.ok (documentOf (.obj members)) = .ok document ↔ _
    rw [Except.ok.injEq, true_and, eq_comm]
  simp only [documents, bind_eq_ok_iff]
  exact ⟨_, Shaped.member_of_member? hfound, hits, rfl,
    (mapM_eq_ok_iff hsource).mpr ⟨fun _ _ => trivial, rfl⟩⟩

theorem totalHits_eq_ok (hfound : found.member? "hits" = some (.arr hits)) {reported : Option Int}
    (h : Reports found reported) :
    totalHits found = .ok (.int (reported.getD hits.length)) := by
  have hmember := Shaped.member?_of_member? hfound "total"
  simp only [totalHits, hmember, Shaped.member_of_member? hfound]
  cases h with
  | absent h =>
      rw [h]
      rfl
  | null h =>
      rw [h]
      rfl
  | @unvalued members h hvalue =>
      rw [h]
      show Except.ok ((Assoc.find? "value" members).getD _) = _
      rw [hvalue]
      rfl
  | plain h =>
      rw [h]
      rfl
  | @value total n h hvalue =>
      rw [h]
      cases total with
      | obj members =>
          have hfind : Assoc.find? "value" members = some (.int n) := hvalue
          show Except.ok ((Assoc.find? "value" members).getD _) = _
          rw [hfind]
          rfl
      | _ => simp [Json.member?] at hvalue

/-- What is read of the hits alone: all documents, and the total or else their number. -/
theorem ofFetch_eq_ok {response : Json} (hfound : response.member? "hits" = some found)
    (hhits : found.member? "hits" = some (.arr hits))
    (hobjects : ∀ hit ∈ hits, ∃ members, hit = .obj members) {reported : Option Int}
    (hreported : Reports found reported) :
    ofFetch response = .ok
      { count := some (reported.getD hits.length), items := hits.map documentOf } := by
  simp only [ofFetch, bind_eq_ok_iff]
  exact ⟨found, Shaped.member_of_member? hfound, _, documents_eq_ok hhits hobjects, _,
    totalHits_eq_ok hhits hreported, some (reported.getD hits.length), rfl, rfl⟩

/-- What is read for a search: the documents that are shown, their number, the place of the page,
and the facets. -/
theorem ofSearch_eq_ok {p : SearchRequest} {response : Json} {facets : Option (List Facet)}
    (hfound : response.member? "hits" = some found)
    (hhits : found.member? "hits" = some (.arr hits))
    (hobjects : ∀ hit ∈ hits, ∃ members, hit = .obj members)
    (hfacets : Facet.all ((response.member? "aggregations").getD .null) p.facets = .ok facets) :
    ofSearch p response = .ok
      { count := some hits.length
        start := some ((p.page - 1) * p.pageSize + 1)
        limit := some p.pageSize
        items := projected p.fields (hits.map documentOf)
        facets := facets } := by
  have hlength : hits.length = (projected p.fields (hits.map documentOf)).length := by
    rw [length_projected, List.length_map]
  rw [hlength]
  simp only [ofSearch, bind_eq_ok_iff]
  exact ⟨found, Shaped.member_of_member? hfound, _, documents_eq_ok hhits hobjects, facets,
    hfacets, rfl⟩

end ItemList

variable {body : Body} {response : Json} {hits : List Json}

/-- Reading the items alone comes to the documents of all hits. -/
theorem IsAnswer.ofFetch_eq_ok (h : IsAnswer body response hits) :
    ∃ n, ItemList.ofFetch response = .ok { count := some n, items := hits.map documentOf } := by
  obtain ⟨found, hfound, hhits, n, htotal⟩ := h.found
  obtain ⟨reported, hreported, rfl⟩ := htotal.exists_reports
  exact ⟨_, ItemList.ofFetch_eq_ok hfound hhits h.objects hreported⟩

namespace Validator

variable {v : Validator} {raw : RawParams} {p : SearchRequest} {keywordFields : List String}

/-- Reading a page comes to the documents of all hits, projected, whatever was sent for the
facets. -/
theorem Reads.ofSearch_eq_ok (hnames : ∀ f ∈ v.registry.fields, ':' ∉ f.name.toList)
    (hreads : v.Reads raw p)
    (hbody : Compiler.searchBody ⟨v.registry, keywordFields⟩ p = .ok body)
    (h : IsAnswer body response hits) :
    ∃ facets, ItemList.ofSearch p response = .ok
      { count := some hits.length
        start := some ((p.page - 1) * p.pageSize + 1)
        limit := some p.pageSize
        items := ItemList.projected p.fields (hits.map documentOf)
        facets := facets } := by
  obtain ⟨found, hfound, hhits, -⟩ := h.found
  have hfacets : Succeeds (Facet.all ((response.member? "aggregations").getD .null) p.facets) := by
    cases hsent : response.member? "aggregations" with
    | none => exact ⟨none, Facet.all_eq_none (Or.inr rfl)⟩
    | some sent =>
        obtain ⟨members, rfl, hanswers⟩ := h.aggregations _ hsent
        obtain ⟨_, aggregations, _, _, -, haggregations, -, -, rfl⟩ :=
          Compiler.searchBody_eq_ok_iff.mp hbody
        refine Facet.succeeds_all (hreads.facetKind_eq_distances_iff hnames) ?_
        intro facet hfacet w hw
        obtain ⟨a, ha, hkind⟩ := Compiler.exists_aggregation haggregations facet hfacet
        rw [← hkind]
        exact hanswers _ ha w hw
  obtain ⟨facets, hfacets⟩ := hfacets
  exact ⟨facets, ItemList.ofSearch_eq_ok hfound hhits h.objects hfacets⟩

end Validator

end ItemSearch
