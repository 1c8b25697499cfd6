import ItemSearch.Proofs.Response.Answer
import ItemSearch.Proofs.Response.Projection

/-!
A whole response and the answer that is made of it. `IsResponse` says what the backend may send:
hits, with their total or without, and what it counted under any names. The answer shows each hit by
its document or a projection of it, and each bucket by its members that are not null, all of them in
the order in which they were sent. For items that were asked for by themselves it holds their number
and the documents, and for a search the place of the page, too.
-/

namespace ItemSearch

/-- The document has those of the fields that something is read for, each once, and where it first
comes among the fields; its values are what is read. -/
def IsProjection (fields : List String) (document doc : Json) : Prop :=
  ∃ members, doc = .obj members ∧ (members.map Prod.fst).Nodup ∧
    members.map Prod.fst =
      (fields.filter fun field => (readPath (segments field) document).isSome).eraseDups ∧
    ∀ field v, (field, v) ∈ members ↔
      field ∈ fields ∧ readPath (segments field) document = some v

theorem isProjection_project (fields : List String) (document : Json) :
    IsProjection fields document (project document fields) := by
  have hkeys : (fields.filterMap fun field =>
      (readPath (segments field) document).map fun v => (field, v)).map Prod.fst =
      fields.filter fun field => (readPath (segments field) document).isSome := by
    induction fields with
    | nil => rfl
    | cons field fields ih =>
        cases hread : readPath (segments field) document with
        | none => simp [hread, ih]
        | some v => simp [hread, ih]
  have hnodup := Assoc.nodup_keys_ofList (fields.filterMap fun field =>
    (readPath (segments field) document).map fun v => (field, v))
  refine ⟨_, rfl, hnodup, by rw [Assoc.keys_ofList, hkeys], fun field v => ?_⟩
  rw [← Assoc.find?_eq_some_iff_mem hnodup]
  have hmember := member?_project document fields field
  rw [project, Json.member?] at hmember
  rw [hmember]
  split
  · next hfield => exact (and_iff_right hfield).symm
  · next hfield => simp [hfield]

/-! ### What is sent -/

/-- The response holds the hits, their total if it reports one, and what was counted, which is
nothing or buckets for each of the names. -/
structure IsResponse (response : Json) (hits : List Json) (reported : Option Int)
    (aggregations : List (String × Json)) : Prop where
  found : ∃ found, response.member? "hits" = some found ∧
    found.member? "hits" = some (.arr hits) ∧ Reports found reported
  objects : ∀ hit ∈ hits, ∃ members, hit = .obj members
  counted : (response.member? "aggregations").getD .null = .obj aggregations ∨
    aggregations = [] ∧ (response.member? "aggregations").getD .null = .null
  answers : ∀ name v, Assoc.find? name aggregations = some v →
    v = .null ∨ ∃ kind : FacetKind, kind.IsAnsweredBy v

/-! ### What is shown -/

/-- What is shown of a hit for a request for these fields: its document if there are none of them,
and else the projection onto them. -/
structure ShowsHit (fields : Option (List String)) (hit doc : Json) : Prop where
  whole : fields.getD [] = [] → doc = documentOf hit
  projected : fields.getD [] ≠ [] → IsProjection (fields.getD []) (documentOf hit) doc

theorem showsHit_projected (fields : Option (List String)) (hits : List Json) :
    List.Forall₂ (ShowsHit fields) hits (ItemList.projected fields (hits.map documentOf)) := by
  unfold ItemList.projected
  split
  · exact List.forall₂_map_right_iff.mpr
      (List.forall₂_same.mpr fun _ _ => ⟨fun _ => rfl, fun h => absurd rfl h⟩)
  · exact List.forall₂_map_right_iff.mpr
      (List.forall₂_same.mpr fun _ _ => ⟨fun _ => rfl, fun h => absurd rfl h⟩)
  · next names hne =>
      rw [List.map_map, List.forall₂_map_right_iff]
      refine List.forall₂_same.mpr fun hit _ => ⟨fun hnil => ?_, fun _ => ?_⟩
      · exact absurd hnil (by simpa using hne)
      · exact isProjection_project names (documentOf hit)

namespace Facet

/-- A facet is shown for what was counted under a name, with all buckets of it. -/
def IsShownAs (name : String) (v shown : Json) : Prop :=
  ∃ kind field counted buckets, Counted name v kind field counted ∧ ShowsBuckets counted buckets ∧
    shown = .obj [("field", .str field), ("type", .str kind.word), ("buckets", .arr buckets),
      ("bucketsLabel", .str kind.bucketsLabel)]

theorem exists_counted {v : Json} (h : ∃ kind : FacetKind, kind.IsAnsweredBy v) (name : String) :
    ∃ kind field counted, Counted name v kind field counted ∧ HoldsBuckets counted := by
  have hplain : v.member? "facet" = none → HoldsBuckets v →
      ∃ kind field counted, Counted name v kind field counted ∧ HoldsBuckets counted := by
    intro hfacet hbuckets
    by_cases hplace : Text.after ':' name = ""
    · exact ⟨_, _, _, .terms hfacet hplace, hbuckets⟩
    · exact ⟨_, _, _, .distances hfacet hplace, hbuckets⟩
  obtain ⟨kind, hanswer⟩ := h
  cases kind with
  | terms => exact hplain hanswer.1 hanswer.2
  | distances => exact hplain hanswer.1 hanswer.2
  | dates =>
      obtain ⟨counted, hfacet, hbuckets⟩ := hanswer
      exact ⟨_, _, _, .dates hfacet, hbuckets⟩

theorem exists_ofNamed {v : Json} (h : ∃ kind : FacetKind, kind.IsAnsweredBy v) (name : String) :
    ∃ m, ofNamed name v = .ok m ∧ IsShownAs name v m.toJson := by
  obtain ⟨kind, field, counted, hcounted, hbuckets⟩ := exists_counted h name
  obtain ⟨buckets, hread, hshown⟩ := hcounted.exists_ofNamed hbuckets
  exact ⟨_, hread, kind, field, counted, _, hcounted, hshown, rfl⟩

end Facet

/-- The answer made of a response loses nothing of it, adds nothing, and keeps its order. -/
theorem response_shown {response : Json} {hits : List Json} {reported : Option Int}
    {aggregations : List (String × Json)}
    (h : IsResponse response hits reported aggregations) (p : SearchRequest) :
    (∃ l, ItemList.ofFetch response = .ok l ∧ l.toJson = .obj
      [("count", .int (reported.getD hits.length)), ("docs", .arr (hits.map documentOf))]) ∧
    ∃ l docs, ItemList.ofSearch p response = .ok l ∧
      List.Forall₂ (ShowsHit p.fields) hits docs ∧
      (p.facets.getD [] = [] ∨ aggregations = [] → l.toJson = .obj
        [("count", .int docs.length), ("start", .int ((p.page - 1) * p.pageSize + 1)),
         ("limit", .int p.pageSize), ("docs", .arr docs)]) ∧
      (p.facets.getD [] ≠ [] → aggregations ≠ [] → ∃ facets,
        List.Forall₂ (fun name facet => ∃ v, Assoc.find? name aggregations = some v ∧
            Facet.IsShownAs name v facet)
          ((p.facets.getD []).filter (Facet.isSent aggregations)) facets ∧
        l.toJson = .obj
          [("count", .int docs.length), ("start", .int ((p.page - 1) * p.pageSize + 1)),
           ("limit", .int p.pageSize), ("docs", .arr docs), ("facets", .arr facets)]) := by
  obtain ⟨found, hfound, hhits, hreported⟩ := h.found
  have hlength : hits.length = (ItemList.projected p.fields (hits.map documentOf)).length := by
    rw [ItemList.length_projected, List.length_map]
  refine ⟨⟨_, ItemList.ofFetch_eq_ok hfound hhits h.objects hreported, rfl⟩, ?_⟩
  by_cases hnone : p.facets.getD [] = [] ∨ aggregations = []
  · have hempty : p.facets.getD [] = [] ∨
        ((response.member? "aggregations").getD .null).isEmpty = true := by
      refine hnone.imp_right fun hnil => ?_
      rcases h.counted with hsent | ⟨-, hsent⟩ <;> rw [hsent]
      · rw [hnil]
        rfl
      · rfl
    refine ⟨_, _, ItemList.ofSearch_eq_ok hfound hhits h.objects (Facet.all_eq_none hempty),
      showsHit_projected p.fields hits, fun _ => ?_, fun hnames haggs => ?_⟩
    · rw [← hlength]
      rfl
    · exact absurd hnone (not_or.mpr ⟨hnames, haggs⟩)
  · obtain ⟨hnames, haggs⟩ := not_or.mp hnone
    have hsent := h.counted.resolve_right fun hnil => haggs hnil.1
    have hread : ∀ name ∈ p.facets.getD [], ∀ v, Assoc.find? name aggregations = some v →
        v = .null ∨ ∃ m, Facet.ofNamed name v = .ok m ∧ Facet.IsShownAs name v m.toJson :=
      fun name _ v hv => (h.answers name v hv).imp_right (Facet.exists_ofNamed · name)
    obtain ⟨mapped, hmapped, heach⟩ := Facet.exists_listOf hread
    have hall : Facet.all ((response.member? "aggregations").getD .null) p.facets =
        .ok (some mapped) := by
      rw [hsent]
      cases hfacets : p.facets with
      | none => simp [hfacets] at hnames
      | some names =>
          rw [hfacets] at hnames hmapped
          exact Facet.all_of_listOf hnames haggs hmapped
    refine ⟨_, _, ItemList.ofSearch_eq_ok hfound hhits h.objects hall,
      showsHit_projected p.fields hits, fun hnone' => absurd hnone' hnone, fun _ _ =>
        ⟨mapped.map Facet.toJson, List.forall₂_map_right_iff.mpr heach, ?_⟩⟩
    rw [← hlength]
    rfl

/-- Two hits, one of them without a document, a field that is asked for twice, and four facets, of
which one comes twice, one was counted null and one was not counted. -/
theorem response_shown_of_two_hits :
    ∃ response hits aggregations,
      hits = [.obj [("_source", .obj [("id", .str "1"),
          ("sourceResource", .obj [("title", .arr [.str "Map of Boston"])])])],
        .obj [("_id", .str "2")]] ∧
      aggregations =
        [("provider.name", .obj [("buckets", .arr [.obj [("key", .str "NARA"),
            ("key_as_string", .null), ("doc_count", .int 4)]])]),
         ("sourceResource.date.begin.year", .null),
         ("sourceResource.spatial.coordinates:42:-71", .obj [("buckets", .arr [.obj
            [("key", .str "0.0-*"), ("from", .int 0), ("doc_count", .int 1)]])])] ∧
      response = .obj [("hits", .obj [("total", .obj [("value", .int 7)]), ("hits", .arr hits)]),
        ("aggregations", .obj aggregations)] ∧
      IsResponse response hits (some 7) aggregations ∧
      (∃ l, ItemList.ofFetch response = .ok l ∧ l.toJson = .obj
        [("count", .int 7), ("docs", .arr (hits.map documentOf))]) ∧
      ∃ l docs facets,
        ItemList.ofSearch
          { page := 3, pageSize := 2
            fields := some ["sourceResource.title", "id", "sourceResource.title"]
            facets := some ["provider.name", "sourceResource.date.begin.year", "provider.name",
              "sourceResource.spatial.coordinates:42:-71", "sourceResource.type"] }
          response = .ok l ∧
        List.Forall₂ (ShowsHit (some ["sourceResource.title", "id", "sourceResource.title"]))
          hits docs ∧
        List.Forall₂ (fun name facet => ∃ v, Assoc.find? name aggregations = some v ∧
            Facet.IsShownAs name v facet)
          ["provider.name", "provider.name", "sourceResource.spatial.coordinates:42:-71"]
          facets ∧
        l.toJson = .obj [("count", .int docs.length), ("start", .int 5), ("limit", .int 2),
          ("docs", .arr docs), ("facets", .arr facets)] := by
  refine ⟨_, _, _, rfl, rfl, rfl, ?_⟩
  have hnara : Bucket.IsSent
      [("key", .str "NARA"), ("key_as_string", .null), ("doc_count", .int 4)] := by
    constructor <;> simp [Bucket.Part, Assoc.find?]
  have hzero : ∃ x, Binary64.ofInt? 0 = some x := ⟨Binary64.zero false, by decide⟩
  have hnear : Bucket.IsSent
      [("key", .str "0.0-*"), ("from", .int 0), ("doc_count", .int 1)] := by
    constructor <;> simp [Bucket.Part, Bucket.IsDistance, Assoc.find?, hzero]
  refine (and_iff_left_of_imp fun hresponse => ?_).mpr ?_
  · obtain ⟨hfetch, l, docs, hl, hdocs, -, hfacets⟩ := response_shown hresponse
      { page := 3, pageSize := 2
        fields := some ["sourceResource.title", "id", "sourceResource.title"]
        facets := some ["provider.name", "sourceResource.date.begin.year", "provider.name",
          "sourceResource.spatial.coordinates:42:-71", "sourceResource.type"] }
    obtain ⟨facets, heach, hjson⟩ := hfacets (List.cons_ne_nil _ _) (List.cons_ne_nil _ _)
    exact ⟨hfetch, l, docs, facets, hl, hdocs, heach, hjson⟩
  · refine ⟨⟨_, rfl, rfl, .value rfl rfl⟩, by simp, Or.inl rfl, fun name v hv => ?_⟩
    have hsent := Assoc.mem_values_of_find? hv
    simp only [List.map_cons, List.map_nil, List.mem_cons, List.not_mem_nil, or_false] at hsent
    rcases hsent with rfl | rfl | rfl
    · exact Or.inr ⟨.terms, rfl, _, rfl, by simpa using hnara⟩
    · exact Or.inl rfl
    · exact Or.inr ⟨.distances, rfl, _, rfl, by simpa using hnear⟩

end ItemSearch
