import ItemSearch.Proofs.Query.Facets
import ItemSearch.Proofs.Query.Resolution
import ItemSearch.Proofs.Validation.Pages
import ItemSearch.Proofs.Validation.RoundTrip

/-!
Facets of the distances from a place. The place stands behind the name of the coordinates, as
`lat:lon` or as `lat,lon`, and to the compiler both come to the same. But the comma is what
separates the facets of a list, too, and there it comes first: the second spelling asks for the
distances from `lat` and for a facet with the name `lon`, and no field has a numeral for its name.
-/

namespace ItemSearch

namespace Text

/-- What numerals of all kinds are written with: the digits of any script, signs, the point, and
the letter before an exponent. -/
def isNumeralChar (c : Char) : Bool := isDigit c || "+-.eE".toList.contains c

/-- The text is not empty and written with nothing else, as every numeral is. -/
def IsNumeric (s : String) : Prop := s ≠ "" ∧ s.toList.all isNumeralChar = true

instance : DecidablePred IsNumeric := fun s =>
  inferInstanceAs (Decidable (s ≠ "" ∧ s.toList.all isNumeralChar = true))

theorem IsNumeric.not_mem {s : String} (h : IsNumeric s) {c : Char}
    (hc : isNumeralChar c = false) : c ∉ s.toList := by
  intro hmem
  rw [List.all_eq_true.mp h.2 c hmem] at hc
  simp at hc

theorem IsNumeric.colon_not_mem {s : String} (h : IsNumeric s) : ':' ∉ s.toList :=
  h.not_mem (by decide +kernel)

theorem IsNumeric.comma_not_mem {s : String} (h : IsNumeric s) : ',' ∉ s.toList :=
  h.not_mem (by decide +kernel)

theorem IsNumeric.not_ignored {s : String} (h : IsNumeric s) : s ∉ ignoredFields := by
  have hignored : ∀ name ∈ ignoredFields, ¬ IsNumeric name := by decide +kernel
  exact fun hmem => hignored s hmem h

end Text

/-- The name of the facet of distances from a place, with a separator between the numerals. -/
def Registry.placeFacet (r : Registry) (lat : String) (sep : Char) (lon : String) : String :=
  r.coordinates.name ++ ":" ++ (lat ++ String.singleton sep ++ lon)

theorem place_ne_empty {lat lon : String} {sep : Char} :
    lat ++ String.singleton sep ++ lon ≠ "" := by
  intro hempty
  simpa using congrArg String.toList hempty

theorem Registry.placeFacet_ne_empty {r : Registry} {lat lon : String} {sep : Char} :
    r.placeFacet lat sep lon ≠ "" := by
  intro hempty
  simpa [placeFacet] using congrArg String.toList hempty

/-! ### For the compiler -/

namespace Compiler

variable {c : Compiler} {lat lon facet : String} {sep : Char} {size : Int}

theorem placeOf_eq (hlat : Text.IsNumeric lat) (hlon : Text.IsNumeric lon)
    (hsep : sep ∈ [':', ',']) :
    placeOf (lat ++ String.singleton sep ++ lon) = lat ++ "," ++ lon := by
  have hsame : ∀ {s : String}, Text.IsNumeric s →
      s.toList.map (fun ch => if ch = ':' then ',' else ch) = s.toList := by
    intro s hs
    refine (List.map_congr_left fun ch hmem => ?_).trans (List.map_id' _)
    exact if_neg (ne_of_mem_of_not_mem hmem hs.colon_not_mem)
  have hcomma : (if sep = ':' then ',' else sep) = ',' := by
    rcases List.mem_pair.mp hsep with rfl | rfl <;> rfl
  rw [← String.toList_inj]
  simp [placeOf, hsame hlat, hsame hlon, hcomma]

/-- Both spellings of a place ask for the same distances. -/
theorem aggregation_placeFacet (hname : ':' ∉ c.registry.coordinates.name.toList)
    (hlat : Text.IsNumeric lat) (hlon : Text.IsNumeric lon) (hsep : sep ∈ [':', ',']) :
    c.aggregation (c.registry.placeFacet lat sep lon) size =
      .ok (.distances c.registry.coordinates.backendPath (lat ++ "," ++ lon) distanceRanges) := by
  have hbefore : Text.before ':' (c.registry.placeFacet lat sep lon) =
      c.registry.coordinates.name := Text.before_append hname _
  have hafter : Text.after ':' (c.registry.placeFacet lat sep lon) =
      lat ++ String.singleton sep ++ lon := Text.after_append hname _
  have hplace : Text.after ':' (c.registry.placeFacet lat sep lon) ≠ "" := by
    rw [hafter]
    exact place_ne_empty
  rw [aggregation_eq, if_pos ⟨hbefore, hplace⟩, distanceAggregation, hafter,
    placeOf_eq hlat hlon hsep]

theorem aggregations_singleton {a : Aggregation} (h : c.aggregation facet size = .ok a) :
    c.aggregations (some [facet]) size = .ok [(facet, a)] := by
  have hnamed : ([facet].mapM fun facet => do return (facet, ← c.aggregation facet size)) =
      (.ok [(facet, a)] : Except UnknownField (List (String × Aggregation))) := by
    rw [List.mapM_cons, h]
    rfl
  rw [aggregations, Option.getD_some, hnamed]
  rfl

end Compiler

/-! ### For the validator -/

namespace Validator

variable {v : Validator} {raw : RawParams} {p : SearchRequest} {lat lon s : String}

/-- A list of two entries, the second of which is not accepted. -/
theorem fieldList_eq_refuse {accepted : String → Bool} {param first second : String}
    (hlist : Text.splitOn ',' s = [first, second]) (hfirst : first ∉ ignoredFields)
    (haccepted : accepted first = true) (hsecond : second ∉ ignoredFields)
    (hrefused : ¬ accepted second = true) :
    fieldList accepted param s = refuse (.listEntry second param) := by
  have hentries : checkEntries accepted param [first, second] =
      refuse (.listEntry second param) := by
    rw [checkEntries, if_neg hfirst, if_pos haccepted, checkEntries, if_neg hsecond,
      if_neg hrefused]
    rfl
  rw [fieldList, hlist, hentries]
  rfl

theorem knows_facets (h : v.Knows raw) : v.Knows (("facets", s) :: raw) := by
  intro name hmem
  rcases List.mem_cons.mp hmem with rfl | hmem
  · exact Or.inr (show "facets" ∈ controlParams by decide)
  · exact h name hmem

theorem agreeExcept_facets : raw.AgreeExcept "facets" (("facets", s) :: raw) := by
  intro name hname
  have hne : "facets" ≠ name := fun heq => hname heq.symm
  simp [RawParams.value?, Assoc.find?, hne]

/-- Facets in front of all parameters are the ones that count. -/
theorem value?_facets (hs : s ≠ "") : RawParams.value? (("facets", s) :: raw) "facets" = some s :=
  RawParams.value?_eq_some_iff.mpr ⟨by simp [Assoc.find?], hs⟩

/-- An accepted search stays accepted with other facets that are. -/
theorem search_withFacets (hname : "facets" ∉ v.registry.searchableNames)
    (hp : v.search raw = .ok p) {facets : List String} (hs : s ≠ "")
    (hfacets : ListReads v.IsFacet s (some facets)) :
    v.search (("facets", s) :: raw) = .ok { p with facets := some facets } := by
  obtain ⟨hknows, hreads⟩ := search_eq_ok_iff.mp hp
  have hsays : RawParams.Says (("facets", s) :: raw) "facets" (ListReads v.IsFacet) none
      (some facets) := .given (value?_facets hs) hfacets
  exact search_eq_ok_iff.mpr
    ⟨knows_facets hknows, hreads.withFacets hname agreeExcept_facets hsays⟩

/-- Facets are checked before all that could be wrong with a search that is accepted otherwise. -/
theorem search_eq_error_of_facets (hp : v.search raw = .ok p) (hs : s ≠ "") {violation : Violation}
    (hfacets : fieldList v.acceptsFacet "facets" s = refuse violation) :
    v.search (("facets", s) :: raw) = .error (.fault (.invalid violation)) := by
  obtain ⟨hknows, hreads⟩ := search_eq_ok_iff.mp hp
  have hexact := hreads.exactFieldMatch.congr (agreeExcept_facets (s := s) _ (by decide))
  have hrefused : v.facets (("facets", s) :: raw) = refuse violation := by
    rw [Validator.facets, param, value?_facets hs]
    exact hfacets
  have hcheck : v.checkSearch (("facets", s) :: raw) = refuse violation := by
    refine bind_eq_error_iff.mpr (Or.inr ⟨_, param_boolean_eq_ok_iff.mpr hexact, ?_⟩)
    exact bind_eq_error_iff.mpr (Or.inl hrefused)
  rw [search, knows_iff.mp (knows_facets hknows)]
  exact mapError_eq_error_iff.mpr ⟨_, hcheck, rfl⟩

section

variable {origin : String}

theorem not_ignored_place : v.registry.coordinates.name ++ ":" ++ origin ∉ ignoredFields := by
  have hplain : ∀ name ∈ ignoredFields, ':' ∉ name.toList := by decide
  intro hmem
  exact hplain _ hmem (by simp)

theorem isFacet_place (hcolon : ':' ∉ v.registry.coordinates.name.toList) (horigin : origin ≠ "") :
    v.IsFacet (v.registry.coordinates.name ++ ":" ++ origin) :=
  Or.inr ⟨hcolon, origin, rfl, horigin⟩

end

/-- A text that is written like a numeral is no place behind the name of the coordinates. -/
theorem isFacet_numeric_iff (hlon : Text.IsNumeric lon) :
    v.IsFacet lon ↔ v.registry.isFacetable lon = true := by
  refine or_iff_left ?_
  rintro ⟨-, origin, rfl, -⟩
  exact hlon.colon_not_mem (by simp)

theorem listReads_colon (hcolon : ':' ∉ v.registry.coordinates.name.toList)
    (hcomma : ',' ∉ v.registry.coordinates.name.toList) (hlat : Text.IsNumeric lat)
    (hlon : Text.IsNumeric lon) :
    ListReads v.IsFacet (v.registry.placeFacet lat ':' lon)
      (some [v.registry.placeFacet lat ':' lon]) := by
  have hjoin : Text.join "," [v.registry.placeFacet lat ':' lon] =
      v.registry.placeFacet lat ':' lon := by
    simp [Text.join, Text.joinChars]
  have hfree : ',' ∉ (v.registry.placeFacet lat ':' lon).toList := by
    simp [Registry.placeFacet, hcomma, hlat.comma_not_mem, hlon.comma_not_mem]
  have hlist : ListReads v.IsFacet (Text.join "," [v.registry.placeFacet lat ':' lon])
      (some [v.registry.placeFacet lat ':' lon]) := by
    refine .of_entries (List.cons_ne_nil _ _) ?_ ?_ ?_ <;> rw [List.forall_mem_singleton]
    · exact hfree
    · exact not_ignored_place
    · exact isFacet_place hcolon place_ne_empty
  rwa [hjoin] at hlist

theorem join_comma :
    Text.join "," [v.registry.coordinates.name ++ ":" ++ lat, lon] =
      v.registry.placeFacet lat ',' lon := by
  rw [← String.toList_inj]
  simp [Text.join, Text.joinChars, Registry.placeFacet]

section

variable (hcomma : ',' ∉ v.registry.coordinates.name.toList) (hlat : Text.IsNumeric lat)
  (hlon : Text.IsNumeric lon)

include hcomma hlat hlon

/-- No entry holds a comma any more. -/
theorem comma_not_mem_entries :
    ∀ entry ∈ [v.registry.coordinates.name ++ ":" ++ lat, lon], ',' ∉ entry.toList := by
  rw [List.forall_mem_cons, List.forall_mem_singleton]
  refine ⟨?_, hlon.comma_not_mem⟩
  simp [hcomma, hlat.comma_not_mem]

theorem splitOn_comma :
    Text.splitOn ',' (v.registry.placeFacet lat ',' lon) =
      [v.registry.coordinates.name ++ ":" ++ lat, lon] := by
  rw [← join_comma]
  exact Text.splitOn_join (List.cons_ne_nil _ _) (comma_not_mem_entries hcomma hlat hlon)

theorem listReads_comma (hcolon : ':' ∉ v.registry.coordinates.name.toList)
    (hfacetable : v.registry.isFacetable lon = true) :
    ListReads v.IsFacet (v.registry.placeFacet lat ',' lon)
      (some [v.registry.coordinates.name ++ ":" ++ lat, lon]) := by
  rw [← join_comma]
  refine .of_entries (List.cons_ne_nil _ _) (comma_not_mem_entries hcomma hlat hlon) ?_ ?_ <;>
    rw [List.forall_mem_cons, List.forall_mem_singleton]
  · exact ⟨not_ignored_place, hlon.not_ignored⟩
  · exact ⟨isFacet_place hcolon hlat.1, Or.inl hfacetable⟩

theorem fieldList_comma (hcolon : ':' ∉ v.registry.coordinates.name.toList)
    (hfacetable : ¬ v.registry.isFacetable lon = true) :
    fieldList v.acceptsFacet "facets" (v.registry.placeFacet lat ',' lon) =
      refuse (.listEntry lon "facets") := by
  refine fieldList_eq_refuse (splitOn_comma hcomma hlat hlon) not_ignored_place
    (acceptsFacet_iff.mpr (isFacet_place hcolon hlat.1)) hlon.not_ignored ?_
  rwa [acceptsFacet_iff, isFacet_numeric_iff hlon]

end

/-- The body of a search for one facet asks for the one aggregation that counts it. -/
theorem Reads.exists_body_of_facet {c : Compiler} (hc : c.registry = v.registry)
    (h : v.Reads raw p) {facet : String} {a : Aggregation} (hfacets : p.facets = some [facet])
    (ha : c.aggregation facet p.facetSize = .ok a) :
    ∃ body, c.searchBody p = .ok body ∧ body.aggregations = some [(facet, a)] := by
  have hresolves : c.Resolves p := by
    refine h.resolves_of_facets hc ?_
    rw [hfacets, Option.getD_some, List.forall_mem_singleton]
    exact Compiler.succeeds_aggregation_iff.mp ⟨a, ha⟩
  obtain ⟨body, hbody⟩ := Compiler.succeeds_searchBody_iff.mpr hresolves
  obtain ⟨_, aggregations, _, _, -, haggregations, -, -, hparts⟩ :=
    Compiler.searchBody_eq_ok_iff.mp hbody
  rw [hfacets, Compiler.aggregations_singleton ha, Except.ok.injEq] at haggregations
  exact ⟨body, hbody, by rw [hparts, haggregations]⟩

/-- No field of the item index that can be counted has a numeral for its name. -/
theorem not_isFacetable_numeric (hlon : Text.IsNumeric lon) :
    Profile.registry.isFacetable lon = false := by
  have hnames : ∀ f ∈ Profile.registry.fields, f.facetable = true → ¬ Text.IsNumeric f.name := by
    decide +kernel
  rw [← Bool.not_eq_true, Registry.isFacetable, Registry.any_find?_iff]
  rintro ⟨f, hf, rfl, hflag⟩
  exact hnames f hf hflag hlon

/-- To the compiler the separators of a place make no difference. To the validator a place with a
colon is one facet, and the body asks for its distances; a place with a comma is two facets, and a
search that is accepted without them is refused, unless a field that can be counted has the second
numeral for its name. In the item index no field has. -/
theorem place_facets_of_accepted (hcolon : ':' ∉ v.registry.coordinates.name.toList)
    (hcomma : ',' ∉ v.registry.coordinates.name.toList)
    (hfacets : "facets" ∉ v.registry.searchableNames) (hlat : Text.IsNumeric lat)
    (hlon : Text.IsNumeric lon) (keywordFields : List String) :
    (∀ sep ∈ [':', ','], ∀ size,
      Compiler.aggregation ⟨v.registry, keywordFields⟩ (v.registry.placeFacet lat sep lon) size =
        .ok (.distances v.registry.coordinates.backendPath (lat ++ "," ++ lon)
          Compiler.distanceRanges)) ∧
    (∀ raw p, v.search raw = .ok p →
      (v.search (("facets", v.registry.placeFacet lat ':' lon) :: raw) =
          .ok { p with facets := some [v.registry.placeFacet lat ':' lon] } ∧
        ∃ body, Compiler.searchBody ⟨v.registry, keywordFields⟩
            { p with facets := some [v.registry.placeFacet lat ':' lon] } = .ok body ∧
          body.aggregations = some [(v.registry.placeFacet lat ':' lon,
            .distances v.registry.coordinates.backendPath (lat ++ "," ++ lon)
              Compiler.distanceRanges)]) ∧
      v.search (("facets", v.registry.placeFacet lat ',' lon) :: raw) =
        if v.registry.isFacetable lon then
          .ok { p with facets := some [v.registry.coordinates.name ++ ":" ++ lat, lon] }
        else .error (.fault (.invalid (.listEntry lon "facets")))) ∧
    Profile.registry.isFacetable lon = false := by
  have hdistances : ∀ sep ∈ [':', ','], ∀ size,
      Compiler.aggregation ⟨v.registry, keywordFields⟩ (v.registry.placeFacet lat sep lon) size =
        .ok (.distances v.registry.coordinates.backendPath (lat ++ "," ++ lon)
          Compiler.distanceRanges) :=
    fun sep hsep size => Compiler.aggregation_placeFacet hcolon hlat hlon hsep
  refine ⟨hdistances, fun raw p hp => ⟨?_, ?_⟩, not_isFacetable_numeric hlon⟩
  · have hsearch := search_withFacets hfacets hp Registry.placeFacet_ne_empty
      (listReads_colon hcolon hcomma hlat hlon)
    exact ⟨hsearch, (search_eq_ok_iff.mp hsearch).2.exists_body_of_facet rfl rfl
      (hdistances ':' (by simp) _)⟩
  · split
    · next hfacetable =>
        exact search_withFacets hfacets hp Registry.placeFacet_ne_empty
          (listReads_comma hcomma hlat hlon hcolon hfacetable)
    · next hfacetable =>
        exact search_eq_error_of_facets hp Registry.placeFacet_ne_empty
          (fieldList_comma hcomma hlat hlon hcolon hfacetable)

/-- Maps around Boston. -/
theorem place_facets_of_boston :
    search ⟨Profile.registry, 500, .sample⟩
        [("facets", "sourceResource.spatial.coordinates:42.3:-71.1"), ("q", "maps")] = .ok
        { q := some "maps", facets := some ["sourceResource.spatial.coordinates:42.3:-71.1"] } ∧
      (∃ body, Compiler.searchBody (Compiler.of Profile.registry)
          { q := some "maps", facets := some ["sourceResource.spatial.coordinates:42.3:-71.1"] } =
            .ok body ∧
        body.aggregations = some [("sourceResource.spatial.coordinates:42.3:-71.1",
          .distances "sourceResource.spatial.coordinates" "42.3,-71.1" Compiler.distanceRanges)]) ∧
      search ⟨Profile.registry, 500, .sample⟩
        [("facets", "sourceResource.spatial.coordinates:42.3,-71.1"), ("q", "maps")] =
          .error (.fault (.invalid (.listEntry "-71.1" "facets"))) := by
  have hmaps : search ⟨Profile.registry, 500, .sample⟩ [("q", "maps")] = .ok { q := some "maps" } :=
    toOption_eq_some_iff.mp (by decide +kernel)
  have hlon : Text.IsNumeric "-71.1" := by decide +kernel
  obtain ⟨-, hsearch, -⟩ := place_facets_of_accepted (v := ⟨Profile.registry, 500, .sample⟩)
    (by decide) (by decide) (by decide +kernel) (by decide +kernel : Text.IsNumeric "42.3") hlon
    Compiler.itemKeywordFields
  obtain ⟨⟨haccepted, hbody⟩, hcomma⟩ := hsearch _ _ hmaps
  rw [not_isFacetable_numeric hlon, if_neg (by decide)] at hcomma
  exact ⟨haccepted, hbody, hcomma⟩

/-- The place of the second spelling falls apart at its comma. -/
theorem comma_place_refused :
    Text.IsNumeric "42.3" ∧ Text.IsNumeric "-71.1" ∧ ¬ ∃ p, search ⟨Profile.registry, 500, .sample⟩
      [("facets", "sourceResource.spatial.coordinates:42.3,-71.1")] = .ok p := by
  have hlon : Text.IsNumeric "-71.1" := by decide +kernel
  refine ⟨by decide +kernel, hlon, ?_⟩
  rintro ⟨p, hp⟩
  have hsays := (search_eq_ok_iff.mp hp).2.facets
  rw [RawParams.says_some (value?_facets (by decide))] at hsays
  rcases hsays.accepted "-71.1" (by decide) with hignored | hfacet
  · exact hlon.not_ignored hignored
  · rw [isFacet_numeric_iff hlon, not_isFacetable_numeric hlon] at hfacet
    simp at hfacet

end Validator

end ItemSearch
