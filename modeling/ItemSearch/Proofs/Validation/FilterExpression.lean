import ItemSearch.Proofs.Text.Joined
import ItemSearch.Proofs.Validation.RoundTrip

/-!
Filter expressions and the conditions that are read off them. An expression is the name of a field,
a colon, and values with AND between blanks from each to the next; both kinds of requests read it
in the same way. Values that fit the field are found again however many blanks are written around
them, AND as a value of its own included, as long as AND splits none of them and none but the last
ends with it behind a blank. In turn the values of an accepted expression can be written with
single blanks, and are read off that again.
-/

namespace ItemSearch

open Text

/-- A value that a filter can ask for in a field of the type. -/
structure IsFilterValue (urls : Url.Check) (type : FieldType) (value : String) : Prop where
  trimmed : trim value = value
  fits : Rule.Fits urls type value
  noOperator : ¬ HasOperator "AND".toList value.toList

section

variable {urls : Url.Check} {type : FieldType}

namespace Rule

theorem not_isUrl_nil : ¬ IsUrl urls [] := by
  rw [← accepts_unquoted_iff, Bool.not_eq_true]
  exact Url.Check.not_accepts_nil

/-- No field has an empty value. -/
theorem Fits.ne_empty {value : String} (h : Fits urls type value) : value ≠ "" := by
  rintro rfl
  cases type with
  | url => exact not_isUrl_nil h
  | date => exact absurd (isDateChars_iff.mpr h) (by decide)
  | text => exact absurd h.1 (by decide)
  | wildcard => exact absurd h.1 (by decide)
  | coordinates => exact absurd h.1 (by decide)

end Rule

theorem IsFilterValue.solid {value : String} (h : IsFilterValue urls type value) :
    Solid value.toList :=
  solid_of_trimChars_eq (by simpa [trim] using congrArg String.toList h.trimmed)
    (by simpa using h.fits.ne_empty)

/-! ### The values of an expression -/

/-- Values that are joined by AND are found again, with any blanks around them. -/
theorem areValues_of_joined {values : List String} {before text after : List Char}
    (hvalues : ∀ value ∈ values, IsFilterValue urls type value)
    (hend : ∀ value ∈ values.dropLast, ¬ EndsInWord "AND".toList value.toList)
    (hjoined : Joined "AND".toList text (values.map String.toList))
    (hbefore : ∀ c ∈ before, isBlank c = true) (hafter : ∀ c ∈ after, isBlank c = true) :
    AreValues (String.ofList (before ++ (text ++ after))) values := by
  have hsolid : ∀ piece ∈ values.map String.toList, Solid piece :=
    List.forall_mem_map.mpr fun value hmem => (hvalues value hmem).solid
  have hop : ∀ piece ∈ values.map String.toList, ¬ HasOperator "AND".toList piece :=
    List.forall_mem_map.mpr fun value hmem => (hvalues value hmem).noOperator
  have hend' : ∀ piece ∈ (values.map String.toList).dropLast, ¬ EndsInWord "AND".toList piece := by
    rw [← List.map_dropLast]
    exact List.forall_mem_map.mpr hend
  have htrim : trimChars (String.ofList (before ++ (text ++ after))).toList = text := by
    rw [String.toList_ofList]
    exact (hjoined.solid hsolid).trimChars_eq hbefore hafter
  rw [AreValues, htrim]
  exact hjoined.toPieces_of_closed hsolid hop hend'

theorem AreValues.isFilterValue {text : String} {values : List String}
    (h : AreValues text values) (hfits : ∀ value ∈ values, Rule.Fits urls type value) :
    ∀ value ∈ values, IsFilterValue urls type value := by
  intro value hmem
  have hpiece := List.mem_map_of_mem (f := String.toList) hmem
  refine ⟨?_, hfits value hmem, h.not_hasOperator _ hpiece⟩
  rw [trim, h.trimChars_of_mem _ hpiece, String.ofList_toList]

end

namespace FilterReads

variable {urls : Url.Check} {r : Registry} {e : String} {conditions : List Condition}

theorem ne_empty (h : FilterReads urls r e conditions) : e ≠ "" := by
  obtain ⟨f, -, -, -, text, values, rfl, -⟩ := h
  intro hempty
  simpa using congrArg String.toList hempty

/-- An expression names a searchable field in front of its first colon. -/
theorem exists_name (h : FilterReads urls r e conditions) :
    ∃ name text, e = name ++ ":" ++ text ∧ ':' ∉ name.toList ∧ r.isSearchable name = true := by
  obtain ⟨f, hf, hsearchable, hcolon, text, -, he, -⟩ := h
  exact ⟨f.name, text, he, hcolon, Registry.any_find?_iff.mpr ⟨f, hf, rfl, hsearchable⟩⟩

theorem unique {others : List Condition} (h : FilterReads urls r e conditions)
    (h' : FilterReads urls r e others) : conditions = others := by
  have hconditions := Validator.filterOf_eq_ok_iff (v := ⟨r, 0, urls⟩) |>.mpr h
  have hothers := Validator.filterOf_eq_ok_iff (v := ⟨r, 0, urls⟩) |>.mpr h'
  exact Except.ok.inj (hconditions.symm.trans hothers)

end FilterReads

namespace Validator

variable {v : Validator} {raw : RawParams} {e : String} {conditions : List Condition}

/-- The expression is read as these conditions: by a search and by a request for a random item that
ask for nothing else, and by every request that is accepted with it. -/
structure TakesFilter (v : Validator) (e : String) (conditions : List Condition) : Prop where
  search : v.search [("filter", e)] = .ok { filter := some conditions }
  random : v.random [("filter", e)] = .ok { filter := some conditions }
  besides : ∀ raw, RawParams.value? raw "filter" = some e →
    (∀ p, v.search raw = .ok p → p.filter = some conditions) ∧
      ∀ p, v.random raw = .ok p → p.filter = some conditions

/-- The conditions of a filter are about one searchable field and ask for values of it, and they
are read off the expression that has single blanks around each AND. -/
def CanBeWritten (v : Validator) (filter : Option (List Condition)) : Prop :=
  ∃ f ∈ v.registry.fields, f.searchable = true ∧ ∃ values, values ≠ [] ∧
    (∀ value ∈ values, IsFilterValue v.urls f.type value) ∧
    filter = some (values.map (Condition.mk f.name)) ∧
    v.TakesFilter (f.name ++ ":" ++ join " AND " values) (values.map (Condition.mk f.name))

theorem value?_filter (he : e ≠ "") : RawParams.value? [("filter", e)] "filter" = some e :=
  RawParams.value?_eq_some_iff.mpr ⟨by simp [Assoc.find?], he⟩

/-- Where no searchable field is called as the parameter is, nothing is read off a filter that is
given alone but its conditions. -/
theorem reads_filter (hfree : ∀ f ∈ v.registry.fields, f.searchable = true → f.name ≠ "filter")
    (h : FilterReads v.urls v.registry e conditions) :
    v.Reads [("filter", e)] { filter := some conditions } := by
  have hnone : ∀ name, name ≠ "filter" → RawParams.value? [("filter", e)] name = none :=
    fun name hname => RawParams.value?_singleton_of_ne hname
  have hunasked : ∀ name ∈ v.registry.searchableNames,
      RawParams.value? [("filter", e)] name = none := by
    intro name hname
    obtain ⟨f, hmem, rfl, hsearchable⟩ := Registry.mem_searchableNames_iff.mp hname
    exact hnone f.name (hfree f hmem hsearchable)
  exact {
    exactFieldMatch := .absent (hnone _ (by decide))
    facets := .absent (hnone _ (by decide))
    facetSize := .absent (hnone _ (by decide))
    fields := .absent (hnone _ (by decide))
    fieldQueries := by
      rw [givenConditions, eq_comm, List.filterMap_eq_nil_iff]
      intro name hname
      rw [hunasked name hname, Option.map_none]
    valuesFit := by
      intro f hf hsearchable s hs
      rw [hnone f.name (hfree f hf hsearchable)] at hs
      simp at hs
    filter := .given (value?_filter h.ne_empty) ⟨conditions, h, rfl⟩
    op := .absent (hnone _ (by decide))
    page := .absent (hnone _ (by decide))
    pageSize := .absent (hnone _ (by decide))
    q := .absent (hnone _ (by decide))
    sortBy := .absent (hnone _ (by decide))
    sortByPin := .absent (hnone _ (by decide))
    sortOrder := .absent (hnone _ (by decide))
    sorting := by simp
    exactMatch := by simp }

theorem knows_filter : v.Knows [("filter", e)] := by
  intro name hname
  obtain rfl : name = "filter" := by simpa using hname
  exact Or.inr (by decide)

/-- An accepted request that gives a filter has the conditions that are read off it. -/
theorem exists_filterReads {filter : Option (List Condition)}
    (hvalue : RawParams.value? raw "filter" = some e)
    (h : raw.Says "filter" (Present (FilterReads v.urls v.registry)) none filter) :
    ∃ conditions, filter = some conditions ∧ FilterReads v.urls v.registry e conditions := by
  obtain ⟨conditions, hreads, hfilter⟩ := (RawParams.says_some hvalue).mp h
  exact ⟨conditions, hfilter, hreads⟩

theorem search_filterReads {p : SearchRequest} (hvalue : RawParams.value? raw "filter" = some e)
    (h : v.search raw = .ok p) :
    ∃ conditions, p.filter = some conditions ∧ FilterReads v.urls v.registry e conditions :=
  exists_filterReads hvalue (search_eq_ok_iff.mp h).2.filter

theorem random_filterReads {p : RandomRequest} (hvalue : RawParams.value? raw "filter" = some e)
    (h : v.random raw = .ok p) :
    ∃ conditions, p.filter = some conditions ∧ FilterReads v.urls v.registry e conditions :=
  exists_filterReads hvalue (random_eq_ok_iff.mp h).2

/-- Both kinds of requests read an expression alike. -/
theorem takesFilter_of_filterReads
    (hfree : ∀ f ∈ v.registry.fields, f.searchable = true → f.name ≠ "filter")
    (h : FilterReads v.urls v.registry e conditions) : v.TakesFilter e conditions where
  search := search_eq_ok_iff.mpr ⟨knows_filter, reads_filter hfree h⟩
  random := by
    rw [random_eq_ok_iff]
    exact ⟨by simp, .given (value?_filter h.ne_empty) ⟨conditions, h, rfl⟩⟩
  besides := by
    intro raw hvalue
    constructor
    · intro p hp
      obtain ⟨others, hfilter, hreads⟩ := search_filterReads hvalue hp
      rw [hfilter, hreads.unique h]
    · intro p hp
      obtain ⟨others, hfilter, hreads⟩ := random_filterReads hvalue hp
      rw [hfilter, hreads.unique h]

theorem canBeWritten_of_filterReads
    (hfree : ∀ f ∈ v.registry.fields, f.searchable = true → f.name ≠ "filter")
    (h : FilterReads v.urls v.registry e conditions) : v.CanBeWritten (some conditions) := by
  obtain ⟨f, hf, hsearchable, hcolon, text, values, -, hvalues, hfits, rfl⟩ := h
  have hne : values ≠ [] := by simpa using Text.Pieces.ne_nil hvalues
  have hwritten : FilterReads v.urls v.registry (f.name ++ ":" ++ join " AND " values)
      (values.map (Condition.mk f.name)) :=
    ⟨f, hf, hsearchable, hcolon, _, values, rfl, hvalues.join, hfits, rfl⟩
  exact ⟨f, hf, hsearchable, values, hne, hvalues.isFilterValue hfits, rfl,
    takesFilter_of_filterReads hfree hwritten⟩

/-- The conditions that are written as an expression are the ones that are read off it, and what is
read off an expression can be written. An expression that names no searchable field in front of a
colon is not accepted. -/
theorem filter_reads_as_written (v : Validator)
    (hfree : ∀ f ∈ v.registry.fields, f.searchable = true → f.name ≠ "filter") :
    (∀ f ∈ v.registry.fields, f.searchable = true → ':' ∉ f.name.toList →
      ∀ values : List String, (∀ value ∈ values, IsFilterValue v.urls f.type value) →
      (∀ value ∈ values.dropLast, ¬ EndsInWord "AND".toList value.toList) →
      ∀ before text after : List Char, (∀ c ∈ before, isBlank c = true) →
      Joined "AND".toList text (values.map String.toList) → (∀ c ∈ after, isBlank c = true) →
        v.TakesFilter (f.name ++ ":" ++ String.ofList (before ++ (text ++ after)))
          (values.map (Condition.mk f.name))) ∧
    (∀ raw e, RawParams.value? raw "filter" = some e →
      (∀ p, v.search raw = .ok p → v.CanBeWritten p.filter) ∧
        ∀ p, v.random raw = .ok p → v.CanBeWritten p.filter) ∧
    (∀ raw e, RawParams.value? raw "filter" = some e →
      (':' ∉ e.toList ∨ ∃ name text, e = name ++ ":" ++ text ∧ ':' ∉ name.toList ∧
        v.registry.isSearchable name = false) →
      (∀ p, v.search raw ≠ .ok p) ∧ ∀ p, v.random raw ≠ .ok p) := by
  refine ⟨?written, ?read, ?refused⟩
  case written =>
    intro f hf hsearchable hcolon values hvalues hend before text after hbefore hjoined hafter
    have hareValues := areValues_of_joined hvalues hend hjoined hbefore hafter
    have hfits : ∀ value ∈ values, Rule.Fits v.urls f.type value :=
      fun value hmem => (hvalues value hmem).fits
    exact takesFilter_of_filterReads hfree
      ⟨f, hf, hsearchable, hcolon, _, values, rfl, hareValues, hfits, rfl⟩
  case read =>
    intro raw e hvalue
    constructor
    · intro p hp
      obtain ⟨conditions, hfilter, hreads⟩ := search_filterReads hvalue hp
      exact hfilter ▸ canBeWritten_of_filterReads hfree hreads
    · intro p hp
      obtain ⟨conditions, hfilter, hreads⟩ := random_filterReads hvalue hp
      exact hfilter ▸ canBeWritten_of_filterReads hfree hreads
  case refused =>
    intro raw e hvalue hname
    have hnone : ∀ conditions, ¬ FilterReads v.urls v.registry e conditions := by
      intro conditions hreads
      obtain ⟨name, text, he, hcolon, hsearchable⟩ := hreads.exists_name
      rcases hname with hmem | ⟨other, rest, he', hcolon', hother⟩
      · exact hmem (by simp [he])
      · have hcut : cut? ':' e = some (name, text) := cut?_eq_some_iff.mpr ⟨he, hcolon⟩
        have hcut' : cut? ':' e = some (other, rest) := cut?_eq_some_iff.mpr ⟨he', hcolon'⟩
        obtain ⟨rfl, -⟩ := Prod.mk.inj (Option.some.inj (hcut.symm.trans hcut'))
        rw [hsearchable] at hother
        exact Bool.noConfusion hother
    constructor
    · intro p hp
      obtain ⟨conditions, -, hreads⟩ := search_filterReads hvalue hp
      exact hnone conditions hreads
    · intro p hp
      obtain ⟨conditions, -, hreads⟩ := random_filterReads hvalue hp
      exact hnone conditions hreads

/-- AND as a value, odd blanks, and a field that is not searchable. -/
theorem filter_reads_as_written_profile :
    (∀ f ∈ Profile.registry.fields, f.searchable = true → f.name ≠ "filter") ∧
      TakesFilter ⟨Profile.registry, 500, .sample⟩
        "sourceResource.type: image\u3000AND  AND AND moving image\t"
        [⟨"sourceResource.type", "image"⟩, ⟨"sourceResource.type", "AND"⟩,
          ⟨"sourceResource.type", "moving image"⟩] ∧
      ∀ p, random ⟨Profile.registry, 500, .sample⟩
        [("filter", "provider:Smithsonian")] ≠ .ok p := by
  have hfree : ∀ f ∈ Profile.registry.fields, f.searchable = true → f.name ≠ "filter" := by
    decide +kernel
  obtain ⟨hwritten, -, hrefused⟩ := filter_reads_as_written ⟨Profile.registry, 500, .sample⟩ hfree
  refine ⟨hfree, ?_, (hrefused _ _ (value?_filter (by decide)) (Or.inr ?_)).2⟩
  · have hvalues : ∀ value ∈ ["image", "AND", "moving image"],
        IsFilterValue .sample .text value := by
      have htrim : ∀ value ∈ ["image", "AND", "moving image"], trim value = value := by decide
      have hlength : ∀ value ∈ ["image", "AND", "moving image"],
          2 ≤ value.toList.length ∧ value.toList.length ≤ 200 := by decide
      have hsplit : ∀ value ∈ ["image", "AND", "moving image"],
          splitWordChars "AND".toList value.toList = [value.toList] := by decide +kernel
      exact fun value hmem => ⟨htrim value hmem, hlength value hmem,
        (not_hasOperator_iff bare_and).mpr (hsplit value hmem)⟩
    have hend : ∀ value ∈ ["image", "AND"], ¬ EndsInWord "AND".toList value.toList := by
      have hsplit : ∀ value ∈ ["image", "AND"],
          splitWordChars "AND".toList (value.toList ++ [' ']) = [value.toList ++ [' ']] := by
        decide +kernel
      intro value hmem hends
      exact (not_hasOperator_iff bare_and).mpr (hsplit value hmem)
        (hasOperator_append_space_iff.mpr (Or.inr hends))
    have hrun : BlankRun ['\u3000'] ∧ BlankRun [' ', ' '] :=
      ⟨⟨by decide, forall_mem_of_all (by decide)⟩, ⟨by decide, forall_mem_of_all (by decide)⟩⟩
    have hjoined : Joined "AND".toList _ ["image".toList, "AND".toList, "moving image".toList] :=
      .cons _ hrun.1 hrun.2 (.cons _ BlankRun.space BlankRun.space (.one _))
    exact hwritten (Profile.sortableFacetText "sourceResource.type") (by decide +kernel) rfl
      (by decide) ["image", "AND", "moving image"] hvalues hend [' '] _ ['\t']
      (forall_mem_of_all (by decide)) hjoined (forall_mem_of_all (by decide))
  · exact ⟨"provider", "Smithsonian", by decide, by decide, by decide +kernel⟩

end Validator

end ItemSearch
