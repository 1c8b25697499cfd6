import ItemSearch.Proofs.Validation.Reading
import ItemSearch.Query.Compile
import ItemSearch.Registry.Profile

/-!
Which requests compile. The compiler fails where a name of the request has no path of the kind that
it is asked for, and nowhere else, so `Resolves` lists the places where names are looked up. The
validator makes a check of its own for each of them, by another flag of the field every time; what
it accepts resolves.
-/

namespace ItemSearch

namespace Compiler

variable (c : Compiler)

/-- The name of a condition has the path that its clauses need. -/
structure ConditionResolves (exact : Bool) (condition : Condition) : Prop where
  path : (c.registry.backendPath? condition.field).isSome = true
  wholeValuePath : exact = true → ¬ IsRangeName condition.field →
    (c.registry.wholeValuePath? condition.field).isSome = true

/-- The facet asks for distances, or for dates, or has a path for whole values. -/
def FacetResolves (facet : String) : Prop :=
  (Text.before ':' facet = c.registry.coordinates.name ∧ Text.after ':' facet ≠ "") ∨
    facet ∈ c.registry.dateNames ∨ (c.registry.wholeValuePath? facet).isSome = true

/-- Every name of the request has the path that it is looked up for. -/
structure Resolves (p : SearchRequest) : Prop where
  fieldQueries : ∀ condition ∈ p.fieldQueries, c.ConditionResolves p.exactFieldMatch condition
  filter : ∀ condition ∈ p.filter.getD [], (c.registry.backendPath? condition.field).isSome = true
  facets : ∀ facet ∈ p.facets.getD [], c.FacetResolves facet
  sorting : ∀ field pin, p.sort? = some (.byDistance field pin) →
    (c.registry.backendPath? field).isSome = true
  fields : ∀ name ∈ p.fields.getD [], (c.registry.backendPath? name).isSome = true

variable {c}

theorem succeeds_resolve_iff {path? : Option String} {name : String} :
    Succeeds (resolve path? name) ↔ path?.isSome = true := by
  cases path? with
  | none => simp [resolve, not_succeeds_error]
  | some path => simp [resolve, succeeds_ok]

theorem boundOf?_eq_none_iff {name : String} : boundOf? name = none ↔ ¬ IsRangeName name := by
  rw [← Validator.isRangeName_iff, boundOf?]
  generalize ".before".toList.isSuffixOf name.toList = isBefore
  generalize ".after".toList.isSuffixOf name.toList = isAfter
  cases isBefore <;> cases isAfter <;> simp

theorem isRangeName_of_boundOf? {name : String} {bound : Bound} (h : boundOf? name = some bound) :
    IsRangeName name := by
  by_contra hnot
  rw [boundOf?_eq_none_iff.mpr hnot] at h
  simp at h

theorem backendPath?_isSome_of_wholeValuePath? {r : Registry} {name : String}
    (h : (r.wholeValuePath? name).isSome = true) : (r.backendPath? name).isSome = true := by
  obtain ⟨f, hf, hname, -⟩ := Registry.wholeValuePath?_isSome_iff.mp h
  exact Registry.backendPath?_isSome_iff.mpr ⟨f, hf, hname⟩

/-! ### The parts of a body -/

theorem succeeds_conditionClauses_iff {condition : Condition} {exact : Bool} :
    Succeeds (c.conditionClauses condition exact) ↔ c.ConditionResolves exact condition := by
  unfold conditionClauses
  cases hbound : boundOf? condition.field with
  | some bound =>
      have hrange := isRangeName_of_boundOf? hbound
      have hclause : Succeeds (c.rangeClause condition bound) ↔
          (c.registry.backendPath? condition.field).isSome = true := by
        rw [rangeClause, succeeds_bind_pure_iff, backendPath, succeeds_resolve_iff]
      rw [succeeds_bind_pure_iff (f := fun clause => [clause]), hclause]
      constructor
      · exact fun h => ⟨h, fun _ hnot => absurd hrange hnot⟩
      · exact fun h => h.path
  | none =>
      have hrange := boundOf?_eq_none_iff.mp hbound
      cases exact with
      | true =>
          simp only [if_true, succeeds_bind_pure_iff, Compiler.wholeValuePath, succeeds_resolve_iff]
          constructor
          · exact fun h => ⟨backendPath?_isSome_of_wholeValuePath? h, fun _ _ => h⟩
          · exact fun h => h.wholeValuePath rfl hrange
      | false =>
          simp only [Bool.false_eq_true, if_false, succeeds_bind_pure_iff, backendPath,
            succeeds_resolve_iff]
          constructor
          · exact fun h => ⟨h, by simp⟩
          · exact fun h => h.path

theorem succeeds_filterClauses_iff {filter : List Condition} :
    Succeeds (c.filterClauses filter) ↔
      ∀ condition ∈ filter, (c.registry.backendPath? condition.field).isSome = true := by
  simp only [filterClauses, succeeds_mapM_iff, succeeds_bind_pure_iff, backendPath,
    succeeds_resolve_iff]

theorem succeeds_filter?_iff {filter : Option (List Condition)} :
    Succeeds (c.filter? filter) ↔
      ∀ condition ∈ filter.getD [], (c.registry.backendPath? condition.field).isSome = true := by
  unfold filter?
  split
  · simp [succeeds_ok]
  · simp [succeeds_ok]
  · next filter _ => rw [succeeds_bind_pure_iff, succeeds_filterClauses_iff, Option.getD_some]

theorem succeeds_query_iff {p : SearchRequest} :
    Succeeds (c.query p) ↔
      (∀ condition ∈ p.fieldQueries, c.ConditionResolves p.exactFieldMatch condition) ∧
        ∀ condition ∈ p.filter.getD [],
          (c.registry.backendPath? condition.field).isSome = true := by
  have hscoring : Succeeds (c.scoringClauses p) ↔
      ∀ condition ∈ p.fieldQueries, c.ConditionResolves p.exactFieldMatch condition := by
    simp only [scoringClauses, succeeds_bind_pure_iff, succeeds_mapM_iff,
      succeeds_conditionClauses_iff]
  rw [← hscoring, ← succeeds_filter?_iff]
  simp only [query, succeeds_bind_iff, succeeds_pure, and_true]
  constructor
  · rintro ⟨clauses, hclauses, hfilter⟩
    exact ⟨⟨clauses, hclauses⟩, hfilter⟩
  · rintro ⟨⟨clauses, hclauses⟩, hfilter⟩
    exact ⟨clauses, hclauses, hfilter⟩

theorem succeeds_aggregation_iff {facet : String} {size : Int} :
    Succeeds (c.aggregation facet size) ↔ c.FacetResolves facet := by
  unfold aggregation FacetResolves
  by_cases hdistance : Text.before ':' facet = c.registry.coordinates.name ∧
      Text.after ':' facet ≠ ""
  · simp only [if_pos hdistance, succeeds_ok, true_iff]
    exact Or.inl hdistance
  · simp only [hdistance, if_false, false_or]
    by_cases hdate : facet ∈ c.registry.dateNames
    · have hpath : (c.registry.backendPath? facet).isSome = true := by
        obtain ⟨f, hf, hname, -⟩ := Registry.mem_dateNames_iff.mp hdate
        exact Registry.backendPath?_isSome_iff.mpr ⟨f, hf, hname⟩
      rw [if_pos hdate, dateAggregation, succeeds_bind_pure_iff, backendPath,
        succeeds_resolve_iff]
      simp only [hpath, hdate, true_or]
    · rw [if_neg hdate, succeeds_bind_pure_iff, wholeValuePath, succeeds_resolve_iff]
      simp only [hdate, false_or]

theorem succeeds_aggregations_iff {facets : Option (List String)} {size : Int} :
    Succeeds (c.aggregations facets size) ↔ ∀ facet ∈ facets.getD [], c.FacetResolves facet := by
  simp only [aggregations, succeeds_bind_pure_iff, succeeds_mapM_iff, succeeds_aggregation_iff]

theorem succeeds_sort_iff {p : SearchRequest} :
    Succeeds (c.sort p) ↔ ∀ field pin, p.sort? = some (.byDistance field pin) →
      (c.registry.backendPath? field).isSome = true := by
  unfold sort
  split
  · next field pin hsort =>
      rw [succeeds_bind_pure_iff, backendPath, succeeds_resolve_iff]
      simp [hsort]
  · next field order hsort =>
      simp only [hsort, Option.some.injEq, reduceCtorEq, false_implies, implies_true, iff_true]
      split <;> exact succeeds_ok _
  · next hsort => simp [succeeds_ok, hsort]

theorem succeeds_source_iff {fields : Option (List String)} :
    Succeeds (c.source fields) ↔
      ∀ name ∈ fields.getD [], (c.registry.backendPath? name).isSome = true := by
  unfold source
  split
  · simp [succeeds_ok]
  · simp [succeeds_ok]
  · next names _ =>
      simp only [succeeds_mapM_iff, backendPath, succeeds_resolve_iff, Option.getD_some]

/-- A search compiles exactly when its names resolve. -/
theorem succeeds_searchBody_iff {p : SearchRequest} :
    Succeeds (c.searchBody p) ↔ c.Resolves p := by
  have hparts : Succeeds (c.searchBody p) ↔ Succeeds (c.query p) ∧
      Succeeds (c.aggregations p.facets p.facetSize) ∧ Succeeds (c.sort p) ∧
      Succeeds (c.source p.fields) := by
    simp only [searchBody, succeeds_bind_iff, succeeds_pure, and_true, exists_and_right]
    rfl
  rw [hparts, succeeds_query_iff, succeeds_aggregations_iff, succeeds_sort_iff,
    succeeds_source_iff]
  constructor
  · rintro ⟨⟨hqueries, hfilter⟩, hfacets, hsort, hfields⟩
    exact ⟨hqueries, hfilter, hfacets, hsort, hfields⟩
  · exact fun h => ⟨⟨h.fieldQueries, h.filter⟩, h.facets, h.sorting, h.fields⟩

theorem succeeds_randomBody_iff {p : RandomRequest} :
    Succeeds (c.randomBody p) ↔
      ∀ condition ∈ p.filter.getD [],
        (c.registry.backendPath? condition.field).isSome = true := by
  rw [randomBody, succeeds_bind_pure_iff, succeeds_filter?_iff]

end Compiler

/-! ### Accepted requests -/

namespace Field

/-- The values of the field can be counted: it holds dates, or has a path for whole values. -/
def CountsValues (f : Field) : Prop :=
  f.type = .date ∨ f.exactMatchPath.any (fun path => path ≠ "") = true ∨
    f.nonAnalyzedPath.any (fun path => path ≠ "") = true

instance : DecidablePred CountsValues := fun f =>
  inferInstanceAs (Decidable (f.type = .date ∨ f.exactMatchPath.any (fun path => path ≠ "") = true ∨
    f.nonAnalyzedPath.any (fun path => path ≠ "") = true))

theorem wholeValuePath?_isSome {f : Field}
    (h : f.exactMatchPath.any (fun path => path ≠ "") = true ∨
      f.nonAnalyzedPath.any (fun path => path ≠ "") = true) :
    f.wholeValuePath?.isSome = true := by
  unfold wholeValuePath?
  rw [Option.any_eq_true, Option.any_eq_true] at h
  rcases h with ⟨path, hpath, hne⟩ | ⟨path, hpath, -⟩
  · simp [hpath, of_decide_eq_true hne]
  · rw [hpath]
    split
    · split <;> rfl
    · rfl

end Field

namespace Validator

variable {v : Validator} {c : Compiler} {raw : RawParams}

theorem facetResolves_of_isFacet (hc : c.registry = v.registry)
    (hcounts : ∀ f ∈ v.registry.fields, f.facetable = true → f.CountsValues) {facet : String}
    (h : v.IsFacet facet) : c.FacetResolves facet := by
  unfold Compiler.FacetResolves
  rw [hc]
  rcases h with hfacetable | ⟨hcolon, origin, hfacet, horigin⟩
  · obtain ⟨f, hf, rfl, hflag⟩ := Registry.any_find?_iff.mp hfacetable
    rcases hcounts f hf hflag with hdate | hpath
    · exact Or.inr (Or.inl (Registry.mem_dateNames_iff.mpr ⟨f, hf, rfl, hdate⟩))
    · exact Or.inr (Or.inr (Registry.wholeValuePath?_isSome_iff.mpr
        ⟨f, hf, rfl, Field.wholeValuePath?_isSome hpath⟩))
  · -- the compiler cuts the facet where the validator has cut it
    have hbefore := Text.before_append hcolon origin
    have hafter := Text.after_append hcolon origin
    rw [hfacet]
    exact Or.inl ⟨hbefore, fun hempty => horigin (hafter.symm.trans hempty)⟩

theorem backendPath?_isSome_of_filtered (hc : c.registry = v.registry)
    {filter : Option (List Condition)}
    (h : raw.Says "filter" (Present (FilterReads v.urls v.registry)) none filter) :
    ∀ condition ∈ filter.getD [], (c.registry.backendPath? condition.field).isSome = true := by
  intro condition hmem
  obtain ⟨f, hf, -, hname⟩ := searchable_of_filtered h condition hmem
  rw [hc]
  exact Registry.backendPath?_isSome_iff.mpr ⟨f, hf, hname⟩

/-- The names of a request that is read off its parameters resolve if those of its facets do. -/
theorem Reads.resolves_of_facets (hc : c.registry = v.registry) {p : SearchRequest}
    (h : v.Reads raw p) (hfacets : ∀ facet ∈ p.facets.getD [], c.FacetResolves facet) :
    c.Resolves p := by
  have hknown : ∀ name, (∃ f ∈ v.registry.fields, f.name = name) →
      (c.registry.backendPath? name).isSome = true := by
    intro name hname
    rw [hc]
    exact Registry.backendPath?_isSome_iff.mpr hname
  constructor
  · intro condition hmem
    constructor
    · -- conditions are about searchable fields, and those are fields
      have hcondition := hmem
      rw [h.fieldQueries, mem_givenConditions_iff] at hcondition
      obtain ⟨f, hf, hname, -⟩ := Registry.mem_searchableNames_iff.mp hcondition.1
      exact hknown _ ⟨f, hf, hname⟩
    · intro hexact hrange
      rw [hc]
      exact h.exactMatch hexact condition hmem hrange
  · exact backendPath?_isSome_of_filtered hc h.filter
  · exact hfacets
  · intro field pin hsort
    have hsortBy : p.sortBy = some field := by
      unfold SearchRequest.sort? at hsort
      split at hsort <;> simp_all
    have hsays := h.sortBy
    rw [hsortBy] at hsays
    obtain ⟨s, -, hsortable, rfl⟩ := hsays.exists_value
    obtain ⟨f, hf, hname, -⟩ := Registry.any_find?_iff.mp hsortable
    exact hknown _ ⟨f, hf, hname⟩
  · intro name hname
    obtain ⟨f, hf, hname, -⟩ := Registry.any_find?_iff.mp (accepted_of_listed h.fields name hname)
    exact hknown _ ⟨f, hf, hname⟩

theorem Reads.resolves (hc : c.registry = v.registry)
    (hcounts : ∀ f ∈ v.registry.fields, f.facetable = true → f.CountsValues) {p : SearchRequest}
    (h : v.Reads raw p) : c.Resolves p := by
  refine h.resolves_of_facets hc fun facet hfacet => ?_
  exact facetResolves_of_isFacet hc hcounts (accepted_of_listed h.facets facet hfacet)

/-- What the validator accepts, the compiler compiles. -/
theorem accepted_compiles {r : Registry}
    (hcounts : ∀ f ∈ r.fields, f.facetable = true → f.CountsValues) (maxPageSize : Int)
    (urls : Url.Check) (keywordFields : List String) (raw : RawParams) :
    (∀ p, search ⟨r, maxPageSize, urls⟩ raw = .ok p →
      ∃ body, Compiler.searchBody ⟨r, keywordFields⟩ p = .ok body) ∧
    (∀ p, random ⟨r, maxPageSize, urls⟩ raw = .ok p →
      ∃ body, Compiler.randomBody ⟨r, keywordFields⟩ p = .ok body) ∧
    (∀ path ids, identifiers ⟨r, maxPageSize, urls⟩ path raw = .ok ids →
      ∃ idPath, r.backendPath? r.identifier.name = some idPath ∧
        (Compiler.fetchBody ⟨r, keywordFields⟩ ids).query = .terms idPath ids) := by
  refine ⟨?_, ?_, ?_⟩
  · intro p hp
    have hreads := (search_eq_ok_iff.mp hp).2
    exact Compiler.succeeds_searchBody_iff.mpr (hreads.resolves rfl hcounts)
  · intro p hp
    have hsays := (random_eq_ok_iff.mp hp).2
    exact Compiler.succeeds_randomBody_iff.mpr (backendPath?_isSome_of_filtered rfl hsays)
  · intro path ids _
    refine ⟨r.identifier.backendPath, ?_, rfl⟩
    rw [Registry.backendPath?, Registry.find?_name r.identifier_mem, Option.map_some]

theorem accepted_compiles_profile :
    ∃ p, search ⟨Profile.registry, 500, .sample⟩
        [("exact_field_match", "true"), ("sourceResource.title", "cats"),
         ("facets", "sourceResource.date.begin.year")] = .ok p ∧
      ∃ body, Compiler.searchBody ⟨Profile.registry, Compiler.itemKeywordFields⟩ p = .ok body := by
  have h : search ⟨Profile.registry, 500, .sample⟩
      [("exact_field_match", "true"), ("sourceResource.title", "cats"),
       ("facets", "sourceResource.date.begin.year")] = .ok
        { exactFieldMatch := true
          facets := some ["sourceResource.date.begin.year"]
          fieldQueries := [⟨"sourceResource.title", "cats"⟩] } :=
    toOption_eq_some_iff.mp (by decide +kernel)
  have hcounts : ∀ f ∈ Profile.registry.fields, f.facetable = true → f.CountsValues := by
    decide +kernel
  exact ⟨_, h, (accepted_compiles hcounts 500 .sample Compiler.itemKeywordFields _).1 _ h⟩

/-! ### The item index -/

theorem countsValues_of_facetable :
    ∀ f ∈ Profile.registry.fields, f.facetable = true → f.CountsValues := by
  decide +kernel

variable {maxPageSize : Int} {urls : Url.Check}

theorem exists_searchBody_of_accepted (keywordFields : List String) {p : SearchRequest}
    (h : search ⟨Profile.registry, maxPageSize, urls⟩ raw = .ok p) :
    ∃ body, Compiler.searchBody ⟨Profile.registry, keywordFields⟩ p = .ok body := by
  have hreads := (search_eq_ok_iff.mp h).2
  exact Compiler.succeeds_searchBody_iff.mpr (hreads.resolves rfl countsValues_of_facetable)

theorem exists_randomBody_of_accepted (keywordFields : List String) {p : RandomRequest}
    (h : random ⟨Profile.registry, maxPageSize, urls⟩ raw = .ok p) :
    ∃ body, Compiler.randomBody ⟨Profile.registry, keywordFields⟩ p = .ok body := by
  have hsays := (random_eq_ok_iff.mp h).2
  exact Compiler.succeeds_randomBody_iff.mpr (backendPath?_isSome_of_filtered rfl hsays)

end Validator

end ItemSearch
