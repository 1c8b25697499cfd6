import ItemSearch.Proofs.Query.Clauses

/-!
On which paths whole values are compared. A term that comes from a condition of an exact match goes
to the path for whole values of the field. A term that comes from a filter goes to the path of the
field itself, whatever is kept there: for URLs, dates and the identifier it is the whole value, and
for the other searchable fields of the item index it is analyzed text, coordinates, or a pattern of
paths.
-/

namespace ItemSearch

/-- What stands at the path of the field is not its whole value. -/
def Field.IsAnalyzed (f : Field) : Prop := f.wholeValuePath? ≠ some f.backendPath

instance : DecidablePred Field.IsAnalyzed := fun f =>
  inferInstanceAs (Decidable (f.wholeValuePath? ≠ some f.backendPath))

namespace Query

/-- The clauses that count for the ranking. -/
def scoring : Query → List Clause
  | .bool b => b.must.getD [] ++ b.should.getD []
  | .matchAll | .terms _ _ | .random _ => []

/-- The clauses of the filter. -/
def filtering : Query → List Clause
  | .bool b => b.filter.getD []
  | .random filter => filter.getD []
  | .matchAll | .terms _ _ => []

end Query

namespace Compiler

variable {c : Compiler} {p : SearchRequest} {query : Query}

/-- Nothing gets lost of the clauses when they are put together. -/
theorem query_clauses (h : c.query p = .ok query) :
    c.ScoringClauses p query.scoring ∧
      List.Forall₂ c.FilterClause (p.filter.getD []) query.filtering := by
  obtain ⟨clauses, filter, hclauses, hfilter, rfl⟩ := query_eq_ok_iff.mp h
  have hparts : (if clauses.isEmpty && filter.isNone then Query.matchAll
      else .bool (combine p.op clauses filter)).scoring = clauses ∧
      (if clauses.isEmpty && filter.isNone then Query.matchAll
        else .bool (combine p.op clauses filter)).filtering = filter.getD [] := by
    cases clauses with
    | nil => cases filter <;> simp [Query.scoring, Query.filtering, combine]
    | cons clause rest => cases p.op <;> simp [Query.scoring, Query.filtering, combine]
  rw [hparts.1, hparts.2]
  exact ⟨hclauses, hfilter.each⟩

/-- The terms that count for the ranking are those of the values to be matched exactly, on the paths
for whole values. -/
theorem ScoringClauses.term_mem_iff {clauses : List Clause} (h : c.ScoringClauses p clauses)
    {path value : String} : Clause.term path value ∈ clauses ↔
      p.exactFieldMatch = true ∧ ∃ condition ∈ p.fieldQueries, ¬ IsRangeName condition.field ∧
        c.registry.wholeValuePath? condition.field = some path ∧
          value ∈ Query.splitTerms condition.value := by
  rw [h.mem_iff]
  constructor
  · rintro (hword | ⟨condition, hcondition, part, hstands, hterm⟩)
    · simp [mem_wordClauses_iff] at hword
    · cases hstands with
      | range _ _ => simp at hterm
      | keywords _ _ _ => simp at hterm
      | terms hname hexact hpath =>
          obtain ⟨t, ht, heq⟩ := List.mem_map.mp hterm
          obtain ⟨rfl, rfl⟩ := Clause.term.inj heq
          exact ⟨hexact, condition, hcondition, hname, hpath, ht⟩
  · rintro ⟨hexact, condition, hcondition, hname, hpath, hvalue⟩
    exact Or.inr ⟨condition, hcondition, _, .terms hname hexact hpath, List.mem_map_of_mem hvalue⟩

end Compiler

/-! ### The item index -/

namespace Profile

/-- Among the searchable fields, those that are kept whole at their own path. -/
theorem isAnalyzed_iff : ∀ f ∈ registry.fields, f.searchable = true →
    (f.IsAnalyzed ↔ ¬ (f.type = .url ∨ f.type = .date ∨ f.name = identifierName)) := by
  decide +kernel

/-- Where the values of a field are analyzed, no field keeps whole values. -/
theorem wholeValuePath?_ne_analyzed : ∀ g ∈ registry.fields, g.IsAnalyzed →
    ∀ f ∈ registry.fields, f.wholeValuePath? ≠ some g.backendPath := by
  decide +kernel

/-- A filter has one term for each of its conditions, at the path of the field. It is the path for
whole values where the field holds URLs or dates or is the identifier, and not otherwise. -/
def FilterPaths (conditions : List Condition) (clauses : List Clause) : Prop :=
  List.Forall₂ (fun condition clause => ∃ f ∈ registry.fields,
    f.searchable = true ∧ f.name = condition.field ∧
      clause = .term f.backendPath condition.value ∧
      (registry.wholeValuePath? condition.field = some f.backendPath ↔
        f.type = .url ∨ f.type = .date ∨ f.name = identifierName)) conditions clauses

theorem filterPaths_of_accepted {urls : Url.Check} {raw : RawParams}
    {filter : Option (List Condition)}
    (hfilter : raw.Says "filter" (Present (FilterReads urls registry)) none filter)
    {keywordFields : List String} {clauses : List Clause}
    (hclauses : List.Forall₂ (Compiler.FilterClause ⟨registry, keywordFields⟩) (filter.getD [])
      clauses) : FilterPaths (filter.getD []) clauses := by
  have hfields := Validator.searchable_of_filtered hfilter
  refine List.Forall₂.imp ?_ ((List.forall₂_and_left _ _).mpr ⟨hfields, hclauses⟩)
  rintro condition clause ⟨⟨f, hf, hsearchable, hname⟩, path, hpath, rfl⟩
  have hfind : registry.find? condition.field = some f :=
    Registry.find?_eq_some_iff.mpr ⟨hf, hname⟩
  have hbackend : f.backendPath = path := by
    simpa [Registry.backendPath?, hfind] using hpath
  refine ⟨f, hf, hsearchable, hname, by rw [hbackend], ?_⟩
  have hwhole : registry.wholeValuePath? condition.field = f.wholeValuePath? := by
    rw [Registry.wholeValuePath?, hfind, Option.bind_some]
  rw [hwhole, ← not_iff_not]
  exact isAnalyzed_iff f hf hsearchable

end Profile

namespace Validator

/-- The terms that count for the ranking are on paths for whole values, each on that of a field
whose value was to be matched exactly. The terms of a filter are on the paths of their fields, and
so on analyzed ones wherever the field is analyzed. -/
theorem term_paths_of_accepted (maxPageSize : Int) (urls : Url.Check) (keywordFields : List String)
    (raw : RawParams) :
    (∀ p body, search ⟨Profile.registry, maxPageSize, urls⟩ raw = .ok p →
      Compiler.searchBody ⟨Profile.registry, keywordFields⟩ p = .ok body →
      (∀ path value, Clause.term path value ∈ body.query.scoring →
        p.exactFieldMatch = true ∧
          (∀ f ∈ Profile.registry.fields, f.IsAnalyzed → path ≠ f.backendPath) ∧
          ∃ condition ∈ p.fieldQueries,
            Profile.registry.wholeValuePath? condition.field = some path ∧
              value ∈ Query.splitTerms condition.value) ∧
      Profile.FilterPaths (p.filter.getD []) body.query.filtering) ∧
    ∀ p body, random ⟨Profile.registry, maxPageSize, urls⟩ raw = .ok p →
      Compiler.randomBody ⟨Profile.registry, keywordFields⟩ p = .ok body →
      body.query.scoring = [] ∧ Profile.FilterPaths (p.filter.getD []) body.query.filtering := by
  refine ⟨?_, ?_⟩
  · intro p body hp hbody
    have hreads := (search_eq_ok_iff.mp hp).2
    obtain ⟨query, _, _, _, hquery, -, -, -, rfl⟩ := Compiler.searchBody_eq_ok_iff.mp hbody
    obtain ⟨hscoring, hfiltering⟩ := Compiler.query_clauses hquery
    refine ⟨?_, Profile.filterPaths_of_accepted hreads.filter hfiltering⟩
    intro path value hmem
    obtain ⟨hexact, condition, hcondition, -, hpath, hvalue⟩ := hscoring.term_mem_iff.mp hmem
    refine ⟨hexact, ?_, condition, hcondition, hpath, hvalue⟩
    intro g hg hanalyzed heq
    -- the path belongs to the field that was asked for, which may be another one
    obtain ⟨f, hfind, hwhole⟩ := Option.bind_eq_some_iff.mp hpath
    obtain ⟨hf, -⟩ := Registry.find?_eq_some_iff.mp hfind
    rw [heq] at hwhole
    exact Profile.wholeValuePath?_ne_analyzed g hg hanalyzed f hf hwhole
  · intro p body hp hbody
    have hsays := (random_eq_ok_iff.mp hp).2
    obtain ⟨filter, hfilter, rfl⟩ := Compiler.randomBody_eq_ok_iff.mp hbody
    exact ⟨rfl, Profile.filterPaths_of_accepted hsays hfilter.each⟩

/-- An exact match and a filter, on the two paths of one field. -/
theorem term_paths_of_provider :
    ∃ p body, search ⟨Profile.registry, 500, .sample⟩
        [("exact_field_match", "true"), ("provider.name", "NARA"),
         ("filter", "provider.name:Smithsonian")] = .ok p ∧
      Compiler.searchBody ⟨Profile.registry, []⟩ p = .ok body ∧
      .term "provider.name.not_analyzed" "NARA" ∈ body.query.scoring ∧
      (∀ path value, Clause.term path value ∈ body.query.scoring →
        p.exactFieldMatch = true ∧
          (∀ f ∈ Profile.registry.fields, f.IsAnalyzed → path ≠ f.backendPath) ∧
          ∃ condition ∈ p.fieldQueries,
            Profile.registry.wholeValuePath? condition.field = some path ∧
              value ∈ Query.splitTerms condition.value) ∧
      Profile.FilterPaths (p.filter.getD []) body.query.filtering := by
  have hp : search ⟨Profile.registry, 500, .sample⟩
      [("exact_field_match", "true"), ("provider.name", "NARA"),
       ("filter", "provider.name:Smithsonian")] = .ok
        { exactFieldMatch := true
          fieldQueries := [⟨"provider.name", "NARA"⟩]
          filter := some [⟨"provider.name", "Smithsonian"⟩] } :=
    toOption_eq_some_iff.mp (by decide +kernel)
  have hbody : Compiler.searchBody ⟨Profile.registry, []⟩
      { exactFieldMatch := true
        fieldQueries := [⟨"provider.name", "NARA"⟩]
        filter := some [⟨"provider.name", "Smithsonian"⟩] } = .ok
        { start := some 0
          size := 10
          query := .bool
            { must := some [.term "provider.name.not_analyzed" "NARA"]
              filter := some [.term "provider.name" "Smithsonian"] }
          aggregations := some []
          sort := some [.score, .storage]
          source := some ["*"]
          countsAllHits := true } :=
    toOption_eq_some_iff.mp (by decide +kernel)
  exact ⟨_, _, hp, hbody, by simp [Query.scoring],
    (term_paths_of_accepted 500 .sample [] _).1 _ _ hp hbody⟩

/-- A filter compares a whole value with analyzed text, although the field keeps its values whole
at another path. -/
theorem filter_on_analyzed_path :
    ∃ p body, search ⟨Profile.registry, 500, .sample⟩
        [("filter", "provider.name:Smithsonian")] = .ok p ∧
      Compiler.searchBody (Compiler.of Profile.registry) p = .ok body ∧
      .term "provider.name" "Smithsonian" ∈ body.query.filtering ∧
      Profile.registry.wholeValuePath? "provider.name" = some "provider.name.not_analyzed" := by
  have hp : search ⟨Profile.registry, 500, .sample⟩ [("filter", "provider.name:Smithsonian")] = .ok
      { filter := some [⟨"provider.name", "Smithsonian"⟩] } :=
    toOption_eq_some_iff.mp (by decide +kernel)
  have hbody : Compiler.searchBody (Compiler.of Profile.registry)
      { filter := some [⟨"provider.name", "Smithsonian"⟩] } = .ok
        { start := some 0
          size := 10
          query := .bool { filter := some [.term "provider.name" "Smithsonian"] }
          aggregations := some []
          sort := some [.storage]
          source := some ["*"]
          countsAllHits := true } :=
    toOption_eq_some_iff.mp (by decide +kernel)
  exact ⟨_, _, hp, hbody, by simp [Query.filtering], by decide +kernel⟩

end Validator

end ItemSearch
