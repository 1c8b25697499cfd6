import ItemSearch.Proofs.Query.Facets
import ItemSearch.Proofs.Query.Ranges

/-!
Where the paths of a body come from. The names in a request only serve to look up fields, and every
path of a body is one under which the registry keeps a field that the request names, whether the
request has passed any checks or not. `Compiler.Traced` goes through the parts of a body and says
for each path and for each value what it stands for in the request; each function of the compiler
has its lemma, and a body is put together from them.
-/

namespace ItemSearch

/-! ### Paths of a registry -/

/-- The paths under which the index keeps the field. -/
def Field.paths (f : Field) : List String :=
  f.backendPath :: (f.exactMatchPath.toList ++ f.nonAnalyzedPath.toList)

namespace Registry

/-- The index keeps the field of that name under the path. -/
def IsPathOf (r : Registry) (name path : String) : Prop :=
  ∃ f ∈ r.fields, f.name = name ∧ path ∈ f.paths

variable {r : Registry} {name path : String}

theorem isPathOf_of_find? {f : Field} (hfind : r.find? name = some f) (hpath : path ∈ f.paths) :
    r.IsPathOf name path := by
  obtain ⟨hf, hname⟩ := find?_eq_some_iff.mp hfind
  exact ⟨f, hf, hname, hpath⟩

theorem isPathOf_of_backendPath? (h : r.backendPath? name = some path) : r.IsPathOf name path := by
  obtain ⟨f, hfind, rfl⟩ := Option.map_eq_some_iff.mp h
  exact isPathOf_of_find? hfind (List.mem_cons_self ..)

theorem isPathOf_of_nonAnalyzedPath? (h : r.nonAnalyzedPath? name = some path) :
    r.IsPathOf name path := by
  obtain ⟨f, hfind, hpath⟩ := Option.bind_eq_some_iff.mp h
  exact isPathOf_of_find? hfind (by simp [Field.paths, hpath])

theorem isPathOf_of_wholeValuePath? (h : r.wholeValuePath? name = some path) :
    r.IsPathOf name path := by
  obtain ⟨f, hfind, hpath⟩ := Option.bind_eq_some_iff.mp h
  refine isPathOf_of_find? hfind ?_
  unfold Field.wholeValuePath? at hpath
  -- an empty exact-match path does not count, and the one behind it is taken
  split at hpath
  · next hexact =>
      split at hpath
      · simp [Field.paths, hpath]
      · simp [Field.paths, hexact, Option.some.inj hpath]
  · simp [Field.paths, hpath]

/-! ### The parts of a body -/

/-- The clause stands for the condition, or for one of the terms that it asks for. -/
inductive ClauseOf (r : Registry) (condition : Condition) : Clause → Prop where
  | keywords {path : String} (hpath : r.IsPathOf condition.field path) :
      ClauseOf r condition (.keywords [path] condition.value)
  | term {path value : String} (hpath : r.IsPathOf condition.field path)
      (hvalue : value ∈ Query.splitTerms condition.value) :
      ClauseOf r condition (.term path value)
  | range {path : String} {bound : Bound} (hpath : r.IsPathOf condition.field path)
      (hbound : AsksFor condition.field bound) :
      ClauseOf r condition (.range path bound condition.value)

/-- The aggregation stands for the facet. Distances are measured from the place behind the colon to
the coordinates, whose name stands before it. -/
inductive AggregationOf (r : Registry) (facet : String) : Aggregation → Prop where
  | distances (hname : Text.before ':' facet = r.coordinates.name) :
      AggregationOf r facet (.distances r.coordinates.backendPath
        (Compiler.placeOf (Text.after ':' facet)) Compiler.distanceRanges)
  | dates {path : String} (hpath : r.IsPathOf facet path) (interval : Interval) :
      AggregationOf r facet (.dates path interval)
  | terms {path : String} (hpath : r.IsPathOf facet path) (size : Int) :
      AggregationOf r facet (.terms path size)

/-- The sort key stands for the order that the request asks for, or it is one of the two that need
no path. -/
inductive SortKeyOf (r : Registry) (p : SearchRequest) : SortKey → Prop where
  | field {name path : String} (hsort : p.sortBy = some name) (hpath : r.IsPathOf name path) :
      SortKeyOf r p (.field path p.sortOrder)
  | distance {name path pin : String} (hsort : p.sortBy = some name)
      (hpath : r.IsPathOf name path) (hpin : p.sortByPin = some pin) :
      SortKeyOf r p (.distance path pin)
  | score : SortKeyOf r p .score
  | storage : SortKeyOf r p .storage

end Registry

namespace Compiler

/-- Every part of the body stands for a part of the request. -/
structure Traced (c : Compiler) (p : SearchRequest) (body : Body) : Prop where
  scoring : ∀ clause ∈ body.query.scoring,
    (∃ q, p.q = some q ∧ clause = .keywords c.keywordFields q) ∨
      ∃ condition ∈ p.fieldQueries, c.registry.ClauseOf condition clause
  filtering : ∀ clause ∈ body.query.filtering, ∃ condition ∈ p.filter.getD [],
    ∃ path, c.registry.IsPathOf condition.field path ∧ clause = .term path condition.value
  /-- Identifiers are for another kind of body. -/
  noTerms : ∀ path values, body.query ≠ .terms path values
  aggregations : ∀ e ∈ body.aggregations.getD [],
    e.1 ∈ p.facets.getD [] ∧ c.registry.AggregationOf e.1 e.2
  sort : ∀ key ∈ body.sort.getD [], c.registry.SortKeyOf p key
  source : ∀ path ∈ body.source.getD [],
    path = "*" ∨ ∃ name ∈ p.fields.getD [], c.registry.IsPathOf name path

variable {c : Compiler} {p : SearchRequest}

theorem ConditionClauses.clauseOf {exact : Bool} {condition : Condition} {part : List Clause}
    (h : c.ConditionClauses exact condition part) :
    ∀ clause ∈ part, c.registry.ClauseOf condition clause := by
  cases h with
  | range hbound hpath =>
      intro clause hclause
      obtain rfl := List.mem_singleton.mp hclause
      exact .range (Registry.isPathOf_of_backendPath? hpath) (boundOf?_eq_some_iff.mp hbound)
  | terms _ _ hpath =>
      intro clause hclause
      obtain ⟨value, hvalue, rfl⟩ := List.mem_map.mp hclause
      exact .term (Registry.isPathOf_of_wholeValuePath? hpath) hvalue
  | keywords _ _ hpath =>
      intro clause hclause
      obtain rfl := List.mem_singleton.mp hclause
      exact .keywords (Registry.isPathOf_of_backendPath? hpath)

theorem ScoringClauses.traced {clauses : List Clause} (h : c.ScoringClauses p clauses) :
    ∀ clause ∈ clauses, (∃ q, p.q = some q ∧ clause = .keywords c.keywordFields q) ∨
      ∃ condition ∈ p.fieldQueries, c.registry.ClauseOf condition clause := by
  intro clause hclause
  rcases h.mem_iff.mp hclause with hword | ⟨condition, hcondition, part, hstands, hmem⟩
  · obtain ⟨q, hq, -, hkeywords⟩ := mem_wordClauses_iff.mp hword
    exact Or.inl ⟨q, hq, hkeywords⟩
  · exact Or.inr ⟨condition, hcondition, hstands.clauseOf clause hmem⟩

theorem filter_traced {conditions : List Condition} {clauses : List Clause}
    (h : List.Forall₂ c.FilterClause conditions clauses) :
    ∀ clause ∈ clauses, ∃ condition ∈ conditions,
      ∃ path, c.registry.IsPathOf condition.field path ∧ clause = .term path condition.value := by
  intro clause hclause
  obtain ⟨condition, hcondition, path, hpath, hterm⟩ := exists_of_mem_forall₂ h hclause
  exact ⟨condition, hcondition, path, Registry.isPathOf_of_backendPath? hpath, hterm⟩

theorem query_ne_terms {query : Query} (h : c.query p = .ok query) (path : String)
    (values : List String) : query ≠ .terms path values := by
  obtain ⟨clauses, filter, -, -, rfl⟩ := query_eq_ok_iff.mp h
  split <;> simp

theorem aggregation_traced {facet : String} {size : Int} {a : Aggregation}
    (h : c.aggregation facet size = .ok a) : c.registry.AggregationOf facet a := by
  rw [aggregation_eq] at h
  split at h
  · next hdistances =>
      rw [← Except.ok.inj h]
      exact .distances hdistances.1
  · split at h
    · obtain ⟨path, hpath, hdates⟩ := bind_eq_ok_iff.mp h
      rw [← pure_eq_ok_iff.mp hdates]
      exact .dates (Registry.isPathOf_of_backendPath? (resolve_eq_ok_iff.mp hpath)) _
    · obtain ⟨path, hpath, hterms⟩ := bind_eq_ok_iff.mp h
      rw [← pure_eq_ok_iff.mp hterms]
      exact .terms (Registry.isPathOf_of_wholeValuePath? (resolve_eq_ok_iff.mp hpath)) size

theorem aggregations_traced {size : Int} {aggregations : List (String × Aggregation)}
    (h : c.aggregations p.facets size = .ok aggregations) :
    ∀ e ∈ aggregations, e.1 ∈ p.facets.getD [] ∧ c.registry.AggregationOf e.1 e.2 := by
  obtain ⟨hkeys, heach⟩ := aggregations_of_eq_ok h
  intro e he
  refine ⟨?_, aggregation_traced (heach e he)⟩
  rw [← List.mem_eraseDups, ← hkeys]
  exact List.mem_map_of_mem he

theorem defaultSort_traced : ∀ key ∈ defaultSort p, c.registry.SortKeyOf p key := by
  unfold defaultSort
  split
  · simp [Registry.SortKeyOf.storage]
  · simp [Registry.SortKeyOf.score, Registry.SortKeyOf.storage]

theorem sort_traced {keys : List SortKey} (h : c.sort p = .ok keys) :
    ∀ key ∈ keys, c.registry.SortKeyOf p key := by
  unfold sort SearchRequest.sort? at h
  cases hsort : p.sortBy with
  | none =>
      simp only [hsort, Except.ok.injEq] at h
      exact h ▸ defaultSort_traced
  | some name =>
      cases hpin : p.sortByPin with
      | some pin =>
          simp only [hsort, hpin] at h
          obtain ⟨path, hpath, hkeys⟩ := bind_eq_ok_iff.mp h
          rw [← pure_eq_ok_iff.mp hkeys]
          have hkey : c.registry.SortKeyOf p (.distance path pin) :=
            .distance hsort (Registry.isPathOf_of_backendPath? (resolve_eq_ok_iff.mp hpath)) hpin
          simp [hkey, Registry.SortKeyOf.score, Registry.SortKeyOf.storage]
      | none =>
          simp only [hsort, hpin] at h
          split at h
          · exact Except.ok.inj h ▸ defaultSort_traced
          · exact Except.ok.inj h ▸ defaultSort_traced
          · next path _ hpath =>
              have hkey : c.registry.SortKeyOf p (.field path p.sortOrder) :=
                .field hsort (Registry.isPathOf_of_nonAnalyzedPath? hpath)
              rw [← Except.ok.inj h]
              simp [hkey, Registry.SortKeyOf.score, Registry.SortKeyOf.storage]

theorem source_traced {fields : Option (List String)} {paths : List String}
    (h : c.source fields = .ok paths) :
    ∀ path ∈ paths, path = "*" ∨ ∃ name ∈ fields.getD [], c.registry.IsPathOf name path := by
  unfold source at h
  split at h
  · rw [← Except.ok.inj h]
    simp
  · rw [← Except.ok.inj h]
    simp
  · next names _ =>
      intro path hpath
      obtain ⟨name, hname, hresolves⟩ :=
        exists_of_mem_forall₂ (mapM_eq_ok_iff_forall₂.mp h) hpath
      exact Or.inr ⟨name, hname,
        Registry.isPathOf_of_backendPath? (resolve_eq_ok_iff.mp hresolves)⟩

theorem searchBody_traced {body : Body} (h : c.searchBody p = .ok body) : c.Traced p body := by
  obtain ⟨query, aggregations, sort, source, hquery, haggregations, hsort, hsource, rfl⟩ :=
    searchBody_eq_ok_iff.mp h
  obtain ⟨hscoring, hfiltering⟩ := query_clauses hquery
  exact
    { scoring := hscoring.traced
      filtering := filter_traced hfiltering
      noTerms := query_ne_terms hquery
      aggregations := aggregations_traced haggregations
      sort := sort_traced hsort
      source := source_traced hsource }

/-- A request for a random item is traced like a search that has nothing but its filter. -/
theorem randomBody_traced {p : RandomRequest} {body : Body} (h : c.randomBody p = .ok body) :
    c.Traced { filter := p.filter } body := by
  obtain ⟨filter, hfilter, rfl⟩ := randomBody_eq_ok_iff.mp h
  exact
    { scoring := by simp [Query.scoring]
      filtering := filter_traced hfilter.each
      noTerms := by simp
      aggregations := by simp
      sort := by simp
      source := by simp }

end Compiler

end ItemSearch
