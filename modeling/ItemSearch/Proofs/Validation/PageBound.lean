import ItemSearch.Proofs.Query.Clauses

/-!
How many items a body asks for. A page size that is given is checked against the configured bound,
and so is the number of identifiers. The page size that is taken where none is given is not, and it
is above the bound where the bound is below ten.
-/

namespace ItemSearch.Validator

variable {v : Validator} {raw : RawParams} {p : SearchRequest}

/-- A page size is within the bound, or it is the default. -/
theorem Reads.pageSize_cases (h : v.Reads raw p) :
    ((raw.value? "page_size").isSome = true ∧ 0 ≤ p.pageSize ∧ p.pageSize ≤ v.maxPageSize) ∨
      (raw.value? "page_size" = none ∧ p.pageSize = 10) := by
  cases hvalue : raw.value? "page_size" with
  | some s =>
      have hbounds := ((RawParams.says_some hvalue).mp h.pageSize).bounds
      exact Or.inl ⟨rfl, hbounds⟩
  | none =>
      have hdefault := (RawParams.says_none hvalue).mp h.pageSize
      exact Or.inr ⟨rfl, hdefault⟩

/-- An accepted search asks for as many items as its page has, and that is within the bound exactly
if a page size has been given or the bound is no less than the default. Identifiers are never more
than the bound. -/
theorem size_le_maxPageSize_iff (v : Validator) (keywordFields : List String) (raw : RawParams) :
    (∀ p, v.search raw = .ok p →
      0 ≤ p.pageSize ∧
        (p.pageSize ≤ v.maxPageSize ↔
          (raw.value? "page_size").isSome = true ∨ 10 ≤ v.maxPageSize) ∧
        ∀ body, Compiler.searchBody ⟨v.registry, keywordFields⟩ p = .ok body →
          body.size = p.pageSize) ∧
      ∀ path ids, v.identifiers path raw = .ok ids →
        (Compiler.fetchBody ⟨v.registry, keywordFields⟩ ids).size ≤ v.maxPageSize := by
  refine ⟨?_, ?_⟩
  · intro p hp
    have hsize : ∀ body, Compiler.searchBody ⟨v.registry, keywordFields⟩ p = .ok body →
        body.size = p.pageSize := by
      intro body hbody
      obtain ⟨_, _, _, _, -, -, -, -, rfl⟩ := Compiler.searchBody_eq_ok_iff.mp hbody
      rfl
    rcases (search_eq_ok_iff.mp hp).2.pageSize_cases with ⟨hgiven, hle⟩ | ⟨hnone, hdefault⟩
    · exact ⟨hle.1, ⟨fun _ => Or.inl hgiven, fun _ => hle.2⟩, hsize⟩
    · refine ⟨by omega, ?_, hsize⟩
      rw [hdefault, hnone]
      simp
  · intro path ids hids
    obtain ⟨-, -, hfew, -⟩ := identifiers_eq_ok_iff.mp hids
    exact hfew

/-- With a bound of two: a page of two items, and two identifiers. -/
theorem size_le_two :
    (∃ p body, search ⟨Profile.registry, 2, .sample⟩ [("page_size", "2")] = .ok p ∧
      Compiler.searchBody (Compiler.of Profile.registry) p = .ok body ∧
      (p.pageSize ≤ 2 ↔
        (RawParams.value? [("page_size", "2")] "page_size").isSome = true ∨ (10 : Int) ≤ 2) ∧
      body.size = p.pageSize) ∧
    ∃ ids, identifiers ⟨Profile.registry, 2, .sample⟩
        "0123456789abcdef0123456789abcdef,0123456789ABCDEF0123456789ABCDEF" [] = .ok ids ∧
      (Compiler.fetchBody (Compiler.of Profile.registry) ids).size ≤ 2 := by
  have hp : search ⟨Profile.registry, 2, .sample⟩ [("page_size", "2")] = .ok { pageSize := 2 } :=
    toOption_eq_some_iff.mp (by decide +kernel)
  have hbody : Compiler.searchBody (Compiler.of Profile.registry) { pageSize := 2 } = .ok
      { start := some 0, size := 2, query := .matchAll, aggregations := some [],
        sort := some [.storage], source := some ["*"], countsAllHits := true } :=
    toOption_eq_some_iff.mp (by decide +kernel)
  have hids : identifiers ⟨Profile.registry, 2, .sample⟩
      "0123456789abcdef0123456789abcdef,0123456789ABCDEF0123456789ABCDEF" [] = .ok
        ["0123456789abcdef0123456789abcdef", "0123456789ABCDEF0123456789ABCDEF"] :=
    toOption_eq_some_iff.mp (by decide +kernel)
  have hsearch := size_le_maxPageSize_iff ⟨Profile.registry, 2, .sample⟩ Compiler.itemKeywordFields
    [("page_size", "2")]
  have hfetch :=
    size_le_maxPageSize_iff ⟨Profile.registry, 2, .sample⟩ Compiler.itemKeywordFields []
  obtain ⟨-, hle, hsize⟩ := hsearch.1 _ hp
  exact ⟨⟨_, _, hp, hbody, hle, hsize _ hbody⟩, _, hids, hfetch.2 _ _ hids⟩

/-- With a bound of two, a search that says nothing of its page size has pages of ten items. -/
theorem default_pageSize_above_bound :
    ∃ p body, search ⟨Profile.registry, 2, .sample⟩ [] = .ok p ∧
      Compiler.searchBody (Compiler.of Profile.registry) p = .ok body ∧
      ¬ p.pageSize ≤ 2 ∧ ¬ body.size ≤ 2 := by
  have hp : search ⟨Profile.registry, 2, .sample⟩ [] = .ok {} :=
    toOption_eq_some_iff.mp (by decide +kernel)
  have hbody : Compiler.searchBody (Compiler.of Profile.registry) {} = .ok
      { start := some 0, size := 10, query := .matchAll, aggregations := some [],
        sort := some [.storage], source := some ["*"], countsAllHits := true } :=
    toOption_eq_some_iff.mp (by decide +kernel)
  exact ⟨_, _, hp, hbody, by decide, by decide⟩

end ItemSearch.Validator
