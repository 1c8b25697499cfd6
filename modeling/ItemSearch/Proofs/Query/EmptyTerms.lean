import ItemSearch.Proofs.Query.Phrase
import ItemSearch.Proofs.Query.TermPaths
import ItemSearch.Proofs.Validation.Acceptance
import ItemSearch.Proofs.Validation.FilterExpression

/-!
Exact matches that ask for the empty value. The length of a value is checked as it is given, with
the blanks and the quotation marks that come off before it is searched for. `LeavesNothing` lists
the ways in which nothing may be left where a term should be: of a value that is all blanks, of an
operand between the marks that is all blanks, and of an operand that is a pair of marks. A filter
cannot come to that, because its values are checked after they have been taken apart.
-/

namespace ItemSearch

namespace Query

open Text

/-- One of the texts between the occurrences of AND and OR. -/
def IsOperand (s operand : List Char) : Prop :=
  ∃ parts, Pieces "AND".toList s parts ∧ ∃ part ∈ parts, ∃ operands,
    Pieces "OR".toList part operands ∧ operand ∈ operands

/-- The ways in which a value comes to have an empty term. -/
inductive LeavesNothing (s : List Char) : Prop where
  /-- There is nothing but blanks. -/
  | blank (hblank : ∀ c ∈ s, isBlank c = true)
  /-- The marks around the whole come off, and an operand between them is all blanks. -/
  | between {inside operand : List Char} (hs : trimChars s = marked inside) (hmark : '"' ∉ inside)
      (hoperand : IsOperand inside operand) (hblank : ∀ c ∈ operand, isBlank c = true)
  /-- No marks come off the whole, and an operand is a pair of marks. -/
  | marks (hs : ∀ inside, '"' ∉ inside → trimChars s ≠ marked inside)
      (hoperand : IsOperand (trimChars s) (marked []))

/-! ### Operands -/

theorem isOperand_iff {s operand : List Char} : IsOperand s operand ↔
    operand ∈ (splitWordChars "AND".toList s).flatMap (splitWordChars "OR".toList) := by
  rw [List.mem_flatMap]
  constructor
  · rintro ⟨parts, hparts, part, hpart, operands, hoperands, hmem⟩
    rw [← hparts.splitWordChars_eq bare_and] at hpart
    rw [← hoperands.splitWordChars_eq bare_or] at hmem
    exact ⟨part, hpart, hmem⟩
  · rintro ⟨part, hpart, hmem⟩
    exact ⟨_, pieces_splitWordChars bare_and s, part, hpart, _,
      pieces_splitWordChars bare_or part, hmem⟩

theorem mem_termsWithin_iff {s term : List Char} : term ∈ termsWithin s ↔
    ∃ operand, IsOperand s operand ∧ stripQuotesChars (trimChars operand) = term := by
  simp only [termsWithin, List.mem_map, isOperand_iff]

theorem IsOperand.subset {s operand : List Char} (h : IsOperand s operand) : operand ⊆ s := by
  obtain ⟨parts, hparts, part, hpart, operands, hoperands, hmem⟩ := h
  exact List.Subset.trans (hoperands.subset operand hmem) (hparts.subset part hpart)

theorem IsOperand.solid {s operand : List Char} (h : IsOperand s operand) (hs : Solid s) :
    Solid operand := by
  obtain ⟨parts, hparts, part, hpart, operands, hoperands, hmem⟩ := h
  exact hoperands.solid_of_mem (hparts.solid_of_mem hs part hpart) operand hmem

theorem isOperand_nil : IsOperand [] [] :=
  ⟨_, .last not_hasOperator_nil, [], List.mem_singleton_self [], _, .last not_hasOperator_nil,
    List.mem_singleton_self []⟩

/-! ### What blanks and marks leave -/

theorem trimChars_eq_nil_iff {s : List Char} :
    trimChars s = [] ↔ ∀ c ∈ s, isBlank c = true := by
  constructor
  · intro htrim
    obtain ⟨before, after, hbefore, hafter, hs⟩ := exists_blanks_around s
    rw [htrim, List.nil_append] at hs
    rw [hs]
    exact List.forall_mem_append.mpr ⟨hbefore, hafter⟩
  · intro hblank
    have hdrop : (s ++ []).dropWhile isBlank = [] :=
      dropWhile_append_of_blank hblank (by simp [StartsBare])
    rw [List.append_nil] at hdrop
    rw [trimChars, hdrop]
    rfl

/-- Marks come off around a text that has no others, and nothing else comes off. -/
theorem stripQuotesChars_cases (s : List Char) :
    (∃ inside, '"' ∉ inside ∧ s = marked inside ∧ stripQuotesChars s = inside) ∨
      (∀ inside, '"' ∉ inside → s ≠ marked inside) ∧ stripQuotesChars s = s := by
  by_cases hs : ∃ inside, '"' ∉ inside ∧ s = marked inside
  · obtain ⟨inside, hmark, rfl⟩ := hs
    exact Or.inl ⟨inside, hmark, rfl, stripQuotesChars_marked hmark⟩
  · have hne : ∀ inside, '"' ∉ inside → s ≠ marked inside :=
      fun inside hmark heq => hs ⟨inside, hmark, heq⟩
    refine Or.inr ⟨hne, ?_⟩
    unfold stripQuotesChars
    split
    · next rest =>
        split
        · next inner hreverse =>
            split
            · rfl
            · next hmark =>
                have hrest : rest = inner.reverse ++ ['"'] := by
                  simpa using congrArg List.reverse hreverse
                exact absurd (by simp [marked, hrest]) (hne inner.reverse (by simpa using hmark))
        · rfl
    · rfl

theorem stripQuotesChars_eq_nil_iff {s : List Char} :
    stripQuotesChars s = [] ↔ s = [] ∨ s = marked [] := by
  rcases stripQuotesChars_cases s with ⟨inside, -, rfl, hstrip⟩ | ⟨hne, hstrip⟩
  · rw [hstrip]
    simp [marked]
  · rw [hstrip, or_iff_left (hne [] List.not_mem_nil)]

/-- Without marks an operand leaves nothing if it is all blanks. -/
theorem nil_mem_termsWithin_iff_of_not_mem {s : List Char} (h : '"' ∉ s) :
    [] ∈ termsWithin s ↔ ∃ operand, IsOperand s operand ∧ ∀ c ∈ operand, isBlank c = true := by
  rw [mem_termsWithin_iff]
  refine exists_congr fun operand => and_congr_right fun hoperand => ?_
  have hmark : '"' ∉ trimChars operand :=
    fun hmem => h (hoperand.subset (trimChars_subset operand hmem))
  rw [stripQuotesChars_of_not_mem hmark, trimChars_eq_nil_iff]

/-- Without blanks at the ends an operand leaves nothing if it is a pair of marks. -/
theorem nil_mem_termsWithin_iff_of_solid {s : List Char} (h : Solid s) :
    [] ∈ termsWithin s ↔ IsOperand s (marked []) := by
  rw [mem_termsWithin_iff]
  constructor
  · rintro ⟨operand, hoperand, hnil⟩
    have hsolid := hoperand.solid h
    rw [trimChars_of_bare hsolid.startsBare hsolid.endsBare, stripQuotesChars_eq_nil_iff,
      or_iff_right hsolid.ne_nil] at hnil
    exact hnil ▸ hoperand
  · exact fun hoperand => ⟨marked [], hoperand, by rw [trimChars_marked]; rfl⟩

/-- A value has an empty term in these ways and no others. -/
theorem empty_mem_splitTerms_iff {value : String} :
    "" ∈ splitTerms value ↔ LeavesNothing value.toList := by
  have hchars : "" ∈ splitTerms value ↔
      [] ∈ termsWithin (stripQuotesChars (trimChars value.toList)) := by
    rw [splitTerms, splitTermsChars_eq, List.mem_map]
    simp
  rw [hchars]
  rcases stripQuotesChars_cases (trimChars value.toList) with
    ⟨inside, hmark, hinside, hstrip⟩ | ⟨hne, hstrip⟩
  · rw [hstrip, nil_mem_termsWithin_iff_of_not_mem hmark]
    constructor
    · rintro ⟨operand, hoperand, hblank⟩
      exact .between hinside hmark hoperand hblank
    · intro h
      cases h with
      | blank hblank =>
          rw [trimChars_eq_nil_iff.mpr hblank] at hinside
          exact absurd hinside (List.cons_ne_nil _ _).symm
      | marks hne => exact absurd hinside (hne inside hmark)
      | @between inside' operand hinside' _ hoperand hblank =>
          obtain rfl : inside' = inside := by
            simpa [marked] using hinside'.symm.trans hinside
          exact ⟨operand, hoperand, hblank⟩
  · rw [hstrip]
    by_cases hblank : ∀ c ∈ value.toList, isBlank c = true
    · rw [trimChars_eq_nil_iff.mpr hblank]
      exact iff_of_true (mem_termsWithin_iff.mpr ⟨[], isOperand_nil, rfl⟩) (.blank hblank)
    · have hsolid : Solid (trimChars value.toList) :=
        ⟨trimChars_eq_nil_iff.not.mpr hblank, startsBare_trimChars _, endsBare_trimChars _⟩
      rw [nil_mem_termsWithin_iff_of_solid hsolid]
      constructor
      · exact fun hoperand => .marks hne hoperand
      · intro h
        cases h with
        | blank h => exact absurd h hblank
        | marks _ hoperand => exact hoperand
        | between hinside hmark _ _ => exact absurd hinside (hne _ hmark)

end Query

namespace Validator

variable {v : Validator} {raw : RawParams}

/-- The values of a filter are checked one by one, as they are searched for. -/
theorem value_ne_empty_of_filtered {filter : Option (List Condition)}
    (h : raw.Says "filter" (Present (FilterReads v.urls v.registry)) none filter) :
    ∀ condition ∈ filter.getD [], condition.value ≠ "" := by
  cases filter with
  | none => simp
  | some conditions =>
      obtain ⟨s, -, f, -, -, -, _, values, -, -, hfits, rfl⟩ := h.exists_value
      intro condition hmem
      obtain ⟨value, hvalue, rfl⟩ := List.mem_map.mp hmem
      exact (hfits value hvalue).ne_empty

/-- The terms of an accepted exact match are all of them non-empty just where of no value that is
given for a field nothing is left. Names that ask for a range have no terms, and the terms of a
filter are never empty. -/
theorem exact_terms_nonempty_iff (v : Validator) (keywordFields : List String) (raw : RawParams)
    {p : SearchRequest} {body : Body} (hp : v.search raw = .ok p)
    (hexact : raw.value? "exact_field_match" = some "true")
    (hbody : Compiler.searchBody ⟨v.registry, keywordFields⟩ p = .ok body) :
    (∀ path value, Clause.term path value ∈ body.query.filtering → value ≠ "") ∧
      ((∀ path value, Clause.term path value ∈ body.query.scoring → value ≠ "") ↔
        ∀ name ∈ v.registry.searchableNames, ∀ value, raw.value? name = some value →
          ¬ IsRangeName name → ¬ Query.LeavesNothing value.toList) := by
  have hreads := (search_eq_ok_iff.mp hp).2
  obtain ⟨query, _, _, _, hquery, -, -, -, rfl⟩ := Compiler.searchBody_eq_ok_iff.mp hbody
  obtain ⟨hscoring, hfiltering⟩ := Compiler.query_clauses hquery
  have hmatch : p.exactFieldMatch = true :=
    (exactFieldMatch_eq_true_iff hreads.exactFieldMatch).mpr hexact
  refine ⟨?_, ?_⟩
  · intro path value hmem
    obtain ⟨condition, hcondition, path', -, heq⟩ := exists_of_mem_forall₂ hfiltering hmem
    obtain ⟨rfl, rfl⟩ := Clause.term.inj heq
    exact value_ne_empty_of_filtered hreads.filter condition hcondition
  · constructor
    · intro hterms name hname value hvalue hrange hnothing
      have hcondition : ⟨name, value⟩ ∈ p.fieldQueries := by
        rw [hreads.fieldQueries]
        exact mem_givenConditions_iff.mpr ⟨hname, hvalue⟩
      obtain ⟨path, hpath⟩ :=
        Option.isSome_iff_exists.mp (hreads.exactMatch hmatch _ hcondition hrange)
      exact hterms path "" (hscoring.term_mem_iff.mpr ⟨hmatch, _, hcondition, hrange, hpath,
        Query.empty_mem_splitTerms_iff.mpr hnothing⟩) rfl
    · rintro hnothing path _ hmem rfl
      obtain ⟨-, condition, hcondition, hrange, -, hempty⟩ := hscoring.term_mem_iff.mp hmem
      rw [hreads.fieldQueries, mem_givenConditions_iff] at hcondition
      exact hnothing condition.field hcondition.1 condition.value hcondition.2 hrange
        (Query.empty_mem_splitTerms_iff.mp hempty)

/-- Two terms and a filter, none of them empty. -/
theorem exact_terms_nonempty_cats_and_dogs :
    ∃ p body, search ⟨Profile.registry, 500, .sample⟩
        [("exact_field_match", "true"), ("sourceResource.title", "\"cats\" AND dogs"),
         ("filter", "provider.name:NARA")] = .ok p ∧
      RawParams.value?
        [("exact_field_match", "true"), ("sourceResource.title", "\"cats\" AND dogs"),
         ("filter", "provider.name:NARA")] "exact_field_match" = some "true" ∧
      Compiler.searchBody ⟨Profile.registry, []⟩ p = .ok body ∧
      body.query.scoring = [.term "sourceResource.title.not_analyzed" "cats",
        .term "sourceResource.title.not_analyzed" "dogs"] ∧
      (∀ path value, Clause.term path value ∈ body.query.filtering → value ≠ "") ∧
      ¬ Query.LeavesNothing "\"cats\" AND dogs".toList := by
  have hp : search ⟨Profile.registry, 500, .sample⟩
      [("exact_field_match", "true"), ("sourceResource.title", "\"cats\" AND dogs"),
       ("filter", "provider.name:NARA")] = .ok
        { exactFieldMatch := true
          fieldQueries := [⟨"sourceResource.title", "\"cats\" AND dogs"⟩]
          filter := some [⟨"provider.name", "NARA"⟩] } :=
    toOption_eq_some_iff.mp (by decide +kernel)
  have hexact : RawParams.value?
      [("exact_field_match", "true"), ("sourceResource.title", "\"cats\" AND dogs"),
       ("filter", "provider.name:NARA")] "exact_field_match" = some "true" := by decide
  have hbody : Compiler.searchBody ⟨Profile.registry, []⟩
      { exactFieldMatch := true
        fieldQueries := [⟨"sourceResource.title", "\"cats\" AND dogs"⟩]
        filter := some [⟨"provider.name", "NARA"⟩] } = .ok
        { start := some 0
          size := 10
          query := .bool
            { must := some [.term "sourceResource.title.not_analyzed" "cats",
                .term "sourceResource.title.not_analyzed" "dogs"]
              filter := some [.term "provider.name" "NARA"] }
          aggregations := some []
          sort := some [.score, .storage]
          source := some ["*"]
          countsAllHits := true } :=
    toOption_eq_some_iff.mp (by decide +kernel)
  obtain ⟨hfilter, hterms⟩ :=
    exact_terms_nonempty_iff ⟨Profile.registry, 500, .sample⟩ [] _ hp hexact hbody
  have hscoring : ∀ path value, Clause.term path value ∈
      [Clause.term "sourceResource.title.not_analyzed" "cats",
        .term "sourceResource.title.not_analyzed" "dogs"] → value ≠ "" := by
    intro path value hmem
    simp only [List.mem_cons, Clause.term.injEq, List.not_mem_nil, or_false] at hmem
    rcases hmem with ⟨-, rfl⟩ | ⟨-, rfl⟩ <;> decide
  have hname : ¬ IsRangeName "sourceResource.title" := by
    rw [← Compiler.boundOf?_eq_none_iff]
    decide
  exact ⟨_, _, hp, hexact, hbody, rfl, hfilter, hterms.mp hscoring "sourceResource.title"
    (by decide +kernel) _ (by decide) hname⟩

/-- A pair of marks is long enough for a title, and the empty one is searched for. -/
theorem empty_title_is_term :
    ∃ p body, search ⟨Profile.registry, 500, .sample⟩
        [("exact_field_match", "true"), ("sourceResource.title", "\"\"")] = .ok p ∧
      Compiler.searchBody ⟨Profile.registry, []⟩ p = .ok body ∧
      .term "sourceResource.title.not_analyzed" "" ∈ body.query.scoring := by
  have hp : search ⟨Profile.registry, 500, .sample⟩
      [("exact_field_match", "true"), ("sourceResource.title", "\"\"")] = .ok
        { exactFieldMatch := true
          fieldQueries := [⟨"sourceResource.title", "\"\""⟩] } :=
    toOption_eq_some_iff.mp (by decide +kernel)
  have hbody : Compiler.searchBody ⟨Profile.registry, []⟩
      { exactFieldMatch := true
        fieldQueries := [⟨"sourceResource.title", "\"\""⟩] } = .ok
        { start := some 0
          size := 10
          query := .bool { must := some [.term "sourceResource.title.not_analyzed" ""] }
          aggregations := some []
          sort := some [.score, .storage]
          source := some ["*"]
          countsAllHits := true } :=
    toOption_eq_some_iff.mp (by decide +kernel)
  exact ⟨_, _, hp, hbody, by simp [Query.scoring]⟩

end Validator

end ItemSearch
