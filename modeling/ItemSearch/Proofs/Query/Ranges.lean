import ItemSearch.Proofs.Query.TermPaths

/-!
Which conditions become ranges. A name that ends in `.before` or `.after` asks for a range, and a
condition on it that counts for the ranking becomes just this range, whether whole values are to be
matched or not. A filter compares for equality whatever the name asks for, so in a filter the same
condition holds only for items that begin or end on the date itself.
-/

namespace ItemSearch

/-- The name asks for a range that is closed at this end. -/
inductive AsksFor (name : String) : Bound → Prop where
  | before (h : ".before".toList <:+ name.toList) : AsksFor name .atMost
  | after (h : ".after".toList <:+ name.toList) : AsksFor name .atLeast

theorem isRangeName_iff_asksFor {name : String} :
    IsRangeName name ↔ ∃ bound, AsksFor name bound := by
  constructor
  · rintro (h | h)
    · exact ⟨_, .before h⟩
    · exact ⟨_, .after h⟩
  · rintro ⟨_, h | h⟩
    · exact Or.inl h
    · exact Or.inr h

/-- The part of a query that stands for one condition: just the range where the name asks for one,
and no range at all otherwise. -/
structure Registry.ConditionPart (r : Registry) (condition : Condition) (part : List Clause) :
    Prop where
  range : ∀ bound, AsksFor condition.field bound → ∃ path,
    r.backendPath? condition.field = some path ∧ part = [.range path bound condition.value]
  other : ¬ IsRangeName condition.field → ∀ path bound value, .range path bound value ∉ part

namespace Compiler

variable {c : Compiler} {name : String} {condition : Condition}

/-- No name asks for both ends, so it does not matter which ending is looked for first. -/
theorem boundOf?_eq_some_iff {bound : Bound} : boundOf? name = some bound ↔ AsksFor name bound := by
  have hexclusive : ".before".toList <:+ name.toList → ¬ ".after".toList <:+ name.toList := by
    intro hbefore hafter
    have hsuffix := List.suffix_or_suffix_of_suffix hbefore hafter
    revert hsuffix
    decide
  simp only [boundOf?, List.isSuffixOf_iff_suffix]
  by_cases hbefore : ".before".toList <:+ name.toList
  · rw [if_pos hbefore, Option.some.injEq]
    constructor
    · rintro rfl
      exact .before hbefore
    · rintro (_ | hafter)
      · rfl
      · exact absurd hafter (hexclusive hbefore)
  · rw [if_neg hbefore]
    by_cases hafter : ".after".toList <:+ name.toList
    · rw [if_pos hafter, Option.some.injEq]
      constructor
      · rintro rfl
        exact .after hafter
      · rintro (h | _)
        · exact absurd h hbefore
        · rfl
    · rw [if_neg hafter]
      constructor
      · simp
      · rintro (h | h)
        · exact absurd h hbefore
        · exact absurd h hafter

theorem ConditionClauses.conditionPart {exact : Bool} {part : List Clause}
    (h : c.ConditionClauses exact condition part) : c.registry.ConditionPart condition part := by
  cases h with
  | @range bound path hbound hpath =>
      have hasks := boundOf?_eq_some_iff.mp hbound
      refine ⟨fun bound' hbound' => ⟨path, hpath, ?_⟩, fun hname => ?_⟩
      · have hsame := boundOf?_eq_some_iff.mpr hbound'
        rw [Option.some.inj (hbound.symm.trans hsame)]
      · exact absurd (isRangeName_iff_asksFor.mpr ⟨bound, hasks⟩) hname
  | terms hname _ _ =>
      refine ⟨fun bound hasks => ?_, fun _ => by simp⟩
      exact absurd (isRangeName_iff_asksFor.mpr ⟨bound, hasks⟩) hname
  | keywords hname _ _ =>
      refine ⟨fun bound hasks => ?_, fun _ => by simp⟩
      exact absurd (isRangeName_iff_asksFor.mpr ⟨bound, hasks⟩) hname

end Compiler

namespace Validator

/-- Of the conditions of an accepted search, those that ask for a range become the range, on the
path of their field and with their value as its bound, and nothing else, in exact matches too; the
others become no range. The conditions of a filter all become terms on the paths of their fields,
those that ask for a range included. -/
theorem ranges_of_accepted (maxPageSize : Int) (urls : Url.Check) (keywordFields : List String)
    (raw : RawParams) :
    (∀ p, search ⟨Profile.registry, maxPageSize, urls⟩ raw = .ok p →
      ∃ body parts, Compiler.searchBody ⟨Profile.registry, keywordFields⟩ p = .ok body ∧
        body.query.scoring = Compiler.wordClauses ⟨Profile.registry, keywordFields⟩ p.q ++
          parts.flatten ∧
        List.Forall₂ Profile.registry.ConditionPart p.fieldQueries parts ∧
        List.Forall₂ (Compiler.FilterClause ⟨Profile.registry, keywordFields⟩) (p.filter.getD [])
          body.query.filtering) ∧
    ∀ p, random ⟨Profile.registry, maxPageSize, urls⟩ raw = .ok p →
      ∃ body, Compiler.randomBody ⟨Profile.registry, keywordFields⟩ p = .ok body ∧
        body.query.scoring = [] ∧
        List.Forall₂ (Compiler.FilterClause ⟨Profile.registry, keywordFields⟩) (p.filter.getD [])
          body.query.filtering := by
  refine ⟨?_, ?_⟩
  · intro p hp
    obtain ⟨body, hbody⟩ := exists_searchBody_of_accepted keywordFields hp
    obtain ⟨query, _, _, _, hquery, -, -, -, hparts⟩ := Compiler.searchBody_eq_ok_iff.mp hbody
    obtain ⟨⟨parts, heach, hscoring⟩, hfiltering⟩ := Compiler.query_clauses hquery
    have hsame : body.query = query := by rw [hparts]
    refine ⟨body, parts, hbody, ?_, ?_, ?_⟩
    · rw [hsame, hscoring]
    · exact heach.imp fun _ _ h => h.conditionPart
    · rw [hsame]
      exact hfiltering
  · intro p hp
    obtain ⟨body, hbody⟩ := exists_randomBody_of_accepted keywordFields hp
    obtain ⟨filter, hfilter, rfl⟩ := Compiler.randomBody_eq_ok_iff.mp hbody
    exact ⟨_, hbody, rfl, hfilter.each⟩

/-- An exact match before a date and a filter after one. -/
theorem ranges_of_exact_date :
    (search ⟨Profile.registry, 500, .sample⟩
        [("exact_field_match", "true"), ("sourceResource.date.before", "1990"),
         ("filter", "sourceResource.date.after:1850")] = .ok
        { exactFieldMatch := true
          fieldQueries := [⟨"sourceResource.date.before", "1990"⟩]
          filter := some [⟨"sourceResource.date.after", "1850"⟩] } ∧
      ∃ body parts, Compiler.searchBody ⟨Profile.registry, []⟩
          { exactFieldMatch := true
            fieldQueries := [⟨"sourceResource.date.before", "1990"⟩]
            filter := some [⟨"sourceResource.date.after", "1850"⟩] } = .ok body ∧
        body.query.scoring = parts.flatten ∧
        List.Forall₂ Profile.registry.ConditionPart [⟨"sourceResource.date.before", "1990"⟩] parts ∧
        List.Forall₂ (Compiler.FilterClause ⟨Profile.registry, []⟩)
          [⟨"sourceResource.date.after", "1850"⟩] body.query.filtering) ∧
    random ⟨Profile.registry, 500, .sample⟩ [("filter", "sourceResource.date.after:1850")] = .ok
        { filter := some [⟨"sourceResource.date.after", "1850"⟩] } ∧
      ∃ body, Compiler.randomBody ⟨Profile.registry, []⟩
          { filter := some [⟨"sourceResource.date.after", "1850"⟩] } = .ok body ∧
        body.query.scoring = [] ∧
        List.Forall₂ (Compiler.FilterClause ⟨Profile.registry, []⟩)
          [⟨"sourceResource.date.after", "1850"⟩] body.query.filtering := by
  have hsearch : search ⟨Profile.registry, 500, .sample⟩
      [("exact_field_match", "true"), ("sourceResource.date.before", "1990"),
       ("filter", "sourceResource.date.after:1850")] = .ok
        { exactFieldMatch := true
          fieldQueries := [⟨"sourceResource.date.before", "1990"⟩]
          filter := some [⟨"sourceResource.date.after", "1850"⟩] } :=
    toOption_eq_some_iff.mp (by decide +kernel)
  have hrandom : random ⟨Profile.registry, 500, .sample⟩
      [("filter", "sourceResource.date.after:1850")] = .ok
        { filter := some [⟨"sourceResource.date.after", "1850"⟩] } :=
    toOption_eq_some_iff.mp (by decide +kernel)
  exact ⟨⟨hsearch, (ranges_of_accepted 500 .sample [] _).1 _ hsearch⟩, hrandom,
    (ranges_of_accepted 500 .sample [] _).2 _ hrandom⟩

/-- A filter on what happened before a date asks for what begins on the date itself. -/
theorem filter_before_is_equality :
    AsksFor "sourceResource.date.before" .atMost ∧
      ∃ p body,
        search ⟨Profile.registry, 500, .sample⟩
          [("filter", "sourceResource.date.before:1990")] = .ok p ∧
        p.filter = some [⟨"sourceResource.date.before", "1990"⟩] ∧
        Compiler.searchBody (Compiler.of Profile.registry) p = .ok body ∧
        body.query.scoring = [] ∧
        body.query.filtering = [.term "sourceResource.date.begin" "1990"] := by
  have hp : search ⟨Profile.registry, 500, .sample⟩
      [("filter", "sourceResource.date.before:1990")] = .ok
      { filter := some [⟨"sourceResource.date.before", "1990"⟩] } :=
    toOption_eq_some_iff.mp (by decide +kernel)
  have hbody : Compiler.searchBody (Compiler.of Profile.registry)
      { filter := some [⟨"sourceResource.date.before", "1990"⟩] } = .ok
        { start := some 0
          size := 10
          query := .bool { filter := some [.term "sourceResource.date.begin" "1990"] }
          aggregations := some []
          sort := some [.storage]
          source := some ["*"]
          countsAllHits := true } :=
    toOption_eq_some_iff.mp (by decide +kernel)
  exact ⟨.before (by decide), _, _, hp, rfl, hbody, rfl, rfl⟩

end Validator

end ItemSearch
