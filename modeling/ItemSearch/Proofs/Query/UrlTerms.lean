import ItemSearch.Proofs.Query.Phrase
import ItemSearch.Proofs.Query.Ranges
import ItemSearch.Proofs.Url.Parts

/-!
The terms that stand for URLs. A value for a URL is checked without the quotation marks around it
and kept with them. Where whole values are matched, the marks come off again and blanks are
trimmed, and AND and OR split the value like any other; a value that they leave whole becomes one
term. The term is a URL as it stands where the blanks that were trimmed off its end are those that
the check passes over. A filter takes a value as it is, so its term is a URL where the value has no
marks around it.
-/

namespace ItemSearch

open Text

namespace Query

/-! ### The term for a URL -/

/-- A text that is one term is one that nothing splits. -/
theorem isUnsplit_of_termsWithin_eq_singleton {s term : List Char} (h : termsWithin s = [term]) :
    IsUnsplit s := by
  obtain ⟨piece, hpiece, -⟩ := List.map_eq_singleton_iff.mp h
  obtain ⟨part, parts, hparts⟩ := List.exists_cons_of_ne_nil (splitWordChars_ne_nil "AND".toList s)
  obtain ⟨first, rest, hfirst⟩ :=
    List.exists_cons_of_ne_nil (splitWordChars_ne_nil "OR".toList part)
  rw [hparts, List.flatMap_cons, hfirst, List.cons_append, List.cons.injEq,
    List.append_eq_nil_iff, List.flatMap_eq_nil_iff] at hpiece
  obtain ⟨-, rfl, hnone⟩ := hpiece
  -- there is no part without pieces, so there is no other part
  have hone : parts = [] := List.eq_nil_iff_forall_not_mem.mpr fun other hother =>
    splitWordChars_ne_nil "OR".toList other (hnone other hother)
  subst hone
  obtain rfl : part = s := ((splitWordChars_eq_iff bare_and).mp hparts).eq_of_singleton
  obtain rfl : first = part := ((splitWordChars_eq_iff bare_or).mp hfirst).eq_of_singleton
  exact ⟨(not_hasOperator_iff bare_and).mpr hparts, (not_hasOperator_iff bare_or).mpr hfirst⟩

theorem splitTerms_eq_singleton_iff {value : String} {inside term : List Char}
    (h : stripQuotesChars (trimChars value.toList) = inside) :
    splitTerms value = [String.ofList term] ↔
      IsUnsplit inside ∧ stripQuotesChars (trimChars inside) = term := by
  have hchars : splitTerms value = [String.ofList term] ↔ termsWithin inside = [term] := by
    rw [splitTerms_eq h, ← List.map_singleton,
      List.map_inj_right fun _ _ => String.ofList_inj.mp]
  rw [hchars]
  constructor
  · intro hterms
    have hunsplit := isUnsplit_of_termsWithin_eq_singleton hterms
    rw [termsWithin_of_isUnsplit hunsplit] at hterms
    exact ⟨hunsplit, (List.cons.inj hterms).1⟩
  · rintro ⟨hunsplit, rfl⟩
    exact termsWithin_of_isUnsplit hunsplit

/-- Marks around a text that has another stay on. -/
theorem stripQuotesChars_marked_of_mem {s : List Char} (h : '"' ∈ s) :
    stripQuotesChars (marked s) = marked s := by
  simp [stripQuotesChars, marked, h]

theorem trimChars_ne_marked (s : List Char) : trimChars s ≠ marked s := by
  obtain ⟨before, after, -, -, hs⟩ := exists_blanks_around s
  intro heq
  have hlength := congrArg List.length hs
  rw [heq] at hlength
  simp only [marked, List.length_append, List.length_cons, List.length_nil] at hlength
  omega

/-- The text of a URL, without the quotation marks and the blanks around it. -/
def bareUrl (value : String) : String := String.ofList (trimChars (Rule.unquoted value.toList))

/-- Neither AND nor OR splits the value, and marks that are around it come off. -/
structure IsOneUrl (value : String) : Prop where
  unsplit : IsUnsplit (Rule.unquoted (trimChars value.toList))
  unmarked : ∀ t, Rule.Quoted value.toList t → '"' ∉ t

theorem splitTerms_quoted_eq_bareUrl_iff {value : String} {t : List Char}
    (ht : Rule.Quoted value.toList t) : splitTerms value = [bareUrl value] ↔ IsOneUrl value := by
  have hvalue : value.toList = marked t := ht
  have hunquoted : Rule.unquoted (marked t) = t := Rule.unquoted_of_quoted rfl
  have hone : IsOneUrl value ↔ IsUnsplit t ∧ '"' ∉ t := by
    constructor
    · rintro ⟨hunsplit, hunmarked⟩
      rw [hvalue, trimChars_marked, hunquoted] at hunsplit
      exact ⟨hunsplit, hunmarked t ht⟩
    · rintro ⟨hunsplit, hunmarked⟩
      refine ⟨by rwa [hvalue, trimChars_marked, hunquoted], fun t' ht' => ?_⟩
      rwa [← Rule.unquoted_of_quoted ht', Rule.unquoted_of_quoted ht]
  rw [bareUrl, hone, hvalue, hunquoted]
  by_cases hmark : '"' ∈ t
  · -- the marks stay on, so the term is longer than the URL
    have hinside : stripQuotesChars (trimChars value.toList) = marked t := by
      rw [hvalue, trimChars_marked, stripQuotesChars_marked_of_mem hmark]
    have hne : marked t ≠ trimChars t := (trimChars_ne_marked t).symm
    rw [splitTerms_eq_singleton_iff hinside, trimChars_marked, stripQuotesChars_marked_of_mem hmark]
    simp [hne, hmark]
  · have hinside : stripQuotesChars (trimChars value.toList) = t := by
      rw [hvalue, trimChars_marked, stripQuotesChars_marked hmark]
    have hstrip : stripQuotesChars (trimChars t) = trimChars t :=
      stripQuotesChars_of_not_mem fun hmem => hmark (trimChars_subset t hmem)
    rw [splitTerms_eq_singleton_iff hinside, hstrip]
    simp [hmark]

variable {urls : Url.Check}

theorem splitTerms_unquoted_eq_bareUrl_iff {value : String}
    (haccepts : urls.accepts value.toList = true) (hquoted : ∀ t, ¬ Rule.Quoted value.toList t) :
    splitTerms value = [bareUrl value] ↔ IsOneUrl value := by
  have hhead := Url.Check.mark_not_mem_head?_trimChars haccepts
  have hstrip := stripQuotesChars_of_head hhead
  have htwice : trimChars (trimChars value.toList) = trimChars value.toList :=
    trimChars_of_bare (startsBare_trimChars _) (endsBare_trimChars _)
  have hunquoted : Rule.unquoted (trimChars value.toList) = trimChars value.toList := by
    apply Rule.unquoted_of_not_quoted
    intro t ht
    apply hhead
    rw [ht]
    rfl
  rw [bareUrl, Rule.unquoted_of_not_quoted hquoted, splitTerms_eq_singleton_iff hstrip, htwice,
    hstrip]
  constructor
  · rintro ⟨hunsplit, -⟩
    exact ⟨by rwa [hunquoted], fun t ht => absurd ht (hquoted t)⟩
  · rintro ⟨hunsplit, -⟩
    exact ⟨by rwa [hunquoted] at hunsplit, rfl⟩

/-- A URL is the only term of its value where the value is one URL, and not otherwise. -/
theorem splitTerms_eq_bareUrl_iff {value : String} (hurl : Rule.IsUrl urls value.toList) :
    splitTerms value = [bareUrl value] ↔ IsOneUrl value := by
  rcases hurl with ⟨t, ht, -⟩ | ⟨hquoted, haccepts⟩
  · exact splitTerms_quoted_eq_bareUrl_iff ht
  · exact splitTerms_unquoted_eq_bareUrl_iff haccepts hquoted

theorem accepts_bareUrl {value : String} (hurl : Rule.IsUrl urls value.toList)
    (hplain : Url.EndsPlain (Rule.unquoted value.toList)) :
    urls.accepts (bareUrl value).toList = true := by
  rw [bareUrl, String.toList_ofList]
  exact Url.Check.accepts_trimChars (Rule.accepts_unquoted_iff.mpr hurl) hplain

end Query

/-! ### The clauses for URLs -/

/-- What stands for a condition on a URL that is matched exactly: the terms of its value, which are
the URL alone where the value is one URL. A name that asks for a range gets no terms. Without the
marks and the blanks around it, a URL that ends plainly is a URL as it stands. -/
structure Registry.UrlPart (urls : Url.Check) (r : Registry) (condition : Condition)
    (part : List Clause) : Prop where
  terms : ¬ IsRangeName condition.field → ∃ path, r.wholeValuePath? condition.field = some path ∧
    part = (Query.splitTerms condition.value).map (Clause.term path) ∧
    (part = [.term path (Query.bareUrl condition.value)] ↔ Query.IsOneUrl condition.value)
  range : IsRangeName condition.field → ∀ path value, .term path value ∉ part
  isUrl : Url.EndsPlain (Rule.unquoted condition.value.toList) →
    urls.accepts (Query.bareUrl condition.value).toList = true

/-- A condition of a filter on a URL becomes a term. Where there are no quotation marks around the
value, the term has the value as it is, which is a URL as it stands. -/
def Registry.UrlFilter (urls : Url.Check) (r : Registry) (conditions : List Condition)
    (clauses : List Clause) : Prop :=
  List.Forall₂ (fun condition clause => r.type? condition.field = some .url →
    ∃ path term, r.backendPath? condition.field = some path ∧ clause = .term path term ∧
      ((∀ t, ¬ Rule.Quoted condition.value.toList t) →
        term = condition.value ∧ urls.accepts term.toList = true)) conditions clauses

namespace Validator

variable {v : Validator} {raw : RawParams} {c : Compiler}

/-- The value of every condition of an accepted search fits its field. -/
theorem Reads.fits {p : SearchRequest} (h : v.Reads raw p) {condition : Condition}
    (hcondition : condition ∈ p.fieldQueries) {type : FieldType}
    (htype : v.registry.type? condition.field = some type) :
    Rule.Fits v.urls type condition.value := by
  rw [h.fieldQueries, mem_givenConditions_iff] at hcondition
  obtain ⟨hname, hvalue⟩ := hcondition
  obtain ⟨f, hmem, hfield, hsearchable⟩ := Registry.mem_searchableNames_iff.mp hname
  rw [← hfield] at htype hvalue
  rw [(Registry.describes_of_mem hmem).type, Option.some.injEq] at htype
  rw [← htype]
  exact h.valuesFit f hmem hsearchable _ hvalue

theorem fits_of_filtered {filter : Option (List Condition)}
    (h : raw.Says "filter" (Present (FilterReads v.urls v.registry)) none filter)
    {condition : Condition} (hcondition : condition ∈ filter.getD []) {type : FieldType}
    (htype : v.registry.type? condition.field = some type) :
    Rule.Fits v.urls type condition.value := by
  cases filter with
  | none => simp at hcondition
  | some conditions =>
      obtain ⟨s, -, f, hf, -, -, _, values, -, -, hfits, rfl⟩ := h.exists_value
      obtain ⟨value, hvalue, rfl⟩ := List.mem_map.mp hcondition
      rw [(Registry.describes_of_mem hf).type, Option.some.injEq] at htype
      rw [← htype]
      exact hfits value hvalue

theorem urlPart_of_conditionClauses {condition : Condition} {part : List Clause}
    (h : c.ConditionClauses true condition part) (hfits : Rule.Fits v.urls .url condition.value) :
    Registry.UrlPart v.urls c.registry condition part := by
  have hvalid := Query.accepts_bareUrl hfits
  cases h with
  | @range bound _ hbound _ =>
      have hname := Compiler.isRangeName_of_boundOf? hbound
      exact ⟨fun hnot => absurd hname hnot, fun _ => by simp, hvalid⟩
  | @terms path hname _ hpath =>
      refine ⟨fun _ => ⟨path, hpath, rfl, ?_⟩, fun hrange => absurd hrange hname, hvalid⟩
      rw [← Query.splitTerms_eq_bareUrl_iff hfits, ← List.map_singleton]
      exact List.map_inj_right fun _ _ heq => (Clause.term.inj heq).2
  | keywords _ hexact _ => simp at hexact

theorem urlFilter_of_filtered {filter : Option (List Condition)}
    (h : raw.Says "filter" (Present (FilterReads v.urls v.registry)) none filter)
    (hc : c.registry = v.registry) {clauses : List Clause}
    (hclauses : List.Forall₂ c.FilterClause (filter.getD []) clauses) :
    Registry.UrlFilter v.urls v.registry (filter.getD []) clauses := by
  have hfits : ∀ condition ∈ filter.getD [], v.registry.type? condition.field = some .url →
      Rule.Fits v.urls .url condition.value := fun _ hmem htype => fits_of_filtered h hmem htype
  refine List.Forall₂.imp ?_ ((List.forall₂_and_left _ _).mpr ⟨hfits, hclauses⟩)
  rintro condition clause ⟨hfit, path, hpath, rfl⟩ htype
  refine ⟨path, condition.value, hc ▸ hpath, rfl, fun hquoted => ⟨rfl, ?_⟩⟩
  have hvalid := Rule.accepts_unquoted_iff.mpr (hfit htype)
  rwa [Rule.unquoted_of_not_quoted hquoted] at hvalid

/-- Where whole values are matched, a condition on a URL becomes one term with the URL just where
its value is one URL, and the term is a URL as it stands where it ends plainly. In a filter it
becomes a term, which is the value and a URL as it stands unless there are quotation marks around
it. -/
theorem url_terms_of_accepted (v : Validator) (keywordFields : List String) (raw : RawParams) :
    (∀ p body, v.search raw = .ok p →
      Compiler.searchBody ⟨v.registry, keywordFields⟩ p = .ok body →
      (p.exactFieldMatch = true → ∃ parts,
        body.query.scoring = Compiler.wordClauses ⟨v.registry, keywordFields⟩ p.q ++
          parts.flatten ∧
        List.Forall₂ (fun condition part => v.registry.type? condition.field = some .url →
          Registry.UrlPart v.urls v.registry condition part) p.fieldQueries parts) ∧
      Registry.UrlFilter v.urls v.registry (p.filter.getD []) body.query.filtering) ∧
    ∀ p body, v.random raw = .ok p →
      Compiler.randomBody ⟨v.registry, keywordFields⟩ p = .ok body →
      body.query.scoring = [] ∧
      Registry.UrlFilter v.urls v.registry (p.filter.getD []) body.query.filtering := by
  constructor
  · intro p body hp hbody
    have hreads := (search_eq_ok_iff.mp hp).2
    obtain ⟨query, _, _, _, hquery, -, -, -, rfl⟩ := Compiler.searchBody_eq_ok_iff.mp hbody
    obtain ⟨⟨parts, hparts, hscoring⟩, hfiltering⟩ := Compiler.query_clauses hquery
    have hfilter := urlFilter_of_filtered hreads.filter rfl hfiltering
    refine ⟨fun hexact => ⟨parts, hscoring, ?_⟩, hfilter⟩
    rw [hexact] at hparts
    have hfits : ∀ condition ∈ p.fieldQueries, v.registry.type? condition.field = some .url →
        Rule.Fits v.urls .url condition.value := fun _ hmem htype => hreads.fits hmem htype
    refine List.Forall₂.imp ?_ ((List.forall₂_and_left _ _).mpr ⟨hfits, hparts⟩)
    rintro condition part ⟨hfit, hpart⟩ htype
    exact urlPart_of_conditionClauses hpart (hfit htype)
  · intro p body hp hbody
    have hsays := (random_eq_ok_iff.mp hp).2
    obtain ⟨filter, hfilter, rfl⟩ := Compiler.randomBody_eq_ok_iff.mp hbody
    exact ⟨rfl, urlFilter_of_filtered hsays rfl hfilter.each⟩

/-- An exact match on a URL between quotation marks, and a filter on two URLs without. -/
theorem url_terms_of_shown_at :
    ∃ p body, search ⟨Profile.registry, 500, .sample⟩
        [("exact_field_match", "true"), ("isShownAt", "\"ark:/12148/item AND/1 \""),
         ("filter", "isShownAt:ark:/12148/btv1 AND ark:/12148/btv2")] = .ok p ∧
      Compiler.searchBody ⟨Profile.registry, []⟩ p = .ok body ∧
      body.query.scoring = [.term "isShownAt" "ark:/12148/item AND/1"] ∧
      Query.IsOneUrl "\"ark:/12148/item AND/1 \"" ∧
      Url.Check.sample.accepts "ark:/12148/item AND/1".toList = true ∧
      Registry.UrlFilter .sample Profile.registry (p.filter.getD []) body.query.filtering := by
  have hp : search ⟨Profile.registry, 500, .sample⟩
      [("exact_field_match", "true"), ("isShownAt", "\"ark:/12148/item AND/1 \""),
       ("filter", "isShownAt:ark:/12148/btv1 AND ark:/12148/btv2")] = .ok
        { exactFieldMatch := true
          fieldQueries := [⟨"isShownAt", "\"ark:/12148/item AND/1 \""⟩]
          filter := some [⟨"isShownAt", "ark:/12148/btv1"⟩,
            ⟨"isShownAt", "ark:/12148/btv2"⟩] } :=
    toOption_eq_some_iff.mp (by decide +kernel)
  have hbody : Compiler.searchBody ⟨Profile.registry, []⟩
      { exactFieldMatch := true
        fieldQueries := [⟨"isShownAt", "\"ark:/12148/item AND/1 \""⟩]
        filter := some [⟨"isShownAt", "ark:/12148/btv1"⟩,
          ⟨"isShownAt", "ark:/12148/btv2"⟩] } = .ok
        { start := some 0
          size := 10
          query := .bool
            { must := some [.term "isShownAt" "ark:/12148/item AND/1"]
              filter := some [.term "isShownAt" "ark:/12148/btv1",
                .term "isShownAt" "ark:/12148/btv2"] }
          aggregations := some []
          sort := some [.score, .storage]
          source := some ["*"]
          countsAllHits := true } :=
    toOption_eq_some_iff.mp (by decide +kernel)
  obtain ⟨hexact, hfilter⟩ :=
    (url_terms_of_accepted ⟨Profile.registry, 500, .sample⟩ [] _).1 _ _ hp hbody
  obtain ⟨parts, hscoring, hparts⟩ := hexact rfl
  obtain ⟨part, rest, hpart, hrest, rfl⟩ := List.forall₂_cons_left_iff.mp hparts
  obtain rfl := List.forall₂_nil_left_iff.mp hrest
  have hurl := hpart (by decide +kernel)
  obtain ⟨path, hpath, -, hone⟩ := hurl.terms (by unfold IsRangeName; decide)
  have hsame : Profile.registry.wholeValuePath? "isShownAt" = some "isShownAt" := by decide +kernel
  obtain rfl : "isShownAt" = path := Option.some.inj (hsame.symm.trans hpath)
  have hterm : part = [.term "isShownAt" "ark:/12148/item AND/1"] := by
    simpa [Query.scoring, Compiler.wordClauses] using hscoring.symm
  have hbare : Query.bareUrl "\"ark:/12148/item AND/1 \"" = "ark:/12148/item AND/1" := by
    decide +kernel
  have haccepts := hurl.isUrl (by decide +kernel)
  rw [hbare] at hone haccepts
  exact ⟨_, _, hp, hbody, rfl, hone.mp hterm, haccepts, hfilter⟩

/-- An operator in a URL splits it into terms that are no URLs, a host that is a blank is trimmed
away, and in a filter the quotation marks around a URL stay on. -/
theorem url_terms_in_pieces :
    (∃ p body, search ⟨Profile.registry, 500, .sample⟩
        [("exact_field_match", "true"), ("isShownAt", "http://dp.la/a AND b")] = .ok p ∧
      Compiler.searchBody ⟨Profile.registry, []⟩ p = .ok body ∧
      .term "isShownAt" "b" ∈ body.query.scoring ∧
      Url.Check.sample.accepts "b".toList = false) ∧
    (∃ p body, search ⟨Profile.registry, 500, .sample⟩
        [("exact_field_match", "true"), ("isShownAt", "foo://u@\u3000")] = .ok p ∧
      Compiler.searchBody ⟨Profile.registry, []⟩ p = .ok body ∧
      .term "isShownAt" "foo://u@" ∈ body.query.scoring ∧
      Url.Check.sample.accepts "foo://u@".toList = false) ∧
    ∃ p body, random ⟨Profile.registry, 500, .sample⟩
        [("filter", "isShownAt:\"http://dp.la/item/123\"")] = .ok p ∧
      Compiler.randomBody ⟨Profile.registry, []⟩ p = .ok body ∧
      .term "isShownAt" "\"http://dp.la/item/123\"" ∈ body.query.filtering ∧
      Url.Check.sample.accepts "\"http://dp.la/item/123\"".toList = false := by
  have hexact : ∀ sent ∈ [("http://dp.la/a AND b", ["http://dp.la/a", "b"]),
        ("foo://u@\u3000", ["foo://u@"])],
      search ⟨Profile.registry, 500, .sample⟩
          [("exact_field_match", "true"), ("isShownAt", sent.1)] = .ok
          { exactFieldMatch := true, fieldQueries := [⟨"isShownAt", sent.1⟩] } ∧
        Compiler.searchBody ⟨Profile.registry, []⟩
          { exactFieldMatch := true, fieldQueries := [⟨"isShownAt", sent.1⟩] } = .ok
            { start := some 0
              size := 10
              query := .bool { must := some (sent.2.map (Clause.term "isShownAt")) }
              aggregations := some []
              sort := some [.score, .storage]
              source := some ["*"]
              countsAllHits := true } := by
    simp only [← toOption_eq_some_iff]
    decide +kernel
  have hrandom : random ⟨Profile.registry, 500, .sample⟩
      [("filter", "isShownAt:\"http://dp.la/item/123\"")] = .ok
        { filter := some [⟨"isShownAt", "\"http://dp.la/item/123\""⟩] } :=
    toOption_eq_some_iff.mp (by decide +kernel)
  have hrandomBody : Compiler.randomBody ⟨Profile.registry, []⟩
      { filter := some [⟨"isShownAt", "\"http://dp.la/item/123\""⟩] } = .ok
        { size := 1
          query := .random (some [.term "isShownAt" "\"http://dp.la/item/123\""]) } :=
    toOption_eq_some_iff.mp (by decide +kernel)
  obtain ⟨hsplit, hsplitBody⟩ := hexact _ (List.mem_cons_self ..)
  obtain ⟨htrimmed, htrimmedBody⟩ := hexact _ (List.mem_cons_of_mem _ (List.mem_cons_self ..))
  exact ⟨⟨_, _, hsplit, hsplitBody, by simp [Query.scoring], by decide⟩,
    ⟨_, _, htrimmed, htrimmedBody, by simp [Query.scoring], by decide⟩,
    ⟨_, _, hrandom, hrandomBody, by simp [Query.filtering], by decide⟩⟩

end Validator

end ItemSearch
