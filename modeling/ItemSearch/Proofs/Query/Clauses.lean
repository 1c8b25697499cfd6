import ItemSearch.Proofs.Query.Resolution
import Mathlib.Data.List.Forall2

/-!
What the compiler makes of the conditions and the filter of a request. For each of its functions
there is a relation that says which clauses stand for which part of the request and on which path,
and a lemma that the function comes to exactly these. A body is then known from its request without
the order in which the names were looked up.
-/

namespace ItemSearch

/-- A list comes to the values of its items, one after the other. -/
theorem mapM_eq_ok_iff_forall₂ {ε α β : Type} {f : α → Except ε β} {l : List α} {bs : List β} :
    l.mapM f = .ok bs ↔ List.Forall₂ (fun a b => f a = .ok b) l bs := by
  induction l generalizing bs with
  | nil => rw [List.mapM_nil, pure_eq_ok_iff, List.forall₂_nil_left_iff, eq_comm]
  | cons a l ih =>
      simp only [List.mapM_cons, bind_eq_ok_iff, pure_eq_ok_iff, List.forall₂_cons_left_iff, ih]
      constructor
      · rintro ⟨b, hb, bs, hbs, rfl⟩
        exact ⟨b, bs, hb, hbs, rfl⟩
      · rintro ⟨b, bs, hb, hbs, rfl⟩
        exact ⟨b, hb, bs, hbs, rfl⟩

/-- Where each item comes to a value that is related to it, so does the list. -/
theorem exists_mapM_eq_ok {ε α β : Type} {f : α → Except ε β} {R : α → β → Prop} {l : List α}
    (h : ∀ a ∈ l, ∃ b, f a = .ok b ∧ R a b) :
    ∃ bs, l.mapM f = .ok bs ∧ List.Forall₂ R l bs := by
  simp only [mapM_eq_ok_iff_forall₂]
  induction l with
  | nil => exact ⟨[], .nil, .nil⟩
  | cons a l ih =>
      rw [List.forall_mem_cons] at h
      obtain ⟨b, hb, hab⟩ := h.1
      obtain ⟨bs, hbs, hall⟩ := ih h.2
      exact ⟨b :: bs, .cons hb hbs, .cons hab hall⟩

/-- What stands in the second of two related lists comes from something in the first. -/
theorem exists_of_mem_forall₂ {α β : Type} {R : α → β → Prop} {l : List α} {bs : List β}
    (h : List.Forall₂ R l bs) {b : β} (hb : b ∈ bs) : ∃ a ∈ l, R a b := by
  induction h with
  | nil => simp at hb
  | cons hhead _ ih =>
      rcases List.mem_cons.mp hb with rfl | hrest
      · exact ⟨_, List.mem_cons_self .., hhead⟩
      · obtain ⟨a, ha, hab⟩ := ih hrest
        exact ⟨a, List.mem_cons_of_mem _ ha, hab⟩

namespace Compiler

variable (c : Compiler)

/-- The clauses that stand for one condition. A name that asks for a range gets one, whether whole
values are asked for or not. -/
inductive ConditionClauses (exact : Bool) (condition : Condition) : List Clause → Prop where
  | range {bound : Bound} {path : String} (hbound : boundOf? condition.field = some bound)
      (hpath : c.registry.backendPath? condition.field = some path) :
      ConditionClauses exact condition [.range path bound condition.value]
  | terms {path : String} (hname : ¬ IsRangeName condition.field) (hexact : exact = true)
      (hpath : c.registry.wholeValuePath? condition.field = some path) :
      ConditionClauses exact condition
        ((Query.splitTerms condition.value).map (Clause.term path))
  | keywords {path : String} (hname : ¬ IsRangeName condition.field) (hexact : exact = false)
      (hpath : c.registry.backendPath? condition.field = some path) :
      ConditionClauses exact condition [.keywords [path] condition.value]

/-- The clause that stands for one condition of a filter. -/
def FilterClause (condition : Condition) (clause : Clause) : Prop :=
  ∃ path, c.registry.backendPath? condition.field = some path ∧
    clause = .term path condition.value

/-- The search for words that comes first, where there are words to look for. -/
def wordClauses (q : Option String) : List Clause :=
  if q.getD "" = "" then [] else [.keywords c.keywordFields (q.getD "")]

/-- The clauses that count for the ranking: the search for words, and behind it those of the
conditions in the order of the request. -/
def ScoringClauses (p : SearchRequest) (clauses : List Clause) : Prop :=
  ∃ parts, List.Forall₂ (c.ConditionClauses p.exactFieldMatch) p.fieldQueries parts ∧
    clauses = c.wordClauses p.q ++ parts.flatten

/-- The clauses of a filter, one for each of its conditions. Where there are none there is no
filter. -/
structure FilterClauses (conditions : Option (List Condition)) (filter : Option (List Clause)) :
    Prop where
  each : List.Forall₂ c.FilterClause (conditions.getD []) (filter.getD [])
  ne_nil : filter ≠ some []

variable {c}

theorem resolve_eq_ok_iff {path? : Option String} {name path : String} :
    resolve path? name = .ok path ↔ path? = some path := by
  cases path? <;> simp [resolve]

theorem conditionClauses_eq_ok_iff {condition : Condition} {exact : Bool} {clauses : List Clause} :
    c.conditionClauses condition exact = .ok clauses ↔
      c.ConditionClauses exact condition clauses := by
  unfold conditionClauses
  cases hbound : boundOf? condition.field with
  | some bound =>
      -- the other two kinds of clauses are for names that ask for no range
      have hrange := isRangeName_of_boundOf? hbound
      simp only [rangeClause, backendPath, bind_eq_ok_iff, pure_eq_ok_iff, resolve_eq_ok_iff]
      constructor
      · rintro ⟨_, ⟨path, hpath, rfl⟩, rfl⟩
        exact .range hbound hpath
      · rintro (⟨hbound', hpath⟩ | ⟨hname, -, -⟩ | ⟨hname, -, -⟩)
        · obtain rfl := Option.some.inj (hbound.symm.trans hbound')
          exact ⟨_, ⟨_, hpath, rfl⟩, rfl⟩
        · exact absurd hrange hname
        · exact absurd hrange hname
  | none =>
      have hname := boundOf?_eq_none_iff.mp hbound
      cases exact with
      | true =>
          simp only [if_true, Compiler.wholeValuePath, bind_eq_ok_iff, pure_eq_ok_iff,
            resolve_eq_ok_iff]
          constructor
          · rintro ⟨path, hpath, rfl⟩
            exact .terms hname rfl hpath
          · rintro (⟨hbound', -⟩ | ⟨-, -, hpath⟩ | ⟨-, hexact, -⟩)
            · simp [hbound] at hbound'
            · exact ⟨_, hpath, rfl⟩
            · simp at hexact
      | false =>
          simp only [Bool.false_eq_true, if_false, backendPath, bind_eq_ok_iff, pure_eq_ok_iff,
            resolve_eq_ok_iff]
          constructor
          · rintro ⟨path, hpath, rfl⟩
            exact .keywords hname rfl hpath
          · rintro (⟨hbound', -⟩ | ⟨-, hexact, -⟩ | ⟨-, -, hpath⟩)
            · simp [hbound] at hbound'
            · simp at hexact
            · exact ⟨_, hpath, rfl⟩

theorem filterClauses_eq_ok_iff {filter : List Condition} {clauses : List Clause} :
    c.filterClauses filter = .ok clauses ↔ List.Forall₂ c.FilterClause filter clauses := by
  have hclause : ∀ condition clause,
      (do return Clause.term (← c.backendPath condition.field) condition.value :
        Except UnknownField Clause) = .ok clause ↔ c.FilterClause condition clause := by
    intro condition clause
    simp only [backendPath, bind_eq_ok_iff, pure_eq_ok_iff, resolve_eq_ok_iff, FilterClause]
    exact exists_congr fun path => and_congr_right fun _ => eq_comm
  simp only [filterClauses, mapM_eq_ok_iff_forall₂, hclause]

theorem filter?_eq_ok_iff {conditions : Option (List Condition)} {filter : Option (List Clause)} :
    c.filter? conditions = .ok filter ↔ c.FilterClauses conditions filter := by
  -- no filter at all and one without conditions come to the same
  have hempty : conditions.getD [] = [] → (.ok none = (.ok filter : Except UnknownField _) ↔
      c.FilterClauses conditions filter) := by
    intro hnil
    constructor
    · rintro ⟨⟩
      exact ⟨by simp [hnil], by simp⟩
    · rintro ⟨heach, hne⟩
      rw [hnil, List.forall₂_nil_left_iff] at heach
      cases filter with
      | none => rfl
      | some clauses => exact absurd (congrArg some heach) hne
  unfold filter?
  split
  · exact hempty rfl
  · exact hempty rfl
  · next conditions hne =>
      simp only [bind_eq_ok_iff, pure_eq_ok_iff, filterClauses_eq_ok_iff]
      constructor
      · rintro ⟨clauses, heach, rfl⟩
        refine ⟨heach, ?_⟩
        rintro ⟨⟩
        exact hne (List.forall₂_nil_right_iff.mp heach)
      · rintro ⟨heach, -⟩
        cases filter with
        | none => exact absurd (List.forall₂_nil_right_iff.mp heach) hne
        | some clauses => exact ⟨clauses, heach, rfl⟩

theorem scoringClauses_eq_ok_iff {p : SearchRequest} {clauses : List Clause} :
    c.scoringClauses p = .ok clauses ↔ c.ScoringClauses p clauses := by
  unfold scoringClauses ScoringClauses wordClauses
  simp only [bind_eq_ok_iff, pure_eq_ok_iff, mapM_eq_ok_iff_forall₂, conditionClauses_eq_ok_iff]
  refine exists_congr fun parts => and_congr_right fun _ => ?_
  rw [eq_comm]
  cases p.q <;> rfl

theorem mem_wordClauses_iff {q : Option String} {clause : Clause} :
    clause ∈ c.wordClauses q ↔
      ∃ s, q = some s ∧ s ≠ "" ∧ clause = .keywords c.keywordFields s := by
  unfold wordClauses
  cases q with
  | none => simp
  | some s =>
      rw [Option.getD_some]
      split
      · next hempty => simp [hempty]
      · next hne => simp [hne]

/-- A clause that counts for the ranking looks for the words or stands for one of the conditions. -/
theorem ScoringClauses.mem_iff {p : SearchRequest} {clauses : List Clause}
    (h : c.ScoringClauses p clauses) {clause : Clause} :
    clause ∈ clauses ↔ clause ∈ c.wordClauses p.q ∨ ∃ condition ∈ p.fieldQueries, ∃ part,
      c.ConditionClauses p.exactFieldMatch condition part ∧ clause ∈ part := by
  obtain ⟨parts, hparts, rfl⟩ := h
  rw [List.mem_append, List.mem_flatten]
  refine or_congr_right ⟨?_, ?_⟩
  · rintro ⟨part, hpart, hclause⟩
    obtain ⟨condition, hcondition, hstands⟩ := exists_of_mem_forall₂ hparts hpart
    exact ⟨condition, hcondition, part, hstands, hclause⟩
  · rintro ⟨condition, hcondition, part, hstands, hclause⟩
    obtain ⟨part', hpart', hstands'⟩ := exists_of_mem_forall₂ hparts.flip hcondition
    -- a condition comes to one list of clauses only
    have hsame : part = part' := by
      have hok := conditionClauses_eq_ok_iff.mpr hstands
      rw [conditionClauses_eq_ok_iff.mpr hstands', Except.ok.injEq] at hok
      exact hok.symm
    exact ⟨part', hpart', hsame ▸ hclause⟩

theorem query_eq_ok_iff {p : SearchRequest} {query : Query} :
    c.query p = .ok query ↔ ∃ clauses filter, c.ScoringClauses p clauses ∧
      c.FilterClauses p.filter filter ∧
      query = if clauses.isEmpty && filter.isNone then .matchAll
        else .bool (combine p.op clauses filter) := by
  simp only [Compiler.query, bind_eq_ok_iff, pure_eq_ok_iff, scoringClauses_eq_ok_iff,
    filter?_eq_ok_iff]
  constructor
  · rintro ⟨clauses, hclauses, filter, hfilter, rfl⟩
    exact ⟨clauses, filter, hclauses, hfilter, rfl⟩
  · rintro ⟨clauses, filter, hclauses, hfilter, rfl⟩
    exact ⟨clauses, hclauses, filter, hfilter, rfl⟩

theorem searchBody_eq_ok_iff {p : SearchRequest} {body : Body} :
    c.searchBody p = .ok body ↔ ∃ query aggregations sort source,
      c.query p = .ok query ∧ c.aggregations p.facets p.facetSize = .ok aggregations ∧
      c.sort p = .ok sort ∧ c.source p.fields = .ok source ∧
      body =
        { start := some (pageStart p.page p.pageSize), size := p.pageSize, query := query,
          aggregations := some aggregations, sort := some sort, source := some source,
          countsAllHits := true } := by
  simp only [searchBody, bind_eq_ok_iff, pure_eq_ok_iff]
  constructor
  · rintro ⟨query, hquery, aggregations, haggregations, sort, hsort, source, hsource, rfl⟩
    exact ⟨query, aggregations, sort, source, hquery, haggregations, hsort, hsource, rfl⟩
  · rintro ⟨query, aggregations, sort, source, hquery, haggregations, hsort, hsource, rfl⟩
    exact ⟨query, hquery, aggregations, haggregations, sort, hsort, source, hsource, rfl⟩

theorem randomBody_eq_ok_iff {p : RandomRequest} {body : Body} :
    c.randomBody p = .ok body ↔ ∃ filter, c.FilterClauses p.filter filter ∧
      body = { size := 1, query := .random filter } := by
  simp only [randomBody, bind_eq_ok_iff, pure_eq_ok_iff, filter?_eq_ok_iff]
  exact exists_congr fun filter => and_congr_right fun _ => eq_comm

end Compiler

end ItemSearch
