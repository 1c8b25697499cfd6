import ItemSearch.Proofs.Query.Clauses

/-!
What a query means, and that a compiled query means what its request says. Which clauses a document
satisfies is left open: a query is satisfied or not by what it says about the clauses that hold.
The clauses that count for the ranking go together as the operator of the request says. The filter
is another condition beside them, and having one makes none of them optional.
-/

namespace ItemSearch

/-- At least so many of the clauses hold. -/
def AtLeast (n : Nat) (holds : Clause → Prop) (clauses : List Clause) : Prop :=
  ∃ chosen, List.Sublist chosen clauses ∧ chosen.length = n ∧ ∀ clause ∈ chosen, holds clause

/-- The clauses hold together as the operator says. Where there are none, nothing is asked. -/
def Operator.Holds (op : Operator) (holds : Clause → Prop) (clauses : List Clause) : Prop :=
  clauses = [] ∨ (op = .and ∧ ∀ clause ∈ clauses, holds clause) ∨
    (op = .or ∧ ∃ clause ∈ clauses, holds clause)

namespace BoolQuery

/-- How many clauses of `should` have to hold. If the query does not say, it is one where nothing
else is asked, and none otherwise. -/
def leastMatches (b : BoolQuery) : Nat :=
  b.minimumShouldMatch.getD
    (if b.must.getD [] = [] ∧ b.filter = none ∧ b.should.getD [] ≠ [] then 1 else 0)

structure Holds (holds : Clause → Prop) (b : BoolQuery) : Prop where
  must : ∀ clause ∈ b.must.getD [], holds clause
  should : AtLeast b.leastMatches holds (b.should.getD [])
  filter : ∀ clause ∈ b.filter.getD [], holds clause

end BoolQuery

/-- A document for which these clauses hold satisfies the query. -/
def Query.Holds (holds : Clause → Prop) : Query → Prop
  | .matchAll => True
  | .bool b => b.Holds holds
  | .terms path values => ∃ value ∈ values, holds (.term path value)
  | .random filter => ∀ clause ∈ filter.getD [], holds clause

variable {holds : Clause → Prop} {clauses : List Clause}

/-! ### Clauses together -/

theorem atLeast_zero : AtLeast 0 holds clauses :=
  ⟨[], List.nil_sublist clauses, rfl, by simp⟩

theorem atLeast_one_iff : AtLeast 1 holds clauses ↔ ∃ clause ∈ clauses, holds clause := by
  constructor
  · rintro ⟨chosen, hsub, hlength, hholds⟩
    obtain ⟨clause, rfl⟩ := List.length_eq_one_iff.mp hlength
    have hmem : clause ∈ [clause] := List.mem_singleton_self clause
    exact ⟨clause, hsub.subset hmem, hholds clause hmem⟩
  · rintro ⟨clause, hmem, hclause⟩
    exact ⟨[clause], List.singleton_sublist.mpr hmem, rfl, by simpa using hclause⟩

theorem Operator.holds_and_iff :
    Operator.and.Holds holds clauses ↔ ∀ clause ∈ clauses, holds clause := by
  unfold Operator.Holds
  constructor
  · rintro (rfl | ⟨-, h⟩ | ⟨hop, -⟩)
    · simp
    · exact h
    · simp at hop
  · exact fun h => Or.inr (Or.inl ⟨rfl, h⟩)

theorem Operator.holds_or_iff (hne : clauses ≠ []) :
    Operator.or.Holds holds clauses ↔ ∃ clause ∈ clauses, holds clause := by
  unfold Operator.Holds
  constructor
  · rintro (hnil | ⟨hop, -⟩ | ⟨-, h⟩)
    · exact absurd hnil hne
    · simp at hop
    · exact h
  · exact fun h => Or.inr (Or.inr ⟨rfl, h⟩)

namespace Compiler

/-- Clauses that are combined hold as the operator says, and the filter holds with them. -/
theorem holds_combine_iff {op : Operator} {filter : Option (List Clause)} :
    (combine op clauses filter).Holds holds ↔
      (∀ clause ∈ filter.getD [], holds clause) ∧ op.Holds holds clauses := by
  cases clauses with
  | nil =>
      have hleast : AtLeast (combine op [] filter).leastMatches holds [] := by
        have hzero : (combine op [] filter).leastMatches = 0 := by
          simp [combine, BoolQuery.leastMatches]
        rw [hzero]
        exact atLeast_zero
      constructor
      · exact fun h => ⟨h.filter, Or.inl rfl⟩
      · exact fun h => ⟨by simp [combine], hleast, h.1⟩
  | cons clause rest =>
      cases op with
      | and =>
          rw [Operator.holds_and_iff]
          constructor
          · exact fun h => ⟨h.filter, h.must⟩
          · intro h
            have hzero : (combine .and (clause :: rest) filter).leastMatches = 0 := by
              simp [combine, BoolQuery.leastMatches]
            refine ⟨h.2, ?_, h.1⟩
            rw [hzero]
            exact atLeast_zero
      | or =>
          -- the query says that one has to hold, or else the filter would make all of them optional
          have hone : (combine .or (clause :: rest) filter).leastMatches = 1 := rfl
          rw [Operator.holds_or_iff (List.cons_ne_nil clause rest), ← atLeast_one_iff, ← hone]
          constructor
          · exact fun h => ⟨h.filter, h.should⟩
          · exact fun h => ⟨by simp [combine], h.2, h.1⟩

/-! ### The clauses of a request -/

variable {c : Compiler} {p : SearchRequest} {query : Query}

/-- A filter holds where the term of each of its conditions does. -/
theorem FilterClauses.forall_iff {conditions : Option (List Condition)}
    {filter : Option (List Clause)} (h : c.FilterClauses conditions filter) :
    (∀ clause ∈ filter.getD [], holds clause) ↔
      ∀ condition ∈ conditions.getD [], ∃ path,
        c.registry.backendPath? condition.field = some path ∧
          holds (.term path condition.value) := by
  have heach := h.each
  -- only the two lists count, and the induction is on how they go together
  generalize conditions.getD [] = conditions at heach ⊢
  generalize filter.getD [] = clauses at heach ⊢
  induction heach with
  | nil => simp
  | @cons condition clause conditions clauses hclause _ ih =>
      obtain ⟨path, hpath, rfl⟩ := hclause
      rw [List.forall_mem_cons, List.forall_mem_cons]
      refine and_congr ?_ ih
      constructor
      · exact fun hterm => ⟨path, hpath, hterm⟩
      · rintro ⟨path', hpath', hterm⟩
        obtain rfl := Option.some.inj (hpath.symm.trans hpath')
        exact hterm

theorem FilterClauses.eq_none_iff {conditions : Option (List Condition)}
    {filter : Option (List Clause)} (h : c.FilterClauses conditions filter) :
    filter = none ↔ conditions.getD [] = [] := by
  have hlength := h.each.length_eq
  constructor
  · rintro rfl
    exact List.eq_nil_of_length_eq_zero hlength
  · intro hnil
    rw [hnil] at hlength
    cases filter with
    | none => rfl
    | some clauses =>
        exact absurd (congrArg some (List.eq_nil_of_length_eq_zero hlength.symm)) h.ne_nil

/-- Which query there is for clauses and a filter. There may be neither, and then every document is
asked for. -/
theorem holds_query_iff {op : Operator} {filter : Option (List Clause)} :
    (if clauses.isEmpty && filter.isNone then Query.matchAll
      else .bool (combine op clauses filter)).Holds holds ↔
      (∀ clause ∈ filter.getD [], holds clause) ∧ op.Holds holds clauses := by
  by_cases hnone : (clauses.isEmpty && filter.isNone) = true
  · rw [if_pos hnone]
    rw [Bool.and_eq_true, List.isEmpty_iff, Option.isNone_iff_eq_none] at hnone
    obtain ⟨rfl, rfl⟩ := hnone
    simp [Query.Holds, Operator.Holds]
  · rw [if_neg hnone]
    exact holds_combine_iff

/-- A compiled query holds for the documents that the request asks for: those that satisfy the term
of every condition of the filter, and of the clauses that count for the ranking all of them or one
of them, as the operator says. -/
theorem query_means_request {Doc : Type} (satisfies : Doc → Clause → Prop)
    (h : c.query p = .ok query) :
    (∀ body, c.searchBody p = .ok body → body.query = query) ∧
      ∃ clauses, c.ScoringClauses p clauses ∧
        (∀ d, query.Holds (satisfies d) ↔
          (∀ condition ∈ p.filter.getD [], ∃ path,
            c.registry.backendPath? condition.field = some path ∧
              satisfies d (.term path condition.value)) ∧
          (clauses = [] ∨ (p.op = .and ∧ ∀ clause ∈ clauses, satisfies d clause) ∨
            (p.op = .or ∧ ∃ clause ∈ clauses, satisfies d clause))) ∧
        (query = .matchAll ↔ clauses = [] ∧ p.filter.getD [] = []) ∧
        (p.op = .or → clauses ≠ [] → ∀ d, query.Holds (satisfies d) →
          ∃ clause ∈ clauses, satisfies d clause) := by
  obtain ⟨clauses, filter, hclauses, hfilter, hquery⟩ := query_eq_ok_iff.mp h
  have hholds : ∀ d, query.Holds (satisfies d) ↔
      (∀ condition ∈ p.filter.getD [], ∃ path,
        c.registry.backendPath? condition.field = some path ∧
          satisfies d (.term path condition.value)) ∧ p.op.Holds (satisfies d) clauses := by
    intro d
    rw [hquery, holds_query_iff, hfilter.forall_iff]
  refine ⟨?_, clauses, hclauses, hholds, ?_, ?_⟩
  · intro body hbody
    obtain ⟨query', _, _, _, hquery', -, -, -, rfl⟩ := searchBody_eq_ok_iff.mp hbody
    exact Except.ok.inj (hquery'.symm.trans h)
  · rw [hquery, ← hfilter.eq_none_iff]
    by_cases hnone : (clauses.isEmpty && filter.isNone) = true
    · rw [if_pos hnone]
      simpa using hnone
    · rw [if_neg hnone]
      simpa using hnone
  · intro hop hne d hd
    have hor := ((hholds d).mp hd).2
    rw [hop] at hor
    exact (Operator.holds_or_iff hne).mp hor

/-- Words and a filter beside them, joined by OR. A document is what it satisfies here. -/
theorem query_means_request_beside_filter :
    ∃ p query, p.op = .or ∧ p.filter = some [⟨"provider.name", "Smithsonian"⟩] ∧
      (Compiler.of Profile.registry).query p = .ok query ∧
      ∃ clauses, (Compiler.of Profile.registry).ScoringClauses p clauses ∧
        query ≠ .matchAll ∧
        ∀ d : List Clause, query.Holds (· ∈ d) ↔
          (∀ condition ∈ p.filter.getD [], ∃ path,
            (Compiler.of Profile.registry).registry.backendPath? condition.field = some path ∧
              .term path condition.value ∈ d) ∧
          (clauses = [] ∨ (p.op = .and ∧ ∀ clause ∈ clauses, clause ∈ d) ∨
            (p.op = .or ∧ ∃ clause ∈ clauses, clause ∈ d)) := by
  have h : (Compiler.of Profile.registry).query
      { q := some "cats", op := .or, filter := some [⟨"provider.name", "Smithsonian"⟩] } = .ok
        (.bool
          { should := some [.keywords itemKeywordFields "cats"]
            minimumShouldMatch := some 1
            filter := some [.term "provider.name" "Smithsonian"] }) :=
    toOption_eq_some_iff.mp (by decide +kernel)
  obtain ⟨-, clauses, hclauses, hholds, -, -⟩ :=
    query_means_request (fun (d : List Clause) clause => clause ∈ d) h
  exact ⟨_, _, rfl, rfl, h, clauses, hclauses, by simp, hholds⟩

end Compiler

end ItemSearch
