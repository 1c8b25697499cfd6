import ItemSearch.Proofs.Query.Meaning
import ItemSearch.Proofs.Query.Terms

/-!
What AND and OR mean inside a value that is to be matched exactly. They tell one term from the next,
and that is all: whether a document has to have all of the terms or one of them is for the operator
of the request to say. So the groups of a value keep their meaning where each has one term and the
operator is AND, or where there is one group and the operator is OR.
-/

namespace ItemSearch

/-- Of every group some term holds on the path, which is what AND and OR would say if they kept
their meaning. -/
def GroupsHold (path : String) (groups : List (List String)) (holds : Clause → Prop) : Prop :=
  ∀ group ∈ groups, ∃ t ∈ group, holds (.term path t)

namespace Compiler

variable {c : Compiler} {p : SearchRequest} {field value path : String}

/-! ### Terms and groups -/

section groups

variable {groups : List (List String)} {holds : Clause → Prop}

theorem holds_and_terms_iff : Operator.and.Holds holds (groups.flatten.map (Clause.term path)) ↔
    ∀ group ∈ groups, ∀ t ∈ group, holds (.term path t) := by
  rw [Operator.holds_and_iff, List.forall_mem_map, List.forall_mem_flatten]

theorem holds_or_terms_iff (hne : groups.flatten ≠ []) :
    Operator.or.Holds holds (groups.flatten.map (Clause.term path)) ↔
      ∃ group ∈ groups, ∃ t ∈ group, holds (.term path t) := by
  rw [Operator.holds_or_iff fun hnil => hne (List.map_eq_nil_iff.mp hnil)]
  constructor
  · rintro ⟨clause, hmem, hclause⟩
    obtain ⟨t, ht, rfl⟩ := List.mem_map.mp hmem
    obtain ⟨group, hgroup, ht⟩ := List.mem_flatten.mp ht
    exact ⟨group, hgroup, t, ht, hclause⟩
  · rintro ⟨group, hgroup, t, ht, hterm⟩
    exact ⟨_, List.mem_map_of_mem (List.mem_flatten_of_mem hgroup ht), hterm⟩

/-- One of the terms of a group is all of them, where each group has one term. -/
theorem groupsHold_iff_of_singletons (h : ∀ group ∈ groups, group.length = 1) :
    GroupsHold path groups holds ↔ ∀ group ∈ groups, ∀ t ∈ group, holds (.term path t) := by
  refine forall₂_congr fun group hgroup => ?_
  obtain ⟨t, rfl⟩ := List.length_eq_one_iff.mp (h group hgroup)
  simp

/-- One of the terms of every group is one of the terms, where there is one group. -/
theorem groupsHold_iff_of_singleton (h : groups.length = 1) :
    GroupsHold path groups holds ↔ ∃ group ∈ groups, ∃ t ∈ group, holds (.term path t) := by
  obtain ⟨group, rfl⟩ := List.length_eq_one_iff.mp h
  simp [GroupsHold]

end groups

/-! ### One value -/

/-- The clauses of a request for one value to be matched exactly are the terms of the value. -/
theorem query_of_exact_value {groups : List (List String)} (hexact : p.exactFieldMatch = true)
    (hquery : p.fieldQueries = [⟨field, value⟩]) (hq : p.q.getD "" = "")
    (hfilter : p.filter.getD [] = []) (hname : ¬ IsRangeName field)
    (hpath : c.registry.wholeValuePath? field = some path)
    (hvalue : Query.splitTerms value = groups.flatten) :
    ∃ query, c.query p = .ok query ∧ ∀ holds, query.Holds holds ↔
      p.op.Holds holds (groups.flatten.map (Clause.term path)) := by
  have hscoring : c.ScoringClauses p (groups.flatten.map (Clause.term path)) := by
    refine ⟨[groups.flatten.map (Clause.term path)], ?_, by simp [wordClauses, hq]⟩
    rw [hquery, hexact, ← hvalue]
    exact .cons (.terms hname rfl hpath) .nil
  have hnone : c.FilterClauses p.filter none := ⟨by simp [hfilter], by simp⟩
  refine ⟨_, query_eq_ok_iff.mpr ⟨_, none, hscoring, hnone, rfl⟩, fun holds => ?_⟩
  rw [holds_query_iff]
  simp

/-- AND and OR in a value separate its terms, and the operator of the request puts the terms
together: all of them are asked for, or any of them. -/
theorem exact_value_holds_iff {Doc : Type} (satisfies : Doc → Clause → Prop)
    {groups : List (List String)} (hexact : p.exactFieldMatch = true)
    (hquery : p.fieldQueries = [⟨field, value⟩]) (hq : p.q.getD "" = "")
    (hfilter : p.filter.getD [] = []) (hname : ¬ IsRangeName field)
    (hpath : c.registry.wholeValuePath? field = some path)
    (hvalue : Query.IsGrouped value groups)
    (hterms : ∀ group ∈ groups, ∀ t ∈ group, Query.IsBareTerm t) :
    ∃ query, c.query p = .ok query ∧
      (p.op = .and → ∀ d, query.Holds (satisfies d) ↔
        ∀ group ∈ groups, ∀ t ∈ group, satisfies d (.term path t)) ∧
      (p.op = .or → ∀ d, query.Holds (satisfies d) ↔
        ∃ group ∈ groups, ∃ t ∈ group, satisfies d (.term path t)) ∧
      ((p.op = .and ∧ ∀ group ∈ groups, group.length = 1) ∨ (p.op = .or ∧ groups.length = 1) →
        ∀ d, query.Holds (satisfies d) ↔ GroupsHold path groups (satisfies d)) := by
  have hsplit := Query.splitTerms_of_isGrouped hvalue hterms
  have hne : groups.flatten ≠ [] := by
    rw [← hsplit]
    exact Query.splitTerms_ne_nil value
  obtain ⟨query, hok, hholds⟩ :=
    query_of_exact_value hexact hquery hq hfilter hname hpath hsplit
  have hand : p.op = .and → ∀ d, query.Holds (satisfies d) ↔
      ∀ group ∈ groups, ∀ t ∈ group, satisfies d (.term path t) := by
    intro hop d
    rw [hholds, hop, holds_and_terms_iff]
  have hor : p.op = .or → ∀ d, query.Holds (satisfies d) ↔
      ∃ group ∈ groups, ∃ t ∈ group, satisfies d (.term path t) := by
    intro hop d
    rw [hholds, hop, holds_or_terms_iff hne]
  refine ⟨query, hok, hand, hor, ?_⟩
  rintro (⟨hop, hsingle⟩ | ⟨hop, hsingle⟩) d
  · rw [hand hop, groupsHold_iff_of_singletons hsingle]
  · rw [hor hop, groupsHold_iff_of_singleton hsingle]

/-! ### Two terms

A document is here what it satisfies. -/

theorem isBareTerm_cats : Query.IsBareTerm "cats" :=
  ⟨by decide, by decide, by decide, by decide, by decide⟩

theorem isBareTerm_dogs : Query.IsBareTerm "dogs" :=
  ⟨by decide, by decide, by decide, by decide, by decide⟩

theorem isGrouped_cats_or_dogs : Query.IsGrouped "cats OR dogs" [["cats", "dogs"]] :=
  ⟨_, .one _, .cons (.cons "cats".toList Text.BlankRun.space Text.BlankRun.space (.one _)) .nil⟩

theorem isGrouped_cats_and_dogs : Query.IsGrouped "cats AND dogs" [["cats"], ["dogs"]] :=
  ⟨_, .cons "cats".toList Text.BlankRun.space Text.BlankRun.space (.one "dogs".toList),
    .cons (.one _) (.cons (.one _) .nil)⟩

/-- One group under OR keeps its meaning. -/
theorem exact_value_holds_cats_or_dogs :
    Query.IsGrouped "cats OR dogs" [["cats", "dogs"]] ∧
      ∃ query, (Compiler.of Profile.registry).query
          { exactFieldMatch := true, op := .or
            fieldQueries := [⟨"sourceResource.title", "cats OR dogs"⟩] } = .ok query ∧
        ∀ d : List Clause, query.Holds (· ∈ d) ↔
          GroupsHold "sourceResource.title.not_analyzed" [["cats", "dogs"]] (· ∈ d) := by
  have hname : ¬ IsRangeName "sourceResource.title" := by
    rw [← boundOf?_eq_none_iff]
    decide
  have hpath : (Compiler.of Profile.registry).registry.wholeValuePath? "sourceResource.title" =
      some "sourceResource.title.not_analyzed" := by decide +kernel
  have hterms : ∀ group ∈ [["cats", "dogs"]], ∀ t ∈ group, Query.IsBareTerm t := by
    simp [isBareTerm_cats, isBareTerm_dogs]
  obtain ⟨query, hquery, -, -, hkeeps⟩ :=
    exact_value_holds_iff (fun (d : List Clause) clause => clause ∈ d) (p :=
        { exactFieldMatch := true, op := .or
          fieldQueries := [⟨"sourceResource.title", "cats OR dogs"⟩] })
      rfl rfl rfl rfl hname hpath isGrouped_cats_or_dogs hterms
  exact ⟨isGrouped_cats_or_dogs, query, hquery, hkeeps (Or.inr ⟨rfl, rfl⟩)⟩

/-- AND and OR keep their meaning in the value, where nothing else is asked for. -/
def KeepsGroups (c : Compiler) (op : Operator) (field value : String)
    (groups : List (List String)) : Prop :=
  ∀ path, c.registry.wholeValuePath? field = some path →
    ∃ query, c.query { exactFieldMatch := true, op := op, fieldQueries := [⟨field, value⟩] } =
        .ok query ∧
      ∀ d : List Clause, query.Holds (· ∈ d) ↔ GroupsHold path groups (· ∈ d)

theorem not_keepsGroups {op : Operator} {groups : List (List String)} {query : Query}
    (hpath : c.registry.wholeValuePath? field = some path)
    (hquery : c.query
      { exactFieldMatch := true, op := op, fieldQueries := [⟨field, value⟩] } = .ok query)
    {d : List Clause} (hd : ¬ (query.Holds (· ∈ d) ↔ GroupsHold path groups (· ∈ d))) :
    ¬ c.KeepsGroups op field value groups := by
  intro hkeeps
  obtain ⟨query', hquery', hiff⟩ := hkeeps path hpath
  obtain rfl := Except.ok.inj (hquery.symm.trans hquery')
  exact hd (hiff d)

/-- OR does not keep its meaning where the operator is AND, nor AND where the operator is OR, and
neither does where the name of the field asks for a range. -/
theorem groups_not_kept :
    Query.IsBareTerm "cats" ∧ Query.IsBareTerm "dogs" ∧
      Query.IsGrouped "cats OR dogs" [["cats", "dogs"]] ∧
      Query.IsGrouped "cats AND dogs" [["cats"], ["dogs"]] ∧
      ¬ (Compiler.of Profile.registry).KeepsGroups .and "sourceResource.title" "cats OR dogs"
        [["cats", "dogs"]] ∧
      ¬ (Compiler.of Profile.registry).KeepsGroups .or "sourceResource.title" "cats AND dogs"
        [["cats"], ["dogs"]] ∧
      ¬ (Compiler.of Profile.registry).KeepsGroups .or "sourceResource.date.before" "cats OR dogs"
        [["cats", "dogs"]] := by
  have htitle : (Compiler.of Profile.registry).registry.wholeValuePath? "sourceResource.title" =
      some "sourceResource.title.not_analyzed" := by decide +kernel
  have hbefore : (Compiler.of Profile.registry).registry.wholeValuePath?
      "sourceResource.date.before" = some "sourceResource.date.begin" := by decide +kernel
  have hboth : (Compiler.of Profile.registry).query
      { exactFieldMatch := true, op := .and
        fieldQueries := [⟨"sourceResource.title", "cats OR dogs"⟩] } =
      .ok (.bool
        { must := some [.term "sourceResource.title.not_analyzed" "cats",
            .term "sourceResource.title.not_analyzed" "dogs"] }) :=
    toOption_eq_some_iff.mp (by decide +kernel)
  have heither : (Compiler.of Profile.registry).query
      { exactFieldMatch := true, op := .or
        fieldQueries := [⟨"sourceResource.title", "cats AND dogs"⟩] } =
      .ok (.bool
        { should := some [.term "sourceResource.title.not_analyzed" "cats",
            .term "sourceResource.title.not_analyzed" "dogs"]
          minimumShouldMatch := some 1 }) :=
    toOption_eq_some_iff.mp (by decide +kernel)
  have hrange : (Compiler.of Profile.registry).query
      { exactFieldMatch := true, op := .or
        fieldQueries := [⟨"sourceResource.date.before", "cats OR dogs"⟩] } =
      .ok (.bool
        { should := some [.range "sourceResource.date.begin" .atMost "cats OR dogs"]
          minimumShouldMatch := some 1 }) :=
    toOption_eq_some_iff.mp (by decide +kernel)
  refine ⟨isBareTerm_cats, isBareTerm_dogs, isGrouped_cats_or_dogs, isGrouped_cats_and_dogs,
    not_keepsGroups htitle hboth (d := [.term "sourceResource.title.not_analyzed" "cats"]) ?_,
    not_keepsGroups htitle heither (d := [.term "sourceResource.title.not_analyzed" "cats"]) ?_,
    not_keepsGroups hbefore hrange (d := [.term "sourceResource.date.begin" "cats"]) ?_⟩
  · -- one of two terms is enough for the group, and not for the query
    intro hiff
    have hmust := (hiff.mpr (by simp [GroupsHold])).must
    exact absurd (hmust (.term "sourceResource.title.not_analyzed" "dogs") (by simp)) (by simp)
  · -- one of two terms is enough for the query, and not for both groups
    intro hiff
    have hgroups := hiff.mp ⟨by simp, atLeast_one_iff.mpr (by simp), by simp⟩
    simp [GroupsHold] at hgroups
  · intro hiff
    have hshould := (hiff.mpr (by simp [GroupsHold])).should
    obtain ⟨clause, hmem, hclause⟩ := atLeast_one_iff.mp hshould
    simp_all

end Compiler

end ItemSearch
