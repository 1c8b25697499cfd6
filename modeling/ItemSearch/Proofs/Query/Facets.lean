import ItemSearch.Proofs.Query.Clauses
import ItemSearch.Response.Facet

/-!
How facets are counted. The kind of a facet is decided by its name and the registry: distances for
a place behind the name of the coordinates field, dates for the name of a date field, and values
otherwise. A body asks once for each facet, under the name by which the facet was requested, and
what it asks for depends on nothing but this name and the size of facets.
-/

namespace ItemSearch

/-- What the aggregation counts by. -/
def Aggregation.kind : Aggregation → FacetKind
  | .terms _ _ => .terms
  | .dates _ _ => .dates
  | .distances _ _ _ => .distances

/-- The clause of an aggregation is written under the word for its kind, that of dates behind the
filter for their range. -/
theorem Aggregation.member?_word_isSome (a : Aggregation) :
    ((if a.kind = .dates then (a.toJson.member? "aggs").bind (Json.member? "facet")
      else some a.toJson).bind (Json.member? a.kind.word)).isSome = true := by
  cases a <;> rfl

namespace Registry

variable (r : Registry)

/-- The name asks for the distances from a place. -/
def AsksForDistances (facet : String) : Prop :=
  Text.before ':' facet = r.coordinates.name ∧ Text.after ':' facet ≠ ""

instance (facet : String) : Decidable (r.AsksForDistances facet) :=
  inferInstanceAs (Decidable (_ ∧ _))

/-- What a facet of this name is counted by. -/
def facetKind (facet : String) : FacetKind :=
  if r.AsksForDistances facet then .distances
  else if facet ∈ r.dateNames then .dates
  else .terms

variable {r}

theorem facetKind_eq_distances_iff {facet : String} :
    r.facetKind facet = .distances ↔ r.AsksForDistances facet := by
  unfold facetKind
  split
  · next h => simp [h]
  · next h => split <;> simp [h]

end Registry

namespace Compiler

variable {c : Compiler} {size : Int}

theorem aggregation_eq (facet : String) :
    c.aggregation facet size =
      if c.registry.AsksForDistances facet then
        .ok (distanceAggregation c.registry.coordinates.backendPath (Text.after ':' facet))
      else if facet ∈ c.registry.dateNames then c.dateAggregation facet
      else (do return .terms (← c.wholeValuePath facet) size) := rfl

theorem kind_of_aggregation {facet : String} {a : Aggregation}
    (h : c.aggregation facet size = .ok a) : a.kind = c.registry.facetKind facet := by
  unfold Registry.facetKind
  by_cases hdistances : c.registry.AsksForDistances facet
  · rw [aggregation_eq, if_pos hdistances] at h
    rw [if_pos hdistances, ← Except.ok.inj h]
    rfl
  · rw [aggregation_eq, if_neg hdistances] at h
    rw [if_neg hdistances]
    by_cases hdate : facet ∈ c.registry.dateNames
    · rw [if_pos hdate] at h
      obtain ⟨path, -, hpath⟩ := bind_eq_ok_iff.mp h
      rw [if_pos hdate, ← pure_eq_ok_iff.mp hpath]
      rfl
    · rw [if_neg hdate] at h
      obtain ⟨path, -, hpath⟩ := bind_eq_ok_iff.mp h
      rw [if_neg hdate, ← pure_eq_ok_iff.mp hpath]
      rfl

/-- There is one aggregation for each facet, however often it is requested. -/
theorem aggregations_of_eq_ok {facets : Option (List String)}
    {aggregations : List (String × Aggregation)}
    (h : c.aggregations facets size = .ok aggregations) :
    aggregations.map Prod.fst = (facets.getD []).eraseDups ∧
      ∀ e ∈ aggregations, c.aggregation e.1 size = .ok e.2 := by
  obtain ⟨named, hnamed, hlist⟩ := bind_eq_ok_iff.mp h
  obtain rfl := pure_eq_ok_iff.mp hlist
  have heach : List.Forall₂ (fun (e : String × Aggregation) facet =>
      c.aggregation e.1 size = .ok e.2 ∧ e.1 = facet) named (facets.getD []) := by
    refine ((mapM_eq_ok_iff_forall₂.mp hnamed).imp fun facet e he => ?_).flip
    obtain ⟨a, ha, hpair⟩ := bind_eq_ok_iff.mp he
    rw [← pure_eq_ok_iff.mp hpair]
    exact ⟨ha, rfl⟩
  obtain ⟨hvalues, hnames⟩ := (List.forall₂_and_left _ _).mp heach
  have hkeys : named.map Prod.fst = facets.getD [] := by
    rw [← List.forall₂_eq_eq_eq, List.forall₂_map_left_iff]
    exact hnames
  rw [Assoc.keys_ofList, hkeys]
  exact ⟨rfl, fun e he => hvalues e (Assoc.mem_of_mem_ofList he)⟩

theorem exists_aggregation {facets : Option (List String)}
    {aggregations : List (String × Aggregation)}
    (h : c.aggregations facets size = .ok aggregations) :
    ∀ facet ∈ facets.getD [], ∃ a, (facet, a) ∈ aggregations ∧
      a.kind = c.registry.facetKind facet := by
  obtain ⟨hkeys, hclauses⟩ := aggregations_of_eq_ok h
  intro facet hfacet
  rw [← List.mem_eraseDups, ← hkeys] at hfacet
  obtain ⟨⟨_, a⟩, he, rfl⟩ := List.mem_map.mp hfacet
  exact ⟨a, he, kind_of_aggregation (hclauses _ he)⟩

end Compiler

end ItemSearch
