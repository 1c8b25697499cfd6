import ItemSearch.Proofs.Assoc
import ItemSearch.Validation.Basic

/-!
What is written for a request. The conditions of an accepted request are about different fields,
and none of the fields has the name of a control parameter, so no parameter is written twice and
every parameter is found with the value that was written for it.
-/

namespace ItemSearch

theorem RawParams.value?_eq_some_iff {raw : RawParams} {name s : String} :
    raw.value? name = some s ↔ Assoc.find? name raw = some s ∧ s ≠ "" := by
  unfold value?
  cases Assoc.find? name raw with
  | none => simp
  | some t =>
      by_cases ht : t = ""
      · simp only [ht, if_true, Option.some.injEq]
        constructor
        · simp
        · rintro ⟨rfl, hs⟩
          exact absurd rfl hs
      · simp only [ht, if_false, Option.some.injEq]
        constructor
        · rintro rfl
          exact ⟨rfl, ht⟩
        · exact fun hs => hs.1

theorem RawParams.value?_singleton_of_ne {key name : String} (h : name ≠ key) {s : String} :
    RawParams.value? [(key, s)] name = none := by
  have hne : key ≠ name := fun heq => h heq.symm
  simp [value?, Assoc.find?, hne]

theorem mem_listParam_iff {name key s : String} {items : Option (List String)} :
    (key, s) ∈ listParam name items ↔
      key = name ∧ ∃ l, items = some l ∧ l ≠ [] ∧ s = Text.join "," l := by
  unfold listParam
  split
  · simp
  · simp
  · next l hl =>
      simp only [List.mem_singleton, Prod.mk.injEq, Option.some.injEq, exists_eq_left']
      exact and_congr_right fun _ => ⟨fun hs => ⟨hl, hs⟩, fun hs => hs.2⟩

theorem mem_optionalParam_iff {name key s : String} {value : Option String} :
    (key, s) ∈ optionalParam name value ↔ key = name ∧ value = some s := by
  cases value <;> simp [optionalParam, eq_comm]

theorem listParam_sublist (name : String) (items : Option (List String)) :
    List.Sublist ((listParam name items).map Prod.fst) [name] := by
  unfold listParam
  split <;> simp

theorem optionalParam_sublist (name : String) (value : Option String) :
    List.Sublist ((optionalParam name value).map Prod.fst) [name] := by
  cases value <;> simp [optionalParam]

namespace SearchRequest

variable {p : SearchRequest}

/-- What may be written under a name: the value of a condition, or the part of the request that the
name is for. -/
theorem mem_writtenParams_iff {name s : String} :
    (name, s) ∈ p.writtenParams ↔
      (name = "exact_field_match" ∧ s = boolWord p.exactFieldMatch) ∨
      (name = "facet_size" ∧ s = Text.decimal p.facetSize) ∨
      (name = "op" ∧ s = p.op.word) ∨
      (name = "page" ∧ s = Text.decimal p.page) ∨
      (name = "page_size" ∧ s = Text.decimal p.pageSize) ∨
      (name = "sort_order" ∧ s = p.sortOrder.word) ∨
      ⟨name, s⟩ ∈ p.fieldQueries ∨
      (name = "facets" ∧ ∃ l, p.facets = some l ∧ l ≠ [] ∧ s = Text.join "," l) ∨
      (name = "fields" ∧ ∃ l, p.fields = some l ∧ l ≠ [] ∧ s = Text.join "," l) ∨
      (name = "filter" ∧ p.filter.bind filterExpression? = some s) ∨
      (name = "q" ∧ p.q = some s) ∨
      (name = "sort_by" ∧ p.sortBy = some s) ∨
      (name = "sort_by_pin" ∧ p.sortByPin = some s) := by
  have hcondition : (name, s) ∈ p.fieldQueries.map (fun c => (c.field, c.value)) ↔
      ⟨name, s⟩ ∈ p.fieldQueries := by
    rw [List.mem_map]
    constructor
    · rintro ⟨c, hc, hpair⟩
      obtain ⟨rfl, rfl⟩ := Prod.mk.inj hpair
      exact hc
    · exact fun hc => ⟨_, hc, rfl⟩
  simp only [writtenParams, List.mem_append, mem_listParam_iff, mem_optionalParam_iff,
    List.mem_cons, Prod.mk.injEq, List.not_mem_nil, or_false, hcondition, or_assoc]

/-- The conditions are about different fields, and their names are free. -/
structure Separate (p : SearchRequest) : Prop where
  nodup : (p.fieldQueries.map Condition.field).Nodup
  free : ∀ c ∈ p.fieldQueries, c.field ∉ controlParams

theorem Separate.not_mem (h : p.Separate) {name : String} (hname : name ∈ controlParams)
    (s : String) : ⟨name, s⟩ ∉ p.fieldQueries :=
  fun hc => h.free _ hc hname

theorem nodup_writtenParams (h : p.Separate) : (p.writtenParams.map Prod.fst).Nodup := by
  let always :=
    ["exact_field_match", "facet_size", "op", "page", "page_size", "sort_order"]
  let sometimes := ["facets", "fields", "filter", "q", "sort_by", "sort_by_pin"]
  let names := p.fieldQueries.map Condition.field
  have hsub : List.Sublist (p.writtenParams.map Prod.fst) (always ++ names ++ sometimes) := by
    have hoptional := optionalParam_sublist
    have hlists := (listParam_sublist "facets" p.facets).append
      (listParam_sublist "fields" p.fields)
    have hrest := (((hoptional "filter" (p.filter.bind filterExpression?)).append
      (hoptional "q" p.q)).append (hoptional "sort_by" p.sortBy)).append
        (hoptional "sort_by_pin" p.sortByPin)
    have hall := (List.Sublist.refl (always ++ names)).append (hlists.append hrest)
    simpa [writtenParams, Function.comp_def, always, names] using hall
  -- conditions stand between the control parameters, and none has the name of one
  have hfree : ∀ name ∈ always ++ sometimes, name ∉ names := by
    intro name hname hmem
    obtain ⟨c, hc, rfl⟩ := List.mem_map.mp hmem
    apply h.free c hc
    have hcontrol : ∀ n ∈ always ++ sometimes, n ∈ controlParams := by decide
    exact hcontrol _ hname
  have hperm : List.Perm (always ++ names ++ sometimes) (always ++ sometimes ++ names) := by
    rw [List.append_assoc, List.append_assoc]
    exact List.perm_append_comm.append_left always
  have hnodup : (always ++ sometimes ++ names).Nodup := by
    rw [List.nodup_append]
    exact ⟨by decide, h.nodup, fun a ha b hb heq => hfree a ha (heq ▸ hb)⟩
  exact (hperm.nodup_iff.mpr hnodup).sublist hsub

theorem rawParams_eq (h : p.Separate) : p.rawParams = p.writtenParams :=
  Assoc.ofList_of_nodup (nodup_writtenParams h)

/-- The parameters have the values that are written for them. -/
theorem value?_rawParams_eq_some_iff (h : p.Separate) {name s : String} :
    p.rawParams.value? name = some s ↔ (name, s) ∈ p.writtenParams ∧ s ≠ "" := by
  rw [RawParams.value?_eq_some_iff, rawParams_eq h,
    Assoc.find?_eq_some_iff_mem (nodup_writtenParams h)]

end SearchRequest

end ItemSearch
