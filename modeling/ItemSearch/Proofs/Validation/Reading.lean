import ItemSearch.Proofs.Outcome
import ItemSearch.Proofs.Registry.Lookup
import ItemSearch.Proofs.Request.RawParams
import ItemSearch.Proofs.Text.Operator
import ItemSearch.Proofs.Validation.Rule

/-!
How a search is read off its parameters. `Validator.Reads` relates raw parameters and a request
part by part, with no order among the parts; every part is a relation between the value of one
parameter, or of none, and one member of the request. `checkSearch_eq_ok_iff` says that the checks
of the validator come to a request exactly when it is read off the parameters, so whatever has to
be known about accepted searches is known from `Reads` and the order of the checks does not come
into it.
-/

namespace ItemSearch

/-- What the parameter says: what its value reads as, or the default where it has no value. -/
inductive RawParams.Says {α : Type} (raw : RawParams) (name : String) (reads : String → α → Prop)
    (default : α) : α → Prop where
  | given {s : String} {a : α} (hvalue : raw.value? name = some s) (hreads : reads s a) :
      RawParams.Says raw name reads default a
  | absent (hvalue : raw.value? name = none) : RawParams.Says raw name reads default default

/-- The value reads as something, and that is there. -/
def Present {α : Type} (reads : String → α → Prop) (s : String) (a : Option α) : Prop :=
  ∃ b, reads s b ∧ a = some b

/-- The entries of a comma-separated list that are not passed over. -/
def keptEntries (s : String) : List String :=
  (Text.splitOn ',' s).filter fun entry => decide (entry ∉ ignoredFields)

/-- Every entry is passed over or accepted, and the list holds the accepted ones. There is no
list rather than an empty one. -/
structure ListReads (accepted : String → Prop) (s : String) (entries : Option (List String)) :
    Prop where
  accepted : ∀ entry ∈ Text.splitOn ',' s, entry ∈ ignoredFields ∨ accepted entry
  kept : entries.getD [] = keptEntries s
  ne_nil : entries ≠ some []

/-- What stands between the occurrences of AND between blanks in the trimmed text. -/
def AreValues (text : String) (values : List String) : Prop :=
  Text.Pieces "AND".toList (Text.trimChars text.toList) (values.map String.toList)

/-- The conditions are one for each value of the expression: a searchable field, the first colon,
and values that fit the field. -/
def FilterReads (urls : Url.Check) (r : Registry) (s : String) (conditions : List Condition) :
    Prop :=
  ∃ f ∈ r.fields, f.searchable = true ∧ ':' ∉ f.name.toList ∧ ∃ text values,
    s = f.name ++ ":" ++ text ∧ AreValues text values ∧
    (∀ value ∈ values, Rule.Fits urls f.type value) ∧ conditions = values.map (Condition.mk f.name)

namespace Validator

variable (v : Validator)

/-- Every parameter is one of a search. -/
def Knows (raw : RawParams) : Prop :=
  ∀ name ∈ raw.map Prod.fst, name ∈ v.registry.searchableNames ∨ name ∈ controlParams

/-- A facetable field, or the coordinates field, the first colon, and a place. -/
def IsFacet (facet : String) : Prop :=
  v.registry.isFacetable facet = true ∨
    ':' ∉ v.registry.coordinates.name.toList ∧
      ∃ origin, facet = v.registry.coordinates.name ++ ":" ++ origin ∧ origin ≠ ""

/-- The values that are given for searchable fields, in the order of the registry. -/
def givenConditions (raw : RawParams) : List Condition :=
  v.registry.searchableNames.filterMap fun name => (raw.value? name).map (Condition.mk name)

/-- Every value that is given for a searchable field fits the field. -/
def ValuesFit (raw : RawParams) : Prop :=
  ∀ f ∈ v.registry.fields, f.searchable = true →
    ∀ s, raw.value? f.name = some s → Rule.Fits v.urls f.type s

/-- What can be asked for as a whole value has a path for whole values. -/
def CanMatchExactly (conditions : List Condition) : Prop :=
  ∀ c ∈ conditions, ¬ IsRangeName c.field → (v.registry.wholeValuePath? c.field).isSome = true

/-- The request says what the parameters say. -/
structure Reads (raw : RawParams) (p : SearchRequest) : Prop where
  exactFieldMatch : raw.Says "exact_field_match" (fun s b => s = boolWord b) false
    p.exactFieldMatch
  facets : raw.Says "facets" (ListReads v.IsFacet) none p.facets
  facetSize : raw.Says "facet_size" (Rule.IntegerIn 0 2000) 50 p.facetSize
  fields : raw.Says "fields" (ListReads fun name => v.registry.isRetrievable name = true) none
    p.fields
  fieldQueries : p.fieldQueries = v.givenConditions raw
  valuesFit : v.ValuesFit raw
  filter : raw.Says "filter" (Present (FilterReads v.urls v.registry)) none p.filter
  op : raw.Says "op" (fun s op => s = op.word) .and p.op
  page : raw.Says "page" (Rule.IntegerIn 1 100) 1 p.page
  pageSize : raw.Says "page_size" (Rule.IntegerIn 0 v.maxPageSize) 10 p.pageSize
  q : raw.Says "q" (Present fun s q => Rule.IsText s ∧ q = s) none p.q
  sortBy : raw.Says "sort_by" (Present fun s name => v.registry.isSortable s = true ∧ name = s) none
    p.sortBy
  sortByPin : raw.Says "sort_by_pin" (Present fun s pin => Rule.IsText s ∧ pin = s) none p.sortByPin
  sortOrder : raw.Says "sort_order" (fun s order => s = order.word) .asc p.sortOrder
  sorting : p.sortByPin.isSome = true ↔ p.sortBy = some v.registry.coordinates.name
  exactMatch : p.exactFieldMatch = true → v.CanMatchExactly p.fieldQueries

end Validator

/-! ### One parameter -/

namespace RawParams

variable {α : Type} {raw : RawParams} {name : String}

theorem says_some {reads : String → α → Prop} {default a : α} {s : String}
    (h : raw.value? name = some s) : raw.Says name reads default a ↔ reads s a := by
  constructor
  · rintro (⟨hvalue, hreads⟩ | hvalue)
    · rw [h, Option.some.injEq] at hvalue
      rwa [hvalue]
    · simp [h] at hvalue
  · exact fun hreads => .given h hreads

theorem says_none {reads : String → α → Prop} {default a : α} (h : raw.value? name = none) :
    raw.Says name reads default a ↔ a = default := by
  constructor
  · rintro (⟨hvalue, -⟩ | -)
    · simp [h] at hvalue
    · rfl
  · rintro rfl
    exact .absent h

/-- A part that is there has been read off a value. -/
theorem Says.exists_value {reads : String → α → Prop} {a : α}
    (h : raw.Says name (Present reads) none (some a)) :
    ∃ s, raw.value? name = some s ∧ reads s a := by
  cases hs : raw.value? name with
  | none => simp [says_none hs] at h
  | some s =>
      obtain ⟨b, hb, hab⟩ := (says_some hs).mp h
      exact ⟨s, rfl, by rwa [Option.some.inj hab]⟩

end RawParams

namespace Validator

section

variable {α : Type} {raw : RawParams} {name : String}

theorem param_eq_ok_iff {rule : String → String → Checked α} {reads : String → α → Prop}
    (h : ∀ s a, rule name s = .ok a ↔ reads s a) {default a : α} :
    param raw name rule default = .ok a ↔ raw.Says name reads default a := by
  unfold param
  cases hvalue : raw.value? name with
  | some s => rw [RawParams.says_some hvalue, h s a]
  | none => rw [RawParams.says_none hvalue, Except.ok.injEq, eq_comm]

theorem param?_eq_ok_iff {rule : String → String → Checked α} {reads : String → α → Prop}
    (h : ∀ s a, rule name s = .ok a ↔ reads s a) {a : Option α} :
    param? raw name rule = .ok a ↔ raw.Says name (Present reads) none a := by
  unfold param?
  cases hvalue : raw.value? name with
  | some s =>
      rw [RawParams.says_some hvalue, map_eq_ok_iff]
      exact exists_congr fun b => and_congr (h s b) eq_comm
  | none => rw [RawParams.says_none hvalue, Except.ok.injEq, eq_comm]

end

/-! ### Lists -/

theorem checkEntries_eq_ok_iff {accepted : String → Bool} {param : String}
    {entries kept : List String} :
    checkEntries accepted param entries = .ok kept ↔
      (∀ entry ∈ entries, entry ∈ ignoredFields ∨ accepted entry = true) ∧
        kept = entries.filter fun entry => decide (entry ∉ ignoredFields) := by
  induction entries generalizing kept with
  | nil =>
      rw [checkEntries, Except.ok.injEq, eq_comm]
      simp
  | cons entry rest ih =>
      rw [checkEntries, List.forall_mem_cons]
      by_cases hignored : entry ∈ ignoredFields
      · simp [hignored, ih]
      · by_cases haccepted : accepted entry = true
        · simp only [hignored, haccepted, if_true, if_false, bind_eq_ok_iff, pure_eq_ok_iff, ih,
            not_false_eq_true, decide_true, List.filter_cons_of_pos, or_true, true_and]
          constructor
          · rintro ⟨_, ⟨hrest, rfl⟩, rfl⟩
            exact ⟨hrest, rfl⟩
          · rintro ⟨hrest, rfl⟩
            exact ⟨_, ⟨hrest, rfl⟩, rfl⟩
        · simp [hignored, haccepted, refuse]

theorem fieldList_eq_ok_iff {accepted : String → Bool} {good : String → Prop}
    (hgood : ∀ entry, accepted entry = true ↔ good entry) {param s : String}
    {entries : Option (List String)} :
    fieldList accepted param s = .ok entries ↔ ListReads good s entries := by
  simp only [fieldList, bind_eq_ok_iff, pure_eq_ok_iff, checkEntries_eq_ok_iff, hgood]
  constructor
  · rintro ⟨kept, ⟨haccepted, hkept⟩, rfl⟩
    refine ⟨haccepted, ?_, ?_⟩
    · rw [keptEntries, ← hkept]
      cases kept <;> simp
    · cases kept <;> simp
  · rintro ⟨haccepted, hkept, hne⟩
    refine ⟨_, ⟨haccepted, rfl⟩, ?_⟩
    change (if (keptEntries s).isEmpty then none else some (keptEntries s)) = entries
    rw [← hkept]
    cases entries with
    | none => simp
    | some l =>
        have hl : l ≠ [] := fun h => hne (by rw [h])
        simp [hl]

variable {v : Validator} {raw : RawParams}

theorem acceptsFacet_iff {facet : String} : v.acceptsFacet facet = true ↔ v.IsFacet facet := by
  simp only [acceptsFacet, IsFacet, Bool.or_eq_true]
  apply or_congr Iff.rfl
  have hspec : (∃ origin, Text.cut? ':' facet = some (v.registry.coordinates.name, origin) ∧
      origin ≠ "") ↔ ':' ∉ v.registry.coordinates.name.toList ∧
        ∃ origin, facet = v.registry.coordinates.name ++ ":" ++ origin ∧ origin ≠ "" := by
    simp only [Text.cut?_eq_some_iff]
    constructor
    · rintro ⟨origin, ⟨hfacet, hcolon⟩, horigin⟩
      exact ⟨hcolon, origin, hfacet, horigin⟩
    · rintro ⟨hcolon, origin, hfacet, horigin⟩
      exact ⟨origin, ⟨hfacet, hcolon⟩, horigin⟩
  rw [← hspec]
  cases Text.cut? ':' facet with
  | none => simp
  | some cut =>
      obtain ⟨name, origin⟩ := cut
      simp [and_comm]

/-! ### Conditions on fields -/

theorem forField_eq_ok_iff {r : Registry} {name : String} {rule : Rule.ValueRule} :
    Rule.forField r name = .ok rule ↔
      ∃ f, r.find? name = some f ∧ rule = Rule.forType f.type := by
  unfold Rule.forField Registry.type?
  cases r.find? name with
  | none => simp [refuse]
  | some f => simp [eq_comm]

/-- A field that is searchable has a rule, and the rule gives the value back. -/
theorem fieldQuery?_eq_ok_iff {f : Field} (hmem : f ∈ v.registry.fields)
    {condition : Option Condition} :
    v.fieldQuery? raw f.name = .ok condition ↔
      (∀ s, raw.value? f.name = some s → Rule.Fits v.urls f.type s) ∧
        condition = (raw.value? f.name).map (Condition.mk f.name) := by
  have hrule : Rule.forField v.registry f.name = .ok (Rule.forType f.type) :=
    forField_eq_ok_iff.mpr ⟨f, Registry.find?_name hmem, rfl⟩
  rw [fieldQuery?, bind_eq_ok_iff]
  simp only [hrule, Except.ok.injEq, exists_eq_left']
  cases raw.value? f.name with
  | none =>
      rw [pure_eq_ok_iff, eq_comm]
      simp
  | some s =>
      simp only [bind_eq_ok_iff, pure_eq_ok_iff, Rule.check_eq_ok_iff, Option.some.injEq,
        forall_eq', Option.map_some]
      constructor
      · rintro ⟨_, ⟨hfits, rfl⟩, rfl⟩
        exact ⟨hfits, rfl⟩
      · rintro ⟨hfits, rfl⟩
        exact ⟨_, ⟨hfits, rfl⟩, rfl⟩

theorem mem_givenConditions_iff {c : Condition} :
    c ∈ v.givenConditions raw ↔
      c.field ∈ v.registry.searchableNames ∧ raw.value? c.field = some c.value := by
  simp only [givenConditions, List.mem_filterMap, Option.map_eq_some_iff]
  constructor
  · rintro ⟨name, hname, value, hvalue, rfl⟩
    exact ⟨hname, hvalue⟩
  · rintro ⟨hname, hvalue⟩
    exact ⟨c.field, hname, c.value, hvalue, rfl⟩

theorem fieldQueries_eq_ok_iff {conditions : List Condition} :
    v.fieldQueries raw = .ok conditions ↔
      v.ValuesFit raw ∧ conditions = v.givenConditions raw := by
  have hmapM : ∀ queries, v.registry.searchableNames.mapM (v.fieldQuery? raw) = .ok queries ↔
      v.ValuesFit raw ∧ queries = v.registry.searchableNames.map fun name =>
        (raw.value? name).map (Condition.mk name) := by
    intro queries
    have hquery : ∀ f ∈ v.registry.fields.filter Field.searchable, ∀ query,
        v.fieldQuery? raw f.name = .ok query ↔
          (∀ s, raw.value? f.name = some s → Rule.Fits v.urls f.type s) ∧
            query = (raw.value? f.name).map (Condition.mk f.name) :=
      fun f hf query => fieldQuery?_eq_ok_iff (List.mem_filter.mp hf).1
    rw [Registry.searchableNames, List.mapM_map, Function.comp_def, mapM_eq_ok_iff hquery]
    simp [ValuesFit, Function.comp_def]
  simp only [fieldQueries, bind_eq_ok_iff, pure_eq_ok_iff, hmapM]
  constructor
  · rintro ⟨_, ⟨hfit, rfl⟩, rfl⟩
    exact ⟨hfit, by simp [givenConditions, List.filterMap_map]⟩
  · rintro ⟨hfit, rfl⟩
    exact ⟨_, ⟨hfit, rfl⟩, by simp [givenConditions, List.filterMap_map]⟩

theorem areValues_iff {text : String} {values : List String} :
    AreValues text values ↔ filterValues text = values := by
  rw [AreValues, ← Text.splitWordChars_eq_iff Text.bare_and]
  have hvalues : filterValues text =
      (Text.splitWordChars "AND".toList (Text.trimChars text.toList)).map String.ofList := by
    -- the pieces of a trimmed text are trimmed already
    have htrim := (Text.pieces_splitWordChars Text.bare_and
      (Text.trimChars text.toList)).trimChars_of_mem
    simp only [filterValues, Text.splitWord, Text.trim, String.toList_ofList, List.map_map]
    apply List.map_congr_left
    intro piece hpiece
    rw [Function.comp_apply, Text.trim, String.toList_ofList, htrim piece hpiece]
  rw [hvalues]
  constructor
  · intro h
    rw [h]
    simp [Function.comp_def]
  · rintro rfl
    simp [Function.comp_def]

/-- The values of a filter under the rule for its field. -/
theorem mapM_check_eq_ok_iff {f : Field} {values : List String} {conditions : List Condition} :
    (values.mapM fun value => do
      return (⟨f.name, ← (Rule.forType f.type).check v.urls f.name value⟩ : Condition)) =
        (.ok conditions : Checked (List Condition)) ↔
      (∀ value ∈ values, Rule.Fits v.urls f.type value) ∧
        conditions = values.map (Condition.mk f.name) := by
  apply mapM_eq_ok_iff
  intro value _ condition
  simp only [bind_eq_ok_iff, pure_eq_ok_iff, Rule.check_eq_ok_iff]
  constructor
  · rintro ⟨_, ⟨hfits, rfl⟩, rfl⟩
    exact ⟨hfits, rfl⟩
  · rintro ⟨hfits, rfl⟩
    exact ⟨_, ⟨hfits, rfl⟩, rfl⟩

theorem filterOf_eq_ok_iff {s : String} {conditions : List Condition} :
    v.filterOf s = .ok conditions ↔ FilterReads v.urls v.registry s conditions := by
  unfold filterOf
  constructor
  · intro h
    split at h
    · simp [refuse] at h
    · next name text hcut =>
        obtain ⟨hs, hcolon⟩ := Text.cut?_eq_some_iff.mp hcut
        split at h
        · next hsearchable =>
            obtain ⟨f, hfind, rfl, hflag⟩ := Registry.exists_find?_of_any hsearchable
            obtain ⟨rule, hrule, h⟩ := bind_eq_ok_iff.mp h
            obtain ⟨g, hg, rfl⟩ := forField_eq_ok_iff.mp hrule
            obtain rfl : f = g := Option.some.inj (hfind.symm.trans hg)
            obtain ⟨hfit, hconditions⟩ := mapM_check_eq_ok_iff.mp h
            exact ⟨f, (Registry.find?_eq_some_iff.mp hfind).1, hflag, hcolon, text, _, hs,
              areValues_iff.mpr rfl, hfit, hconditions⟩
        · simp [refuse] at h
  · rintro ⟨f, hmem, hflag, hcolon, text, values, hs, hvalues, hfit, hconditions⟩
    have hcut : Text.cut? ':' s = some (f.name, text) := Text.cut?_eq_some_iff.mpr ⟨hs, hcolon⟩
    have hsearchable : v.registry.isSearchable f.name = true :=
      (Registry.describes_of_mem hmem).searchable.trans hflag
    have hrule : Rule.forField v.registry f.name = .ok (Rule.forType f.type) :=
      forField_eq_ok_iff.mpr ⟨f, Registry.find?_name hmem, rfl⟩
    simp only [hcut, hsearchable, if_true, bind_eq_ok_iff, hrule, Except.ok.injEq,
      exists_eq_left', areValues_iff.mp hvalues]
    exact mapM_check_eq_ok_iff.mpr ⟨hfit, hconditions⟩

theorem filter?_eq_ok_iff {conditions : Option (List Condition)} :
    v.filter? raw = .ok conditions ↔
      raw.Says "filter" (Present (FilterReads v.urls v.registry)) none conditions := by
  unfold filter?
  cases hvalue : raw.value? "filter" with
  | some s =>
      rw [RawParams.says_some hvalue, map_eq_ok_iff]
      exact exists_congr fun b => and_congr filterOf_eq_ok_iff eq_comm
  | none => rw [RawParams.says_none hvalue, Except.ok.injEq, eq_comm]

/-! ### Checks across parameters -/

theorem isRangeName_iff {name : String} :
    (".before".toList.isSuffixOf name.toList || ".after".toList.isSuffixOf name.toList) = true ↔
      IsRangeName name := by
  rw [Bool.or_eq_true, List.isSuffixOf_iff_suffix, List.isSuffixOf_iff_suffix, IsRangeName]

theorem checkExactMatch_eq_ok_iff {conditions : List Condition} :
    v.checkExactMatch conditions = .ok () ↔ v.CanMatchExactly conditions := by
  induction conditions with
  | nil => simp [checkExactMatch, CanMatchExactly]
  | cons c rest ih =>
      have hcons : v.CanMatchExactly (c :: rest) ↔
          (¬ IsRangeName c.field → (v.registry.wholeValuePath? c.field).isSome = true) ∧
            v.CanMatchExactly rest := List.forall_mem_cons
      simp only [hcons, ← ih, checkExactMatch]
      by_cases hrange : IsRangeName c.field
      · rw [if_pos (isRangeName_iff.mpr hrange)]
        exact ⟨fun h => ⟨fun hnot => absurd hrange hnot, h⟩, fun h => h.2⟩
      · rw [if_neg fun h => hrange (isRangeName_iff.mp h)]
        cases v.registry.wholeValuePath? c.field with
        | none => simp [hrange, refuse]
        | some path => simp

/-- The coordinates field is asked for with a place only. -/
theorem sortBy?_eq_ok_iff {name : Option String} :
    v.sortBy? raw = .ok name ↔
      raw.Says "sort_by" (Present fun s name => v.registry.isSortable s = true ∧ name = s) none
        name ∧
      (name = some v.registry.coordinates.name → (raw.value? "sort_by_pin").isSome = true) := by
  unfold sortBy?
  cases hs : raw.value? "sort_by" with
  | none =>
      rw [RawParams.says_none hs, Except.ok.injEq]
      constructor
      · rintro rfl
        simp
      · exact fun h => h.1.symm
  | some s =>
      rw [RawParams.says_some hs]
      by_cases hsortable : v.registry.isSortable s = true
      · by_cases hpin : s = v.registry.coordinates.name ∧ (raw.value? "sort_by_pin").isNone
        · simp only [hsortable, Bool.not_true, Bool.false_eq_true, if_false]
          rw [if_pos hpin]
          constructor
          · simp [refuse]
          · rintro ⟨⟨_, ⟨-, rfl⟩, rfl⟩, hneeds⟩
            have hsome := hneeds (by rw [hpin.1])
            rw [Option.isNone_iff_eq_none.mp hpin.2] at hsome
            simp at hsome
        · simp only [hsortable, Bool.not_true, Bool.false_eq_true, if_false]
          rw [if_neg hpin, Except.ok.injEq]
          constructor
          · rintro rfl
            refine ⟨⟨s, ⟨hsortable, rfl⟩, rfl⟩, ?_⟩
            intro hname
            cases hvalue : raw.value? "sort_by_pin" with
            | some pin => rfl
            | none => exact absurd ⟨Option.some.inj hname, by simp [hvalue]⟩ hpin
          · rintro ⟨⟨_, ⟨-, rfl⟩, rfl⟩, -⟩
            rfl
      · simp [hsortable, refuse, Present]

/-- A place goes with the coordinates field, which has to be written out as the field to sort by. -/
theorem sortByPin?_eq_ok_iff {pin : Option String} :
    v.sortByPin? raw = .ok pin ↔
      raw.Says "sort_by_pin" (Present fun s pin => Rule.IsText s ∧ pin = s) none pin ∧
      (pin.isSome = true → Assoc.find? "sort_by" raw = some v.registry.coordinates.name) := by
  unfold sortByPin?
  cases hs : raw.value? "sort_by_pin" with
  | none =>
      rw [RawParams.says_none hs, Except.ok.injEq]
      constructor
      · rintro rfl
        simp
      · exact fun h => h.1.symm
  | some s =>
      simp only [RawParams.says_some hs, bind_eq_ok_iff, Rule.text_eq_ok_iff]
      constructor
      · rintro ⟨_, ⟨htext, rfl⟩, h⟩
        split at h
        · next hsort =>
            obtain rfl := pure_eq_ok_iff.mp h
            exact ⟨⟨_, ⟨htext, rfl⟩, rfl⟩, fun _ => hsort⟩
        · simp [refuse] at h
      · rintro ⟨⟨_, ⟨htext, rfl⟩, rfl⟩, hsort⟩
        refine ⟨_, ⟨htext, rfl⟩, ?_⟩
        rw [if_pos (hsort rfl)]
        rfl

theorem sortConflict?_eq_none_iff {coordinates : String} {p : SearchRequest} :
    p.sortConflict? (some coordinates) = none ↔
      (p.sortByPin.isSome = true ↔ p.sortBy = some coordinates) := by
  unfold SearchRequest.sortConflict?
  cases p.sortByPin <;> by_cases h : p.sortBy = some coordinates <;> simp [h]

/-! ### All parameters -/

theorem param_boolean_eq_ok_iff {name : String} {default b : Bool} :
    param raw name Rule.boolean default = .ok b ↔
      raw.Says name (fun s b => s = boolWord b) default b :=
  param_eq_ok_iff fun _ _ => Rule.boolean_eq_ok_iff

theorem param_operator_eq_ok_iff {name : String} {default op : Operator} :
    param raw name Rule.operator default = .ok op ↔
      raw.Says name (fun s op => s = op.word) default op :=
  param_eq_ok_iff fun _ _ => Rule.operator_eq_ok_iff

theorem param_sortOrder_eq_ok_iff {name : String} {default order : SortOrder} :
    param raw name Rule.sortOrder default = .ok order ↔
      raw.Says name (fun s order => s = order.word) default order :=
  param_eq_ok_iff fun _ _ => Rule.sortOrder_eq_ok_iff

theorem param_integer_eq_ok_iff {name : String} {least greatest default n : Int} :
    param raw name (Rule.integer least greatest) default = .ok n ↔
      raw.Says name (Rule.IntegerIn least greatest) default n :=
  param_eq_ok_iff fun _ _ => Rule.integer_eq_ok_iff

theorem param?_text_eq_ok_iff {name : String} {text : Option String} :
    param? raw name Rule.text = .ok text ↔
      raw.Says name (Present fun s t => Rule.IsText s ∧ t = s) none text :=
  param?_eq_ok_iff fun _ _ => Rule.text_eq_ok_iff

theorem facets_eq_ok_iff {facets : Option (List String)} :
    v.facets raw = .ok facets ↔ raw.Says "facets" (ListReads v.IsFacet) none facets :=
  param_eq_ok_iff fun _ _ => fieldList_eq_ok_iff fun _ => acceptsFacet_iff

theorem fields_eq_ok_iff {fields : Option (List String)} :
    v.fields raw = .ok fields ↔
      raw.Says "fields" (ListReads fun name => v.registry.isRetrievable name = true) none fields :=
  param_eq_ok_iff fun _ _ => fieldList_eq_ok_iff fun _ => Iff.rfl

/-- The checks of a search come to a request exactly when it is read off the parameters. -/
theorem checkSearch_eq_ok_iff {p : SearchRequest} :
    v.checkSearch raw = .ok p ↔ v.Reads raw p := by
  simp only [checkSearch, bind_eq_ok_iff, param_boolean_eq_ok_iff, facets_eq_ok_iff,
    param_integer_eq_ok_iff, fields_eq_ok_iff, fieldQueries_eq_ok_iff, filter?_eq_ok_iff,
    param_operator_eq_ok_iff, param?_text_eq_ok_iff, sortBy?_eq_ok_iff, sortByPin?_eq_ok_iff,
    param_sortOrder_eq_ok_iff]
  constructor
  · rintro ⟨exactFieldMatch, hexact, facets, hfacets, facetSize, hfacetSize, fields, hfields,
      fieldQueries, ⟨hfit, hqueries⟩, filter, hfilter, op, hop, page, hpage, pageSize, hpageSize,
      q, hq, sortBy, ⟨hsortBy, -⟩, sortByPin, ⟨hpin, -⟩, sortOrder, horder, h⟩
    obtain ⟨hmatch, h⟩ := check_eq_ok_iff.mp h
    split at h
    · simp [refuse] at h
    · next hconflict =>
        obtain rfl := pure_eq_ok_iff.mp h
        exact ⟨hexact, hfacets, hfacetSize, hfields, hqueries, hfit, hfilter, hop, hpage,
          hpageSize, hq, hsortBy, hpin, horder, sortConflict?_eq_none_iff.mp hconflict,
          fun hb => checkExactMatch_eq_ok_iff.mp (hmatch hb)⟩
  · intro h
    refine ⟨_, h.exactFieldMatch, _, h.facets, _, h.facetSize, _, h.fields, _,
      ⟨h.valuesFit, h.fieldQueries⟩, _, h.filter, _, h.op, _, h.page, _, h.pageSize, _, h.q, _,
      ⟨h.sortBy, ?_⟩, _, ⟨h.sortByPin, ?_⟩, _, h.sortOrder, check_eq_ok_iff.mpr ⟨?_, ?_⟩⟩
    · -- the check of the field to sort by asks for a place before the place itself is read
      intro hname
      obtain ⟨pin, hpin⟩ := Option.isSome_iff_exists.mp (h.sorting.mpr hname)
      have hsays := h.sortByPin
      rw [hpin] at hsays
      obtain ⟨s, hs, -⟩ := hsays.exists_value
      simp [hs]
    · intro hpin
      have hsays := h.sortBy
      rw [h.sorting.mp hpin] at hsays
      obtain ⟨s, hs, -, rfl⟩ := hsays.exists_value
      exact (RawParams.value?_eq_some_iff.mp hs).1
    · exact fun hb => checkExactMatch_eq_ok_iff.mpr (h.exactMatch hb)
    · rw [sortConflict?_eq_none_iff.mpr h.sorting]
      rfl

/-- The entries that are left of a list are accepted. -/
theorem accepted_of_listed {name : String} {accepted : String → Prop}
    {entries : Option (List String)} (h : raw.Says name (ListReads accepted) none entries) :
    ∀ entry ∈ entries.getD [], accepted entry := by
  cases hs : raw.value? name with
  | none =>
      rw [(RawParams.says_none hs).mp h]
      simp
  | some s =>
      have hlist := (RawParams.says_some hs).mp h
      intro entry hentry
      rw [hlist.kept, keptEntries, List.mem_filter, decide_eq_true_eq] at hentry
      exact (hlist.accepted entry hentry.1).resolve_left hentry.2

/-- The conditions of a filter are about searchable fields. -/
theorem searchable_of_filtered {urls : Url.Check} {r : Registry} {filter : Option (List Condition)}
    (h : raw.Says "filter" (Present (FilterReads urls r)) none filter) :
    ∀ condition ∈ filter.getD [], ∃ f ∈ r.fields, f.searchable = true ∧
      f.name = condition.field := by
  cases filter with
  | none => simp
  | some conditions =>
      obtain ⟨s, -, f, hf, hsearchable, -, _, values, -, -, -, rfl⟩ := h.exists_value
      intro condition hmem
      obtain ⟨value, -, rfl⟩ := List.mem_map.mp hmem
      exact ⟨f, hf, hsearchable, rfl⟩

theorem acceptsParam_iff {name : String} :
    v.acceptsParam name = true ↔ name ∈ v.registry.searchableNames ∨ name ∈ controlParams := by
  simp [acceptsParam]

theorem knows_iff :
    v.Knows raw ↔ (raw.map Prod.fst).filter (fun name => !v.acceptsParam name) = [] := by
  rw [List.filter_eq_nil_iff]
  apply forall_congr'
  intro name
  rw [← acceptsParam_iff, Bool.not_eq_true', Bool.not_eq_false]

/-- A search is accepted when all of its parameters are known and a request is read off them. -/
theorem search_eq_ok_iff {p : SearchRequest} :
    v.search raw = .ok p ↔ v.Knows raw ∧ v.Reads raw p := by
  rw [knows_iff, ← checkSearch_eq_ok_iff]
  unfold search
  split
  · next h => simp [h, mapError_eq_ok_iff]
  · next h =>
      constructor
      · simp
      · exact fun hp => absurd hp.1 h

/-- A request for a random item holds its filter and nothing else. -/
theorem random_eq_ok_iff {p : RandomRequest} :
    v.random raw = .ok p ↔
      (∀ name ∈ raw.map Prod.fst, name = "filter") ∧
        raw.Says "filter" (Present (FilterReads v.urls v.registry)) none p.filter := by
  have hknows : (∀ name ∈ raw.map Prod.fst, name = "filter") ↔
      (raw.map Prod.fst).filter (fun name => decide (name ≠ "filter")) = [] := by
    simp [List.filter_eq_nil_iff]
  rw [hknows]
  unfold random
  split
  · next h =>
      simp only [h, true_and, bind_eq_ok_iff, pure_eq_ok_iff, mapError_eq_ok_iff,
        filter?_eq_ok_iff]
      constructor
      · rintro ⟨filter, hfilter, rfl⟩
        exact hfilter
      · exact fun hfilter => ⟨p.filter, hfilter, rfl⟩
  · next h =>
      constructor
      · simp
      · exact fun hp => absurd hp.1 h

/-- Identifiers are the pieces of a path between its commas. There are no more of them than a page
may have items, and no parameter goes with them. -/
theorem identifiers_eq_ok_iff {path : String} {ids : List String} :
    v.identifiers path raw = .ok ids ↔ raw = [] ∧ ids = Text.splitOn ',' path ∧
      ids.length ≤ v.maxPageSize ∧ ∀ id ∈ ids, Rule.isIdentifier id = true := by
  have hcheck : ∀ id ∈ Text.splitOn ',' path, ∀ s,
      Rule.identifier id = .ok s ↔ Rule.isIdentifier id = true ∧ s = id := by
    intro id _ s
    unfold Rule.identifier
    split
    · next h => simp [h, eq_comm]
    · next h => simp [h, refuse]
  unfold identifiers
  by_cases hraw : raw = []
  · simp only [hraw, ne_eq, not_true_eq_false, if_false, true_and]
    split
    · next hmany =>
        constructor
        · split <;> simp
        · rintro ⟨rfl, hfew, -⟩
          omega
    · next hfew =>
        rw [mapError_eq_ok_iff, mapM_eq_ok_iff hcheck, List.map_id']
        constructor
        · rintro ⟨hgood, rfl⟩
          exact ⟨rfl, by omega, hgood⟩
        · rintro ⟨rfl, -, hgood⟩
          exact ⟨hgood, rfl⟩
  · simp [hraw]

end Validator

end ItemSearch
