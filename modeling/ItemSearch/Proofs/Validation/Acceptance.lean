import ItemSearch.Proofs.Validation.Reading

/-!
Which searches are accepted. Each parameter has a rule of its own for the values that it may have,
and three rules are about several parameters. `Accepts` says that all of them are obeyed, without
looking at what the values come to; `search_accepts_iff` says that there is nothing else to an
accepted search. Names and values are taken apart at the first colon, so a facet for a place and a
filter cannot be asked for where the name of the field holds a colon itself.
-/

namespace ItemSearch

/-- If the parameter has a value, the value obeys the rule. -/
def RawParams.Obeys (raw : RawParams) (name : String) (rule : String → Prop) : Prop :=
  ∀ s, raw.value? name = some s → rule s

/-- Every entry of a comma-separated list is passed over or accepted. -/
def AreEntries (accepted : String → Prop) (s : String) : Prop :=
  ∀ entry ∈ Text.splitOn ',' s, entry ∈ ignoredFields ∨ accepted entry

/-- A searchable field, the first colon, and values that fit the field. -/
def IsFilter (urls : Url.Check) (r : Registry) (s : String) : Prop :=
  ∃ f ∈ r.fields, f.searchable = true ∧ ':' ∉ f.name.toList ∧ ∃ text values,
    s = f.name ++ ":" ++ text ∧ AreValues text values ∧
      ∀ value ∈ values, Rule.Fits urls f.type value

namespace Rule

def IsBoolean (s : String) : Prop := s = "true" ∨ s = "false"

def IsOperator (s : String) : Prop := s = "AND" ∨ s = "OR"

def IsSortOrder (s : String) : Prop := s = "asc" ∨ s = "desc"

/-- A numeral of some integer within bounds, which can be written. -/
def IsInteger (least greatest : Int) (s : String) : Prop := ∃ n, IntegerIn least greatest s n

end Rule

namespace Validator

variable (v : Validator)

/-- What asks for a whole value asks for it in a field that has a path for whole values. -/
def ExactMatchAllowed (raw : RawParams) : Prop :=
  raw.value? "exact_field_match" = some "true" →
    ∀ name ∈ v.registry.searchableNames, (raw.value? name).isSome = true → ¬ IsRangeName name →
      (v.registry.wholeValuePath? name).isSome = true

/-- Every parameter is known, and every value obeys its rules. -/
structure Accepts (raw : RawParams) : Prop where
  knows : v.Knows raw
  exactFieldMatch : raw.Obeys "exact_field_match" Rule.IsBoolean
  facets : raw.Obeys "facets" (AreEntries v.IsFacet)
  facetSize : raw.Obeys "facet_size" (Rule.IsInteger 0 2000)
  fields : raw.Obeys "fields" (AreEntries fun name => v.registry.isRetrievable name = true)
  valuesFit : v.ValuesFit raw
  filter : raw.Obeys "filter" (IsFilter v.urls v.registry)
  op : raw.Obeys "op" Rule.IsOperator
  page : raw.Obeys "page" (Rule.IsInteger 1 100)
  pageSize : raw.Obeys "page_size" (Rule.IsInteger 0 v.maxPageSize)
  q : raw.Obeys "q" Rule.IsText
  sortBy : raw.Obeys "sort_by" fun s => v.registry.isSortable s = true
  sortByPin : raw.Obeys "sort_by_pin" Rule.IsText
  sortOrder : raw.Obeys "sort_order" Rule.IsSortOrder
  sorting : (raw.value? "sort_by_pin").isSome = true ↔
    raw.value? "sort_by" = some v.registry.coordinates.name
  exactMatch : v.ExactMatchAllowed raw

end Validator

/-! ### One parameter -/

namespace RawParams

variable {α : Type} {raw : RawParams} {name : String}

/-- Something is read off a parameter exactly when its value, if it has one, can be read. -/
theorem exists_reading_iff {reads : String → α → Prop} {default : α} :
    (∃ a, raw.Says name reads default a) ↔ raw.Obeys name fun s => ∃ a, reads s a := by
  unfold Obeys
  cases hvalue : raw.value? name with
  | some s => simp [says_some hvalue]
  | none => simp [says_none hvalue]

theorem exists_present_iff {reads : String → α → Prop} :
    (∃ a, raw.Says name (Present reads) none a) ↔ raw.Obeys name fun s => ∃ a, reads s a := by
  rw [exists_reading_iff]
  refine forall₂_congr fun s _ => ?_
  constructor
  · rintro ⟨-, b, hb, rfl⟩
    exact ⟨b, hb⟩
  · rintro ⟨b, hb⟩
    exact ⟨some b, b, hb, rfl⟩

/-- Where a value is taken as it is, the part of the request is the value. -/
theorem present_text_iff {good : String → Prop} {text : Option String} :
    raw.Says name (Present fun s t => good s ∧ t = s) none text ↔
      raw.Obeys name good ∧ text = raw.value? name := by
  unfold Obeys
  cases hvalue : raw.value? name with
  | some s =>
      rw [says_some hvalue]
      constructor
      · rintro ⟨_, ⟨hs, rfl⟩, rfl⟩
        exact ⟨by simpa using hs, rfl⟩
      · rintro ⟨hs, rfl⟩
        exact ⟨s, ⟨hs s rfl, rfl⟩, rfl⟩
  | none => simp [says_none hvalue]

end RawParams

theorem exists_listReads_iff {accepted : String → Prop} {s : String} :
    (∃ entries, ListReads accepted s entries) ↔ AreEntries accepted s := by
  constructor
  · rintro ⟨entries, h⟩
    exact h.accepted
  · intro h
    cases hkept : keptEntries s with
    | nil => exact ⟨none, h, by simp [hkept], by simp⟩
    | cons entry rest => exact ⟨some (entry :: rest), h, by simp [hkept], by simp⟩

theorem exists_filterReads_iff {urls : Url.Check} {r : Registry} {s : String} :
    (∃ conditions, FilterReads urls r s conditions) ↔ IsFilter urls r s := by
  constructor
  · rintro ⟨_, f, hf, hsearchable, hcolon, text, values, hs, hvalues, hfit, -⟩
    exact ⟨f, hf, hsearchable, hcolon, text, values, hs, hvalues, hfit⟩
  · rintro ⟨f, hf, hsearchable, hcolon, text, values, hs, hvalues, hfit⟩
    exact ⟨_, f, hf, hsearchable, hcolon, text, values, hs, hvalues, hfit, rfl⟩

namespace Rule

theorem exists_boolWord_iff {s : String} : (∃ b, s = boolWord b) ↔ IsBoolean s := by
  simp [IsBoolean, boolWord, or_comm]

theorem exists_operator_iff {s : String} : (∃ op : Operator, s = op.word) ↔ IsOperator s := by
  constructor
  · rintro ⟨op, rfl⟩
    cases op <;> simp [IsOperator, Operator.word]
  · rintro (rfl | rfl)
    · exact ⟨.and, rfl⟩
    · exact ⟨.or, rfl⟩

theorem exists_sortOrder_iff {s : String} :
    (∃ order : SortOrder, s = order.word) ↔ IsSortOrder s := by
  constructor
  · rintro ⟨order, rfl⟩
    cases order <;> simp [IsSortOrder, SortOrder.word]
  · rintro (rfl | rfl)
    · exact ⟨.asc, rfl⟩
    · exact ⟨.desc, rfl⟩

end Rule

namespace Validator

variable {v : Validator} {raw : RawParams}

section

variable {name : String}

theorem exists_boolean_iff {default : Bool} :
    (∃ b, raw.Says name (fun s b => s = boolWord b) default b) ↔ raw.Obeys name Rule.IsBoolean := by
  simp only [RawParams.exists_reading_iff, Rule.exists_boolWord_iff]

theorem exists_operator_iff {default : Operator} :
    (∃ op, raw.Says name (fun s (op : Operator) => s = op.word) default op) ↔
      raw.Obeys name Rule.IsOperator := by
  simp only [RawParams.exists_reading_iff, Rule.exists_operator_iff]

theorem exists_sortOrder_iff {default : SortOrder} :
    (∃ order, raw.Says name (fun s (order : SortOrder) => s = order.word) default order) ↔
      raw.Obeys name Rule.IsSortOrder := by
  simp only [RawParams.exists_reading_iff, Rule.exists_sortOrder_iff]

theorem exists_integer_iff {least greatest default : Int} :
    (∃ n, raw.Says name (Rule.IntegerIn least greatest) default n) ↔
      raw.Obeys name (Rule.IsInteger least greatest) :=
  RawParams.exists_reading_iff

theorem exists_list_iff {accepted : String → Prop} :
    (∃ entries, raw.Says name (ListReads accepted) none entries) ↔
      raw.Obeys name (AreEntries accepted) := by
  simp only [RawParams.exists_reading_iff, exists_listReads_iff]

theorem exists_filter_iff {urls : Url.Check} {r : Registry} :
    (∃ conditions, raw.Says name (Present (FilterReads urls r)) none conditions) ↔
      raw.Obeys name (IsFilter urls r) := by
  simp only [RawParams.exists_present_iff, exists_filterReads_iff]

end

/-! ### Exact matching -/

theorem exactFieldMatch_eq_true_iff {b : Bool}
    (h : raw.Says "exact_field_match" (fun s b => s = boolWord b) false b) :
    b = true ↔ raw.value? "exact_field_match" = some "true" := by
  cases hs : raw.value? "exact_field_match" with
  | none =>
      rw [(RawParams.says_none hs).mp h]
      simp
  | some s =>
      rw [(RawParams.says_some hs).mp h]
      cases b <;> simp [boolWord]

theorem canMatchExactly_iff :
    v.CanMatchExactly (v.givenConditions raw) ↔
      ∀ name ∈ v.registry.searchableNames, (raw.value? name).isSome = true →
        ¬ IsRangeName name → (v.registry.wholeValuePath? name).isSome = true := by
  constructor
  · intro h name hname hvalue
    obtain ⟨value, hvalue⟩ := Option.isSome_iff_exists.mp hvalue
    exact h ⟨name, value⟩ (mem_givenConditions_iff.mpr ⟨hname, hvalue⟩)
  · intro h c hc
    obtain ⟨hname, hvalue⟩ := mem_givenConditions_iff.mp hc
    exact h c.field hname (Option.isSome_iff_exists.mpr ⟨c.value, hvalue⟩)

/-! ### All parameters -/

theorem Reads.accepts {p : SearchRequest} (hknows : v.Knows raw) (h : v.Reads raw p) :
    v.Accepts raw := by
  obtain ⟨hsortBy, hname⟩ := RawParams.present_text_iff.mp h.sortBy
  obtain ⟨hsortByPin, hpin⟩ := RawParams.present_text_iff.mp h.sortByPin
  constructor
  · exact hknows
  · exact exists_boolean_iff.mp ⟨_, h.exactFieldMatch⟩
  · exact exists_list_iff.mp ⟨_, h.facets⟩
  · exact exists_integer_iff.mp ⟨_, h.facetSize⟩
  · exact exists_list_iff.mp ⟨_, h.fields⟩
  · exact h.valuesFit
  · exact exists_filter_iff.mp ⟨_, h.filter⟩
  · exact exists_operator_iff.mp ⟨_, h.op⟩
  · exact exists_integer_iff.mp ⟨_, h.page⟩
  · exact exists_integer_iff.mp ⟨_, h.pageSize⟩
  · exact (RawParams.present_text_iff.mp h.q).1
  · exact hsortBy
  · exact hsortByPin
  · exact exists_sortOrder_iff.mp ⟨_, h.sortOrder⟩
  · rw [← hname, ← hpin]
    exact h.sorting
  · intro hexact
    have hmatch := h.exactMatch ((exactFieldMatch_eq_true_iff h.exactFieldMatch).mpr hexact)
    rw [h.fieldQueries] at hmatch
    exact canMatchExactly_iff.mp hmatch

theorem Accepts.exists_reads (h : v.Accepts raw) : ∃ p, v.Reads raw p := by
  obtain ⟨exactFieldMatch, hexact⟩ := exists_boolean_iff.mpr h.exactFieldMatch
  obtain ⟨facets, hfacets⟩ := exists_list_iff.mpr h.facets
  obtain ⟨facetSize, hfacetSize⟩ := exists_integer_iff.mpr h.facetSize
  obtain ⟨fields, hfields⟩ := exists_list_iff.mpr h.fields
  obtain ⟨filter, hfilter⟩ := exists_filter_iff.mpr h.filter
  obtain ⟨op, hop⟩ := exists_operator_iff.mpr h.op
  obtain ⟨page, hpage⟩ := exists_integer_iff.mpr h.page
  obtain ⟨pageSize, hpageSize⟩ := exists_integer_iff.mpr h.pageSize
  obtain ⟨order, horder⟩ := exists_sortOrder_iff.mpr h.sortOrder
  refine ⟨
    { exactFieldMatch := exactFieldMatch, facets := facets, facetSize := facetSize,
      fields := fields, fieldQueries := v.givenConditions raw, filter := filter, op := op,
      page := page, pageSize := pageSize, q := raw.value? "q", sortBy := raw.value? "sort_by",
      sortByPin := raw.value? "sort_by_pin", sortOrder := order },
    hexact, hfacets, hfacetSize, hfields, rfl, h.valuesFit, hfilter, hop, hpage, hpageSize, ?_, ?_,
    ?_, horder, h.sorting, ?_⟩
  · exact RawParams.present_text_iff.mpr ⟨h.q, rfl⟩
  · exact RawParams.present_text_iff.mpr ⟨h.sortBy, rfl⟩
  · exact RawParams.present_text_iff.mpr ⟨h.sortByPin, rfl⟩
  · intro hb
    exact canMatchExactly_iff.mpr (h.exactMatch ((exactFieldMatch_eq_true_iff hexact).mp hb))

/-- A value that fits its field is accepted where nothing else is asked for. -/
theorem accepts_singleton {f : Field} (hf : f ∈ v.registry.fields) (hflag : f.searchable = true)
    (hname : f.name ∉ controlParams) {value : String} (hfits : Rule.Fits v.urls f.type value) :
    v.Accepts [(f.name, value)] := by
  have hnone : ∀ name ∈ controlParams, RawParams.value? [(f.name, value)] name = none := by
    intro name hmem
    refine RawParams.value?_singleton_of_ne ?_
    rintro rfl
    exact hname hmem
  have hobeys : ∀ name ∈ controlParams, ∀ rule, RawParams.Obeys [(f.name, value)] name rule := by
    intro name hmem rule s hs
    rw [hnone name hmem] at hs
    simp at hs
  have hknows : v.Knows [(f.name, value)] := by
    intro name hmem
    rw [List.mem_singleton.mp hmem]
    exact Or.inl (Registry.mem_searchableNames_iff.mpr ⟨f, hf, rfl, hflag⟩)
  have hfit : v.ValuesFit [(f.name, value)] := by
    intro g hg _ s hs
    by_cases hsame : g.name = f.name
    · have hfield : g = f := Registry.eq_of_name_eq hg hf hsame
      have hvalue : value = s := by
        have hfound := (RawParams.value?_eq_some_iff.mp hs).1
        simpa [Assoc.find?, hsame] using hfound
      rwa [hfield, ← hvalue]
    · rw [RawParams.value?_singleton_of_ne hsame] at hs
      simp at hs
  exact
    { knows := hknows
      exactFieldMatch := hobeys _ (by decide) _
      facets := hobeys _ (by decide) _
      facetSize := hobeys _ (by decide) _
      fields := hobeys _ (by decide) _
      valuesFit := hfit
      filter := hobeys _ (by decide) _
      op := hobeys _ (by decide) _
      page := hobeys _ (by decide) _
      pageSize := hobeys _ (by decide) _
      q := hobeys _ (by decide) _
      sortBy := hobeys _ (by decide) _
      sortByPin := hobeys _ (by decide) _
      sortOrder := hobeys _ (by decide) _
      sorting := by
        rw [hnone "sort_by" (by decide), hnone "sort_by_pin" (by decide)]
        simp
      exactMatch := by
        intro hexact
        rw [hnone "exact_field_match" (by decide)] at hexact
        simp at hexact }

/-- A search is accepted exactly when its parameters are known and obey their rules, and the request
then says what the parameters say. -/
theorem search_accepts_iff :
    ((∃ p, v.search raw = .ok p) ↔ v.Accepts raw) ∧
      ∀ p, v.search raw = .ok p ↔ v.Accepts raw ∧ v.Reads raw p := by
  have hreads : ∀ p, v.search raw = .ok p ↔ v.Accepts raw ∧ v.Reads raw p := by
    intro p
    rw [search_eq_ok_iff]
    constructor
    · rintro ⟨hknows, hp⟩
      exact ⟨hp.accepts hknows, hp⟩
    · rintro ⟨haccepts, hp⟩
      exact ⟨haccepts.knows, hp⟩
  refine ⟨?_, hreads⟩
  simp only [hreads]
  constructor
  · rintro ⟨p, haccepts, -⟩
    exact haccepts
  · intro h
    obtain ⟨p, hp⟩ := h.exists_reads
    exact ⟨p, h, hp⟩

end Validator

/-- A registry whose coordinates field has a colon in its name. -/
def Registry.withColon : Registry where
  fields := [⟨"id", "id", some "id", some "id", .text, true, true, false, true⟩,
    ⟨"geo:point", "point", none, none, .coordinates, false, true, true, true⟩]
  coordinates := ⟨"geo:point", "point", none, none, .coordinates, false, true, true, true⟩
  identifier := ⟨"id", "id", some "id", some "id", .text, true, true, false, true⟩
  nodup := by decide
  coordinates_mem := by decide
  identifier_mem := by decide

/-- Two values that obey their rules and are refused: a place behind the name of the field and a
colon, which is not the first colon; and a page size below a bound that has too many digits to be
named. -/
theorem refused_within_rules :
    let long : Int := Int.ofNat (Nat.pow 10 Text.maxDigits)
    (Validator.Knows ⟨Registry.withColon, 100, .sample⟩ [("facets", "geo:point:42")] ∧
      (∀ name ≠ "facets", RawParams.value? [("facets", "geo:point:42")] name = none) ∧
      RawParams.Obeys [("facets", "geo:point:42")] "facets" (AreEntries fun entry =>
        ∃ origin, entry = Registry.withColon.coordinates.name ++ ":" ++ origin ∧ origin ≠ "") ∧
      ¬ ∃ p, Validator.search ⟨Registry.withColon, 100, .sample⟩
        [("facets", "geo:point:42")] = .ok p) ∧
    Validator.Knows ⟨Registry.withColon, long, .sample⟩ [("page_size", "5")] ∧
      (∀ name ≠ "page_size", RawParams.value? [("page_size", "5")] name = none) ∧
      RawParams.Obeys [("page_size", "5")] "page_size" (fun s =>
        ∃ n, Text.IsNumeral s n ∧ 0 ≤ n ∧ n ≤ long) ∧
      ¬ ∃ p, Validator.search ⟨Registry.withColon, long, .sample⟩ [("page_size", "5")] = .ok p := by
  intro long
  have hsent : RawParams.value? [("facets", "geo:point:42")] "facets" = some "geo:point:42" := by
    decide
  have hsent' : RawParams.value? [("page_size", "5")] "page_size" = some "5" := by decide
  refine ⟨⟨?_, ?_, ?_, ?_⟩, ?_, ?_, ?_, ?_⟩
  · intro name hname
    exact Or.inr (by rw [List.mem_singleton.mp hname]; decide)
  · exact fun name hname => RawParams.value?_singleton_of_ne hname
  · intro s hs entry hentry
    obtain rfl : "geo:point:42" = s := Option.some.inj (hsent.symm.trans hs)
    have hsplit : Text.splitOn ',' "geo:point:42" = ["geo:point:42"] := by decide
    rw [hsplit, List.mem_singleton] at hentry
    exact Or.inr ⟨"42", by rw [hentry]; decide, by decide⟩
  · rintro ⟨p, hp⟩
    have hnone : (Validator.search ⟨Registry.withColon, 100, .sample⟩
        [("facets", "geo:point:42")]).toOption = none := by decide +kernel
    rw [hp] at hnone
    simp [Except.toOption] at hnone
  · intro name hname
    exact Or.inr (by rw [List.mem_singleton.mp hname]; decide)
  · exact fun name hname => RawParams.value?_singleton_of_ne hname
  · intro s hs
    obtain rfl : "5" = s := Option.some.inj (hsent'.symm.trans hs)
    have hnumeral : Text.IsNumeral "5" 5 := Text.readNumeral_eq_value_iff.mp (by decide)
    exact ⟨5, hnumeral, by decide, by decide +kernel⟩
  · rintro ⟨p, hp⟩
    have hsize := (RawParams.says_some hsent').mp (Validator.search_eq_ok_iff.mp hp).2.pageSize
    exact Text.not_isWritable_pow hsize.written.2

end ItemSearch
