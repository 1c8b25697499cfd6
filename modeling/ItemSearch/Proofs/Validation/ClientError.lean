import ItemSearch.Proofs.Validation.Acceptance
import ItemSearch.Registry.Profile

/-!
What a refused search is refused for. Every rule but one answers with the violation of a rule,
which is explained to the caller. The rule for integers writes down its bounds before it looks at a
text and converts a numeral before it compares it with them, and neither is done with too many
digits: then the search fails without an explanation. `StopsAtDigits` says when this happens, which
depends on the order in which the parameters are looked at: a rule that is broken before the digits
are reached is explained.
-/

namespace ItemSearch

/-- A numeral of so many digits that it is not converted is given for the parameter. -/
def RawParams.HasLongNumeral (raw : RawParams) (name : String) (digits : Nat) : Prop :=
  ∃ s, raw.value? name = some s ∧ Text.IsLongNumeral s digits

/-- A value is given for the parameter, and there are too many digits in it or in its bounds. -/
def RawParams.HasTooManyDigits (raw : RawParams) (name : String) (least greatest : Int)
    (e : Text.TooManyDigits) : Prop :=
  ∃ s, raw.value? name = some s ∧ Rule.TooManyDigitsIn least greatest s e

namespace Validator

variable (v : Validator) (raw : RawParams)

/-- What is looked at before the size of facets is in order. -/
structure ReachesFacetSize : Prop where
  exactFieldMatch : raw.Obeys "exact_field_match" Rule.IsBoolean
  facets : raw.Obeys "facets" (AreEntries v.IsFacet)

/-- What is looked at before the page is in order. -/
structure ReachesPage : Prop extends v.ReachesFacetSize raw where
  facetSize : raw.Obeys "facet_size" (Rule.IsInteger 0 2000)
  fields : raw.Obeys "fields" (AreEntries fun name => v.registry.isRetrievable name = true)
  valuesFit : v.ValuesFit raw
  filter : raw.Obeys "filter" (IsFilter v.urls v.registry)
  op : raw.Obeys "op" Rule.IsOperator

/-- What is looked at before the size of the page is in order. -/
structure ReachesPageSize : Prop extends v.ReachesPage raw where
  page : raw.Obeys "page" (Rule.IsInteger 1 100)

/-- The first thing that is wrong with the values is that there are too many digits. -/
inductive StopsAtDigits (e : Text.TooManyDigits) : Prop where
  | facetSize (hreach : v.ReachesFacetSize raw) (h : raw.HasTooManyDigits "facet_size" 0 2000 e)
  | page (hreach : v.ReachesPage raw) (h : raw.HasTooManyDigits "page" 1 100 e)
  | pageSize (hreach : v.ReachesPageSize raw)
      (h : raw.HasTooManyDigits "page_size" 0 v.maxPageSize e)

end Validator

variable {α β : Type}

/-! ### Failing for a reason -/

/-- If the check fails, some rule is broken. -/
def Explained (x : Checked α) : Prop := ∀ e, x ≠ .error (.tooManyDigits e)

theorem explained_ok (a : α) : Explained (.ok a) := by simp [Explained]

theorem explained_refuse (v : Violation) : Explained (refuse v : Checked α) := by
  simp [Explained, refuse]

theorem Explained.bind {x : Checked α} {f : α → Checked β} (hx : Explained x)
    (hf : ∀ a, Explained (f a)) : Explained (x >>= f) := by
  intro e h
  rcases bind_eq_error_iff.mp h with h | ⟨a, -, h⟩
  · exact hx e h
  · exact hf a e h

theorem Explained.map {x : Checked α} (hx : Explained x) (f : α → β) : Explained (f <$> x) :=
  fun e h => hx e (map_eq_error_iff.mp h)

theorem explained_mapM {f : α → Checked β} (hf : ∀ a, Explained (f a)) (l : List α) :
    Explained (l.mapM f) := by
  intro e h
  obtain ⟨a, -, ha⟩ := exists_of_mapM_eq_error h
  exact hf a e ha

theorem Explained.ite {c : Prop} [Decidable c] {x y : Checked α} (hx : Explained x)
    (hy : Explained y) : Explained (if c then x else y) := by
  split
  · exact hx
  · exact hy

/-- A check that does not fail over digits has to come to a value first. -/
theorem Explained.bind_eq_tooManyDigits_iff {x : Checked α} {f : α → Checked β} (hx : Explained x)
    {e : Text.TooManyDigits} :
    (x >>= f) = .error (.tooManyDigits e) ↔ ∃ a, x = .ok a ∧ f a = .error (.tooManyDigits e) := by
  rw [bind_eq_error_iff]
  simp only [hx e, false_or]

/-! ### Rules -/

namespace Rule

variable (param s : String)

theorem explained_text : Explained (text param s) :=
  (explained_ok s).ite (explained_refuse _)

theorem explained_check (urls : Url.Check) (rule : ValueRule) :
    Explained (rule.check urls param s) := by
  cases rule with
  | text => exact explained_text param s
  | date => exact (explained_ok s).ite (explained_refuse _)
  | url => exact (explained_ok s).ite (explained_refuse _)

theorem explained_boolean : Explained (boolean param s) :=
  (explained_ok true).ite ((explained_ok false).ite (explained_refuse _))

theorem explained_operator : Explained (operator param s) :=
  (explained_ok Operator.and).ite ((explained_ok Operator.or).ite (explained_refuse _))

theorem explained_sortOrder : Explained (sortOrder param s) :=
  (explained_ok SortOrder.asc).ite ((explained_ok SortOrder.desc).ite (explained_refuse _))

theorem explained_forField (r : Registry) (name : String) : Explained (forField r name) := by
  unfold forField
  split
  · exact explained_ok _
  · exact explained_refuse _

end Rule

namespace Validator

/-! ### Checks -/

variable {v : Validator} {raw : RawParams} {name : String}

theorem explained_param {rule : String → String → Checked α}
    (hrule : ∀ s, Explained (rule name s)) (default : α) :
    Explained (param raw name rule default) := by
  unfold param
  split
  · exact hrule _
  · exact explained_ok default

theorem explained_param? {rule : String → String → Checked α}
    (hrule : ∀ s, Explained (rule name s)) : Explained (param? raw name rule) := by
  unfold param?
  split
  · exact (hrule _).map some
  · exact explained_ok none

theorem explained_fieldList (accepted : String → Bool) (param s : String) :
    Explained (fieldList accepted param s) := by
  have hentries : ∀ entries, Explained (checkEntries accepted param entries) := by
    intro entries
    induction entries with
    | nil => exact explained_ok []
    | cons entry rest ih =>
        exact ih.ite ((ih.bind fun _ => explained_ok _).ite (explained_refuse _))
  exact (hentries _).bind fun _ => explained_ok _

theorem explained_fieldQueries : Explained (v.fieldQueries raw) := by
  have hquery : ∀ name, Explained (v.fieldQuery? raw name) := by
    intro name
    refine (Rule.explained_forField v.registry name).bind fun rule => ?_
    split
    · exact (Rule.explained_check name _ v.urls rule).bind fun _ => explained_ok _
    · exact explained_ok none
  exact (explained_mapM hquery _).bind fun _ => explained_ok _

theorem explained_filter? : Explained (v.filter? raw) := by
  have hfilter : ∀ s, Explained (v.filterOf s) := by
    intro s
    unfold filterOf
    split
    · exact explained_refuse _
    · next name values _ =>
        refine Explained.ite ?_ (explained_refuse _)
        refine (Rule.explained_forField v.registry name).bind fun rule => ?_
        apply explained_mapM
        intro value
        exact (Rule.explained_check name value v.urls rule).bind fun _ => explained_ok _
  unfold filter?
  split
  · exact (hfilter _).map some
  · exact explained_ok none

theorem explained_sortBy? : Explained (v.sortBy? raw) := by
  unfold sortBy?
  split
  · exact explained_ok none
  · exact (explained_refuse _).ite ((explained_refuse _).ite (explained_ok _))

theorem explained_sortByPin? : Explained (v.sortByPin? raw) := by
  unfold sortByPin?
  split
  · exact explained_ok none
  · refine (Rule.explained_text _ _).bind fun pin => ?_
    exact (explained_ok _).ite (explained_refuse _)

theorem explained_checkExactMatch (conditions : List Condition) :
    Explained (v.checkExactMatch conditions) := by
  induction conditions with
  | nil => exact explained_ok ()
  | cons condition rest ih =>
      exact ih.ite ((explained_refuse _).ite ih)

/-! ### Too many digits -/

variable {e : Text.TooManyDigits}

theorem param_integer_eq_tooManyDigits_iff {least greatest default : Int} :
    param raw name (Rule.integer least greatest) default = .error (.tooManyDigits e) ↔
      raw.HasTooManyDigits name least greatest e := by
  unfold param RawParams.HasTooManyDigits
  cases raw.value? name with
  | some s => simpa using Rule.integer_eq_tooManyDigits_iff
  | none => simp

/-- Nothing that comes after the sizes and the page fails over digits. -/
theorem explained_conclusion (exact : Bool) (conditions : List Condition) (p : SearchRequest) :
    let conclusion : Checked SearchRequest :=
      match p.sortConflict? (some v.registry.coordinates.name) with
      | some conflict => refuse (.sortConflict conflict)
      | none => return p
    Explained (if exact then (do v.checkExactMatch conditions; conclusion) else conclusion) := by
  intro conclusion
  have hconclusion : Explained conclusion := by
    simp only [conclusion]
    split
    · exact explained_refuse _
    · exact explained_ok p
  exact ((explained_checkExactMatch conditions).bind fun _ => hconclusion).ite hconclusion

/-- A search fails over digits only after everything before them has passed. -/
theorem StopsAtDigits.of_checkSearch (h : v.checkSearch raw = .error (.tooManyDigits e)) :
    v.StopsAtDigits raw e := by
  have hexplained : Explained (param raw "exact_field_match" Rule.boolean false) :=
    explained_param (Rule.explained_boolean _) false
  obtain ⟨_, hexact, h⟩ := hexplained.bind_eq_tooManyDigits_iff.mp h
  have hexplained : Explained (v.facets raw) :=
    explained_param (explained_fieldList v.acceptsFacet _) none
  obtain ⟨_, hfacets, h⟩ := hexplained.bind_eq_tooManyDigits_iff.mp h
  have hreach : v.ReachesFacetSize raw :=
    ⟨exists_boolean_iff.mp ⟨_, param_boolean_eq_ok_iff.mp hexact⟩,
      exists_list_iff.mp ⟨_, facets_eq_ok_iff.mp hfacets⟩⟩
  rcases bind_eq_error_iff.mp h with h | ⟨_, hfacetSize, h⟩
  · exact .facetSize hreach (param_integer_eq_tooManyDigits_iff.mp h)
  have hexplained : Explained (v.fields raw) :=
    explained_param (explained_fieldList v.registry.isRetrievable _) none
  obtain ⟨_, hfields, h⟩ := hexplained.bind_eq_tooManyDigits_iff.mp h
  obtain ⟨_, hqueries, h⟩ := explained_fieldQueries.bind_eq_tooManyDigits_iff.mp h
  obtain ⟨_, hfilter, h⟩ := explained_filter?.bind_eq_tooManyDigits_iff.mp h
  have hexplained : Explained (param raw "op" Rule.operator .and) :=
    explained_param (Rule.explained_operator _) .and
  obtain ⟨_, hop, h⟩ := hexplained.bind_eq_tooManyDigits_iff.mp h
  have hreach : v.ReachesPage raw :=
    ⟨hreach, exists_integer_iff.mp ⟨_, param_integer_eq_ok_iff.mp hfacetSize⟩,
      exists_list_iff.mp ⟨_, fields_eq_ok_iff.mp hfields⟩,
      (fieldQueries_eq_ok_iff.mp hqueries).1,
      exists_filter_iff.mp ⟨_, filter?_eq_ok_iff.mp hfilter⟩,
      exists_operator_iff.mp ⟨_, param_operator_eq_ok_iff.mp hop⟩⟩
  rcases bind_eq_error_iff.mp h with h | ⟨_, hpage, h⟩
  · exact .page hreach (param_integer_eq_tooManyDigits_iff.mp h)
  have hreach : v.ReachesPageSize raw :=
    ⟨hreach, exists_integer_iff.mp ⟨_, param_integer_eq_ok_iff.mp hpage⟩⟩
  rcases bind_eq_error_iff.mp h with h | ⟨_, -, h⟩
  · exact .pageSize hreach (param_integer_eq_tooManyDigits_iff.mp h)
  -- what is left has no integers in it
  have hq : Explained (param? raw "q" Rule.text) := explained_param? (Rule.explained_text _)
  have horder : Explained (param raw "sort_order" Rule.sortOrder .asc) :=
    explained_param (Rule.explained_sortOrder _) .asc
  refine absurd h (Explained.bind hq (fun _ => ?_) e)
  refine explained_sortBy?.bind fun _ => explained_sortByPin?.bind fun _ => ?_
  exact horder.bind fun _ => explained_conclusion _ _ _

/-- Where everything before them passes, the search fails over the digits. -/
theorem StopsAtDigits.checkSearch_eq (h : v.StopsAtDigits raw e) :
    v.checkSearch raw = .error (.tooManyDigits e) := by
  have hpassed : ∀ {α β : Type} {x : Checked α} {f : α → Checked β} {a : α} {refusal : Refusal},
      x = .ok a → f a = .error refusal → (x >>= f) = .error refusal :=
    fun hx hf => bind_eq_error_iff.mpr (Or.inr ⟨_, hx, hf⟩)
  -- the three cases nested, so that the checks before each integer are run once
  have hreach : v.ReachesFacetSize raw ∧ (raw.HasTooManyDigits "facet_size" 0 2000 e ∨
      v.ReachesPage raw ∧ (raw.HasTooManyDigits "page" 1 100 e ∨
        v.ReachesPageSize raw ∧ raw.HasTooManyDigits "page_size" 0 v.maxPageSize e)) := by
    rcases h with ⟨hreach, h⟩ | ⟨hreach, h⟩ | ⟨hreach, h⟩
    · exact ⟨hreach, Or.inl h⟩
    · exact ⟨hreach.toReachesFacetSize, Or.inr ⟨hreach, Or.inl h⟩⟩
    · exact ⟨hreach.toReachesFacetSize, Or.inr ⟨hreach.toReachesPage, Or.inr ⟨hreach, h⟩⟩⟩
  obtain ⟨⟨hexact, hfacets⟩, hdigits⟩ := hreach
  obtain ⟨_, hexact⟩ := exists_boolean_iff.mpr hexact
  obtain ⟨_, hfacets⟩ := exists_list_iff.mpr hfacets
  refine hpassed (param_boolean_eq_ok_iff.mpr hexact) (hpassed (facets_eq_ok_iff.mpr hfacets) ?_)
  rw [bind_eq_error_iff, param_integer_eq_tooManyDigits_iff]
  refine hdigits.imp_right ?_
  rintro ⟨hreach, hdigits⟩
  obtain ⟨_, hfacetSize⟩ := exists_integer_iff.mpr hreach.facetSize
  obtain ⟨_, hfields⟩ := exists_list_iff.mpr hreach.fields
  obtain ⟨_, hfilter⟩ := exists_filter_iff.mpr hreach.filter
  obtain ⟨_, hop⟩ := exists_operator_iff.mpr hreach.op
  refine ⟨_, param_integer_eq_ok_iff.mpr hfacetSize, hpassed (fields_eq_ok_iff.mpr hfields) ?_⟩
  refine hpassed (fieldQueries_eq_ok_iff.mpr ⟨hreach.valuesFit, rfl⟩) ?_
  refine hpassed (filter?_eq_ok_iff.mpr hfilter) (hpassed (param_operator_eq_ok_iff.mpr hop) ?_)
  rw [bind_eq_error_iff, param_integer_eq_tooManyDigits_iff]
  refine hdigits.imp_right ?_
  rintro ⟨hreach, hdigits⟩
  obtain ⟨_, hpage⟩ := exists_integer_iff.mpr hreach.page
  refine ⟨_, param_integer_eq_ok_iff.mpr hpage, ?_⟩
  exact bind_eq_error_iff.mpr (Or.inl (param_integer_eq_tooManyDigits_iff.mpr hdigits))

theorem checkSearch_eq_tooManyDigits_iff :
    v.checkSearch raw = .error (.tooManyDigits e) ↔ v.StopsAtDigits raw e :=
  ⟨StopsAtDigits.of_checkSearch, StopsAtDigits.checkSearch_eq⟩

theorem search_eq_tooManyDigits_iff :
    v.search raw = .error (.tooManyDigits e) ↔ v.Knows raw ∧ v.StopsAtDigits raw e := by
  rw [knows_iff, ← checkSearch_eq_tooManyDigits_iff]
  unfold search
  split
  · next h =>
      simp only [h, true_and, mapError_eq_error_iff]
      constructor
      · rintro ⟨refusal, hrefusal, heq⟩
        cases refusal with
        | violation violation => simp [Rejection.ofRefusal] at heq
        | tooManyDigits other =>
            rw [Rejection.ofRefusal, Rejection.tooManyDigits.injEq] at heq
            rwa [← heq]
      · exact fun hcheck => ⟨_, hcheck, rfl⟩
  · next h =>
      constructor
      · simp
      · exact fun hp => absurd hp.1 h

/-- No parameter that is read as an integer has too many digits. -/
def HasShortNumerals (raw : RawParams) : Prop :=
  ∀ name ∈ ["facet_size", "page", "page_size"], ∀ digits, ¬ raw.HasLongNumeral name digits

/-- Where the bounds can be written, only a numeral has too many digits. -/
theorem HasShortNumerals.not_hasTooManyDigits (h : HasShortNumerals raw) {least greatest : Int}
    (hname : name ∈ ["facet_size", "page", "page_size"])
    (hwritten : Text.IsWritable least ∧ Text.IsWritable greatest) :
    ¬ raw.HasTooManyDigits name least greatest e := by
  rintro ⟨s, hs, hbound | ⟨-, hlong⟩⟩
  · exact hbound hwritten
  · exact h name hname _ ⟨s, hs, hlong⟩

theorem search_ne_tooManyDigits (h : HasShortNumerals raw) (hmax : Text.IsWritable v.maxPageSize)
    (e : Text.TooManyDigits) : v.search raw ≠ .error (.tooManyDigits e) := by
  intro hsearch
  rcases (search_eq_tooManyDigits_iff.mp hsearch).2 with
    ⟨-, hdigits⟩ | ⟨-, hdigits⟩ | ⟨-, hdigits⟩
  · exact h.not_hasTooManyDigits (by simp) (by decide) hdigits
  · exact h.not_hasTooManyDigits (by simp) (by decide) hdigits
  · exact h.not_hasTooManyDigits (by simp) ⟨by decide, hmax⟩ hdigits

theorem mapError_ne_tooManyDigits {x : Checked α} (h : Explained x) (e : Text.TooManyDigits) :
    x.mapError Rejection.ofRefusal ≠ .error (.tooManyDigits e) := by
  intro hx
  obtain ⟨refusal, hrefusal, heq⟩ := mapError_eq_error_iff.mp hx
  cases refusal with
  | violation violation => simp [Rejection.ofRefusal] at heq
  | tooManyDigits other => exact h other hrefusal

theorem random_ne_tooManyDigits (e : Text.TooManyDigits) :
    v.random raw ≠ .error (.tooManyDigits e) := by
  unfold random
  split
  · intro h
    rcases bind_eq_error_iff.mp h with hfilter | ⟨_, -, hpure⟩
    · exact mapError_ne_tooManyDigits explained_filter? e hfilter
    · exact pure_ne_error hpure
  · simp

theorem identifiers_ne_tooManyDigits (hmax : Text.IsWritable v.maxPageSize) (path : String)
    (e : Text.TooManyDigits) : v.identifiers path raw ≠ .error (.tooManyDigits e) := by
  have hidentifier : ∀ id, Explained (Rule.identifier id) := fun id =>
    (explained_ok id).ite (explained_refuse _)
  unfold identifiers
  split
  · simp
  · simp only
    split
    · simp
    · exact mapError_ne_tooManyDigits (explained_mapM hidentifier _) e

/-- What can come of a search: a request, an explanation, or a failure over digits. -/
theorem search_cases (v : Validator) (raw : RawParams) :
    (∃ p, v.search raw = .ok p) ∨
      (∃ names, v.search raw = .error (.fault (.unrecognized names))) ∨
      (∃ violation, v.search raw = .error (.fault (.invalid violation))) ∨
      ∃ e, v.search raw = .error (.tooManyDigits e) := by
  unfold search
  split
  · cases hcheck : v.checkSearch raw with
    | ok p => exact Or.inl ⟨p, rfl⟩
    | error refusal =>
        cases refusal with
        | violation violation => exact Or.inr (Or.inr (Or.inl ⟨violation, rfl⟩))
        | tooManyDigits e => exact Or.inr (Or.inr (Or.inr ⟨e, rfl⟩))
  · exact Or.inr (Or.inl ⟨_, rfl⟩)

/-- A search is accepted or refused with an explanation, unless the first thing that is wrong with
it is that a numeral, or the bound of a page size that is given, has too many digits. -/
theorem search_explained_iff :
    ((∃ p, v.search raw = .ok p) ∨
      (∃ names, v.search raw = .error (.fault (.unrecognized names))) ∨
      ∃ violation, v.search raw = .error (.fault (.invalid violation))) ↔
    ¬ (v.Knows raw ∧ ∃ e, v.StopsAtDigits raw e) := by
  have hstops : (v.Knows raw ∧ ∃ e, v.StopsAtDigits raw e) ↔
      ∃ e, v.search raw = .error (.tooManyDigits e) := by
    simp only [search_eq_tooManyDigits_iff, exists_and_left]
  rw [hstops]
  constructor
  · rintro (⟨p, hp⟩ | ⟨names, hnames⟩ | ⟨violation, hviolation⟩) ⟨e, he⟩
    · simp [hp] at he
    · simp [hnames] at he
    · simp [hviolation] at he
  · intro hnot
    rcases search_cases v raw with h | h | h | h
    · exact Or.inl h
    · exact Or.inr (Or.inl h)
    · exact Or.inr (Or.inr h)
    · exact absurd h hnot

/-- A page of 4301 ones is neither accepted nor refused with an explanation. -/
theorem search_page_of_ones :
    ¬ ((∃ p, search ⟨Profile.registry, 500, .sample⟩
        [("page", String.ofList (List.replicate 4301 '1'))] = .ok p) ∨
      (∃ names, search ⟨Profile.registry, 500, .sample⟩
        [("page", String.ofList (List.replicate 4301 '1'))] =
          .error (.fault (.unrecognized names))) ∨
      ∃ violation, search ⟨Profile.registry, 500, .sample⟩
        [("page", String.ofList (List.replicate 4301 '1'))] =
          .error (.fault (.invalid violation))) := by
  generalize hs : String.ofList (List.replicate 4301 '1') = s
  have hlong : Text.IsLongNumeral s 4301 := by
    rw [← hs]
    exact Text.isLongNumeral_replicate (by decide)
  have hobeys : ∀ name ≠ "page", ∀ rule, RawParams.Obeys [("page", s)] name rule := by
    intro name hname rule t ht
    simp [RawParams.value?_singleton_of_ne hname] at ht
  have hpage : RawParams.value? [("page", s)] "page" = some s := by
    refine RawParams.value?_eq_some_iff.mpr ⟨by simp [Assoc.find?], ?_⟩
    rintro rfl
    have hnil := congrArg String.toList hs
    rw [String.toList_ofList, String.toList_empty, List.replicate_eq_nil_iff] at hnil
    omega
  have hknows : Knows ⟨Profile.registry, 500, .sample⟩ [("page", s)] := by
    intro name hname
    rw [List.map_singleton, List.mem_singleton] at hname
    rw [hname]
    exact Or.inr (show "page" ∈ controlParams by decide)
  have hstops : StopsAtDigits ⟨Profile.registry, 500, .sample⟩ [("page", s)] (.read 4301) := by
    refine .page ⟨⟨hobeys _ (by decide) _, hobeys _ (by decide) _⟩, hobeys _ (by decide) _,
      hobeys _ (by decide) _, ?_, hobeys _ (by decide) _, hobeys _ (by decide) _⟩
      ⟨s, hpage, .numeral (by decide) hlong⟩
    intro f hf hsearchable t ht
    have hfree : ∀ f ∈ Profile.registry.fields, f.name ≠ "page" := by decide +kernel
    simp [RawParams.value?_singleton_of_ne (hfree f hf)] at ht
  have herror := search_eq_tooManyDigits_iff.mpr ⟨hknows, hstops⟩
  simp [herror]

end Validator

end ItemSearch
