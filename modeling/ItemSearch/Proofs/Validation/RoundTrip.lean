import ItemSearch.Proofs.Validation.Reading
import ItemSearch.Registry.Profile
import Mathlib.Data.List.Basic

/-!
An accepted search is accepted again in the form in which it is written back. The request is read
off what is written for it part by part: what is written for a part is read as that part. Lists
are joined with commas, which no entry holds; the values of a filter are joined with AND between
single blanks, which splits them again where they were split before; integers are written in
digits of which there are not too many.
-/

namespace ItemSearch

namespace RawParams

variable {α : Type} {raw : RawParams} {name : String} {p : SearchRequest}

theorem says_written (hp : p.Separate) {s : String} (hmem : (name, s) ∈ p.writtenParams)
    (hs : s ≠ "") {reads : String → α → Prop} {default a : α} (h : reads s a) :
    p.rawParams.Says name reads default a :=
  (says_some ((SearchRequest.value?_rawParams_eq_some_iff hp).mpr ⟨hmem, hs⟩)).mpr h

theorem says_unwritten (hp : p.Separate) (hmem : ∀ s, (name, s) ∉ p.writtenParams)
    {reads : String → α → Prop} {default : α} :
    p.rawParams.Says name reads default default := by
  have hnone : p.rawParams.value? name = none := by
    rw [Option.eq_none_iff_forall_ne_some]
    intro s hs
    exact hmem s ((SearchRequest.value?_rawParams_eq_some_iff hp).mp hs).1
  exact (says_none hnone).mpr rfl

/-- A text that is taken as it is can be read off what is written for it. -/
theorem Says.written_text (hp : p.Separate) {good : String → Prop} {text : Option String}
    (h : raw.Says name (Present fun s t => good s ∧ t = s) none text)
    (hmem : ∀ s, (name, s) ∈ p.writtenParams ↔ text = some s) :
    p.rawParams.Says name (Present fun s t => good s ∧ t = s) none text := by
  cases text with
  | none => exact says_unwritten hp fun s hs => by simpa using (hmem s).mp hs
  | some t =>
      obtain ⟨s, hs, hgood, rfl⟩ := h.exists_value
      exact says_written hp ((hmem t).mpr rfl) (value?_eq_some_iff.mp hs).2 ⟨t, ⟨hgood, rfl⟩, rfl⟩

theorem Says.isWritable {least greatest default n : Int}
    (h : raw.Says name (Rule.IntegerIn least greatest) default n)
    (hdefault : Text.IsWritable default) : Text.IsWritable n := by
  cases hs : raw.value? name with
  | none => rwa [(says_none hs).mp h]
  | some s => exact ((says_some hs).mp h).numeral.isWritable

theorem Says.written_integer (hp : p.Separate) {least greatest default n : Int}
    (h : raw.Says name (Rule.IntegerIn least greatest) default n)
    (hwritten : Text.IsWritable least ∧ Text.IsWritable greatest)
    (hdefault : least ≤ default ∧ default ≤ greatest) (hshort : Text.IsWritable default)
    (hmem : (name, Text.decimal n) ∈ p.writtenParams) :
    p.rawParams.Says name (Rule.IntegerIn least greatest) default n := by
  have hbounds : least ≤ n ∧ n ≤ greatest := by
    cases hs : raw.value? name with
    | none => rwa [(says_none hs).mp h]
    | some s => exact ((says_some hs).mp h).bounds
  exact says_written hp hmem (Text.decimal_ne_empty n)
    ⟨hwritten, Text.isNumeral_decimal (h.isWritable hshort), hbounds⟩

end RawParams

/-! ### Lists and filters -/

/-- Entries that are accepted, and none of which is passed over, are read off the list of them. -/
theorem ListReads.of_entries {accepted : String → Prop} {l : List String} (hne : l ≠ [])
    (hcomma : ∀ entry ∈ l, ',' ∉ entry.toList) (hkept : ∀ entry ∈ l, entry ∉ ignoredFields)
    (haccepted : ∀ entry ∈ l, accepted entry) : ListReads accepted (Text.join "," l) (some l) := by
  have hsplit : Text.splitOn ',' (Text.join "," l) = l := Text.splitOn_join hne hcomma
  refine ⟨?_, ?_, fun hnil => hne (Option.some.inj hnil)⟩
  · intro entry hentry
    rw [hsplit] at hentry
    exact Or.inr (haccepted entry hentry)
  · rw [keptEntries, hsplit, eq_comm]
    exact List.filter_eq_self.mpr fun entry hentry => decide_eq_true (hkept entry hentry)

/-- The entries that are left of a list are read off the list of them. -/
theorem ListReads.join {accepted : String → Prop} {s : String} {l : List String}
    (h : ListReads accepted s (some l)) : ListReads accepted (Text.join "," l) (some l) := by
  have hl : l = keptEntries s := h.kept
  have hmem : ∀ entry ∈ l, entry ∈ Text.splitOn ',' s ∧ entry ∉ ignoredFields := by
    intro entry hentry
    rw [hl, keptEntries, List.mem_filter, decide_eq_true_eq] at hentry
    exact hentry
  refine .of_entries (fun hnil => h.ne_nil (congrArg some hnil)) ?_ ?_ ?_
  · exact fun entry hentry => Text.not_mem_of_mem_splitOn (hmem entry hentry).1
  · exact fun entry hentry => (hmem entry hentry).2
  · intro entry hentry
    exact (h.accepted entry (hmem entry hentry).1).resolve_left (hmem entry hentry).2

/-- A list that is not accepted where it is empty is not written as the empty text. -/
theorem ListReads.join_ne_empty {accepted : String → Prop} (hempty : ¬ accepted "") {s : String}
    {l : List String} (h : ListReads accepted s (some l)) : Text.join "," l ≠ "" := by
  intro hjoin
  -- the empty text would be read as a list of one empty entry
  have haccepted := h.join.accepted
  rw [hjoin] at haccepted
  rcases haccepted "" (by decide) with hignored | hgood
  · exact absurd hignored (by decide)
  · exact hempty hgood

theorem AreValues.join {text : String} {values : List String} (h : AreValues text values) :
    AreValues (Text.join " AND " values) values := by
  have htrim : Text.trimChars (Text.join " AND " values).toList =
      Text.joinChars (Text.spaced "AND".toList) (values.map String.toList) := by
    have hjoin : (Text.join " AND " values).toList =
        Text.joinChars (Text.spaced "AND".toList) (values.map String.toList) := by
      rw [Text.join, String.toList_ofList]
      rfl
    rw [hjoin]
    apply Text.trimChars_of_bare
    · exact h.startsBare_join (Text.startsBare_trimChars _)
    · exact h.endsBare_join (Text.endsBare_trimChars _)
  rw [AreValues, htrim]
  exact Text.Pieces.join h

/-- The conditions of a filter are read off the expression that is written for them. -/
theorem FilterReads.written {urls : Url.Check} {r : Registry} {s : String}
    {conditions : List Condition} (h : FilterReads urls r s conditions) :
    ∃ t, filterExpression? conditions = some t ∧ t ≠ "" ∧ FilterReads urls r t conditions := by
  obtain ⟨f, hf, hsearchable, hcolon, text, values, -, hvalues, hfit, rfl⟩ := h
  obtain ⟨value, rest, rfl⟩ : ∃ value rest, values = value :: rest := by
    apply List.exists_cons_of_ne_nil
    simpa using Text.Pieces.ne_nil hvalues
  refine ⟨f.name ++ ":" ++ Text.join " AND " (value :: rest), ?_, ?_, ?_⟩
  · simp [filterExpression?, Function.comp_def]
  · intro hempty
    simpa using congrArg String.toList hempty
  · exact ⟨f, hf, hsearchable, hcolon, _, value :: rest, rfl, hvalues.join, hfit, rfl⟩

namespace RawParams.Says

variable {raw : RawParams} {name : String} {p : SearchRequest}

theorem written_list (hp : p.Separate) {accepted : String → Prop} (hempty : ¬ accepted "")
    {items : Option (List String)} (h : raw.Says name (ListReads accepted) none items)
    (hmem : ∀ s, (name, s) ∈ p.writtenParams ↔
      ∃ l, items = some l ∧ l ≠ [] ∧ s = Text.join "," l) :
    p.rawParams.Says name (ListReads accepted) none items := by
  cases items with
  | none => exact says_unwritten hp fun s hs => by simpa using (hmem s).mp hs
  | some l =>
      cases hs : raw.value? name with
      | none => simp [says_none hs] at h
      | some s =>
          have hlist := (says_some hs).mp h
          have hl : l ≠ [] := fun hnil => hlist.ne_nil (congrArg some hnil)
          exact says_written hp ((hmem _).mpr ⟨l, rfl, hl, rfl⟩) (hlist.join_ne_empty hempty)
            hlist.join

theorem written_filter (hp : p.Separate) {urls : Url.Check} {r : Registry}
    {filter : Option (List Condition)}
    (h : raw.Says name (Present (FilterReads urls r)) none filter)
    (hmem : ∀ s, (name, s) ∈ p.writtenParams ↔ filter.bind filterExpression? = some s) :
    p.rawParams.Says name (Present (FilterReads urls r)) none filter := by
  cases filter with
  | none => exact says_unwritten hp fun s hs => by simpa using (hmem s).mp hs
  | some conditions =>
      obtain ⟨s, -, hreads⟩ := h.exists_value
      obtain ⟨t, ht, hne, hwritten⟩ := hreads.written
      exact says_written hp ((hmem t).mpr ht) hne ⟨conditions, hwritten, rfl⟩

end RawParams.Says

namespace Validator

variable {v : Validator} {raw : RawParams} {p : SearchRequest}

/-! ### Conditions on fields -/

/-- The conditions of a request are about searchable fields, each about one of its own. -/
theorem nodup_givenConditions : ((v.givenConditions raw).map Condition.field).Nodup := by
  have hfields : (v.givenConditions raw).map Condition.field =
      v.registry.searchableNames.filter fun name => (raw.value? name).isSome := by
    rw [givenConditions, List.map_filterMap, ← List.filterMap_eq_filter]
    apply List.filterMap_congr
    intro name _
    cases h : raw.value? name <;> simp [Option.guard, h]
  have hnames : v.registry.searchableNames.Nodup :=
    v.registry.nodup_names_filter Field.searchable
  rw [hfields]
  exact hnames.sublist List.filter_sublist

theorem Reads.separate (h : v.Reads raw p)
    (hfree : ∀ name ∈ v.registry.searchableNames, name ∉ controlParams) : p.Separate where
  nodup := by
    rw [h.fieldQueries]
    exact nodup_givenConditions
  free := by
    rw [h.fieldQueries]
    exact fun c hc => hfree c.field (mem_givenConditions_iff.mp hc).1

/-- The value that is written for a searchable field is the one that was given for it. -/
theorem Reads.value?_rawParams (h : v.Reads raw p)
    (hfree : ∀ name ∈ v.registry.searchableNames, name ∉ controlParams) {name : String}
    (hname : name ∈ v.registry.searchableNames) :
    p.rawParams.value? name = raw.value? name := by
  have hcontrol := hfree name hname
  simp only [controlParams, List.mem_cons, not_or] at hcontrol
  apply Option.ext
  intro s
  rw [SearchRequest.value?_rawParams_eq_some_iff (h.separate hfree)]
  -- nothing else is written under the name of a field
  have hmem : (name, s) ∈ p.writtenParams ↔ ⟨name, s⟩ ∈ p.fieldQueries := by
    simp [SearchRequest.mem_writtenParams_iff, hcontrol]
  rw [hmem, h.fieldQueries, mem_givenConditions_iff]
  constructor
  · exact fun hs => hs.1.2
  · exact fun hs => ⟨⟨hname, hs⟩, (RawParams.value?_eq_some_iff.mp hs).2⟩

/-! ### The request as a whole -/

theorem not_isFacet_empty (hnames : ∀ f ∈ v.registry.fields, f.name ≠ "") : ¬ v.IsFacet "" := by
  rintro (hfacetable | ⟨-, origin, horigin, -⟩)
  · obtain ⟨f, hf, hname, -⟩ := Registry.any_find?_iff.mp hfacetable
    exact hnames f hf hname
  · simpa using congrArg String.toList horigin

/-- A request that is read off some parameters can be written: its integers have been read, or are
defaults. -/
theorem Reads.toRawParams_eq_ok (h : v.Reads raw p) : p.toRawParams = .ok p.rawParams :=
  if_pos ⟨h.facetSize.isWritable (by decide), h.page.isWritable (by decide),
    h.pageSize.isWritable (by decide)⟩

/-- A request that is read off some parameters is read off those that are written for it. -/
theorem Reads.rawParams (h : v.Reads raw p) (hnames : ∀ f ∈ v.registry.fields, f.name ≠ "")
    (hfree : ∀ name ∈ v.registry.searchableNames, name ∉ controlParams)
    (hmax : 10 ≤ v.maxPageSize) (hwritten : Text.IsWritable v.maxPageSize) :
    v.Reads p.rawParams p := by
  have hp := h.separate hfree
  have hvalue : ∀ name ∈ v.registry.searchableNames,
      p.rawParams.value? name = raw.value? name :=
    fun name hname => h.value?_rawParams hfree hname
  have hretrievable : ¬ v.registry.isRetrievable "" = true := by
    intro hflag
    obtain ⟨f, hf, hname, -⟩ := Registry.any_find?_iff.mp hflag
    exact hnames f hf hname
  -- one case for each part of the request, in the order of `Reads`
  constructor
  · exact RawParams.says_written hp (by simp [SearchRequest.mem_writtenParams_iff])
      (by cases p.exactFieldMatch <;> decide) rfl
  · apply h.facets.written_list hp (not_isFacet_empty hnames)
    simp (disch := decide) [SearchRequest.mem_writtenParams_iff, hp.not_mem]
  · apply h.facetSize.written_integer hp (by decide) (by decide) (by decide)
    simp [SearchRequest.mem_writtenParams_iff]
  · apply h.fields.written_list hp hretrievable
    simp (disch := decide) [SearchRequest.mem_writtenParams_iff, hp.not_mem]
  · rw [h.fieldQueries]
    apply List.filterMap_congr
    intro name hname
    rw [hvalue name hname]
  · intro f hf hsearchable s hs
    have hname : f.name ∈ v.registry.searchableNames :=
      Registry.mem_searchableNames_iff.mpr ⟨f, hf, rfl, hsearchable⟩
    rw [hvalue f.name hname] at hs
    exact h.valuesFit f hf hsearchable s hs
  · apply h.filter.written_filter hp
    simp (disch := decide) [SearchRequest.mem_writtenParams_iff, hp.not_mem]
  · exact RawParams.says_written hp (by simp [SearchRequest.mem_writtenParams_iff])
      (by cases p.op <;> decide) rfl
  · apply h.page.written_integer hp (by decide) (by decide) (by decide)
    simp [SearchRequest.mem_writtenParams_iff]
  · apply h.pageSize.written_integer hp ⟨by decide, hwritten⟩ ⟨by decide, hmax⟩ (by decide)
    simp [SearchRequest.mem_writtenParams_iff]
  · apply h.q.written_text hp
    simp (disch := decide) [SearchRequest.mem_writtenParams_iff, hp.not_mem]
  · apply h.sortBy.written_text hp
    simp (disch := decide) [SearchRequest.mem_writtenParams_iff, hp.not_mem]
  · apply h.sortByPin.written_text hp
    simp (disch := decide) [SearchRequest.mem_writtenParams_iff, hp.not_mem]
  · exact RawParams.says_written hp (by simp [SearchRequest.mem_writtenParams_iff])
      (by cases p.sortOrder <;> decide) rfl
  · exact h.sorting
  · exact h.exactMatch

/-- Under a bound of page sizes that cannot be named, nothing that is written is accepted: a page
size is written for every request, and the rule for it names the bound. -/
theorem Reads.search_rawParams_ne_ok (h : v.Reads raw p)
    (hfree : ∀ name ∈ v.registry.searchableNames, name ∉ controlParams)
    (hlong : ¬ Text.IsWritable v.maxPageSize) (q : SearchRequest) :
    v.search p.rawParams ≠ .ok q := by
  intro hq
  have hvalue : p.rawParams.value? "page_size" = some (Text.decimal p.pageSize) :=
    (SearchRequest.value?_rawParams_eq_some_iff (h.separate hfree)).mpr
      ⟨by simp [SearchRequest.mem_writtenParams_iff], Text.decimal_ne_empty p.pageSize⟩
  have hsize := (RawParams.says_some hvalue).mp (search_eq_ok_iff.mp hq).2.pageSize
  exact hlong hsize.written.2

/-- Nothing is written for a request but known parameters. -/
theorem Reads.knows_rawParams (h : v.Reads raw p)
    (hfree : ∀ name ∈ v.registry.searchableNames, name ∉ controlParams) :
    v.Knows p.rawParams := by
  intro name hname
  obtain ⟨s, hmem⟩ : ∃ s, (name, s) ∈ p.writtenParams := by
    rw [SearchRequest.rawParams_eq (h.separate hfree), List.mem_map] at hname
    obtain ⟨⟨_, s⟩, hmem, rfl⟩ := hname
    exact ⟨s, hmem⟩
  rw [SearchRequest.mem_writtenParams_iff, h.fieldQueries, mem_givenConditions_iff] at hmem
  by_cases hcontrol : name ∈ controlParams
  · exact Or.inr hcontrol
  · simp only [controlParams, List.mem_cons, not_or] at hcontrol
    simp only [hcontrol, false_and, false_or, or_false] at hmem
    exact Or.inl hmem.1

/-- What is written for an accepted search is accepted, and it is the same search. The bound of page
sizes must be one that can be named, for the rule does so before it looks at a page size; settings
hold no other (`Settings.isWritable_of_ofVariables`). -/
theorem search_toRawParams (hnames : ∀ f ∈ v.registry.fields, f.name ≠ "")
    (hfree : ∀ f ∈ v.registry.fields, f.searchable = true → f.name ∉ controlParams)
    (hmax : 10 ≤ v.maxPageSize) (hwritten : Text.IsWritable v.maxPageSize)
    (h : v.search raw = .ok p) :
    ∃ written, p.toRawParams = .ok written ∧ v.search written = .ok p := by
  have hfree' : ∀ name ∈ v.registry.searchableNames, name ∉ controlParams := by
    intro name hname
    obtain ⟨f, hf, rfl⟩ := List.mem_map.mp hname
    obtain ⟨hmem, hsearchable⟩ := List.mem_filter.mp hf
    exact hfree f hmem hsearchable
  have hreads := (search_eq_ok_iff.mp h).2
  refine ⟨p.rawParams, hreads.toRawParams_eq_ok, search_eq_ok_iff.mpr ⟨?_, ?_⟩⟩
  · exact hreads.knows_rawParams hfree'
  · exact hreads.rawParams hnames hfree' hmax hwritten

/-- A page number with a sign and zeros, an entry that is passed over, and AND as a value. -/
theorem search_toRawParams_profile :
    ∃ p, search ⟨Profile.registry, 500, .sample⟩
        [("filter", "sourceResource.type: image AND AND"), ("sourceResource.title", "cats"),
         ("facets", "provider.name,sourceResource.subtitle"), ("page", "+007")] = .ok p ∧
      ∃ written, p.toRawParams = .ok written ∧
        search ⟨Profile.registry, 500, .sample⟩ written = .ok p := by
  have h : search ⟨Profile.registry, 500, .sample⟩
      [("filter", "sourceResource.type: image AND AND"), ("sourceResource.title", "cats"),
       ("facets", "provider.name,sourceResource.subtitle"), ("page", "+007")] = .ok
        { facets := some ["provider.name"]
          fieldQueries := [⟨"sourceResource.title", "cats"⟩]
          filter := some [⟨"sourceResource.type", "image"⟩, ⟨"sourceResource.type", "AND"⟩]
          page := 7 } :=
    toOption_eq_some_iff.mp (by decide +kernel)
  exact ⟨_, h, search_toRawParams (by decide +kernel) (by decide +kernel) (by decide) (by decide) h⟩

end Validator

end ItemSearch
