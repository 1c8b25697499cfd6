import ItemSearch.Registry.Basic

/-!
Lookups in a registry agree with its list of fields. Names are distinct, so the field of a name is
the one field of the list that has the name, a flag asked for by name is the flag of a field, and
the names that are listed for a flag are those that have it when they are asked for.
-/

namespace ItemSearch

/-- The name of a field that asks for a range. -/
def IsRangeName (name : String) : Prop :=
  ".before".toList <:+ name.toList ∨ ".after".toList <:+ name.toList

namespace Registry

variable {r : Registry} {name : String}

theorem find?_eq_some_iff {f : Field} : r.find? name = some f ↔ f ∈ r.fields ∧ f.name = name := by
  unfold find? fieldIn?
  have hnodup := r.nodup
  generalize r.fields = fields at hnodup ⊢
  induction fields with
  | nil => simp
  | cons g rest ih =>
      rw [List.map_cons, List.nodup_cons] at hnodup
      by_cases hg : g.name = name
      · simp only [List.find?_cons, hg, decide_true, Option.some.injEq, List.mem_cons]
        constructor
        · rintro rfl
          exact ⟨Or.inl rfl, hg⟩
        · rintro ⟨rfl | hf, hname⟩
          · rfl
          · -- the name of the first field comes once
            have hmem : g.name ∈ rest.map Field.name := by
              rw [hg, ← hname]
              exact List.mem_map_of_mem hf
            exact absurd hmem hnodup.1
      · simp only [List.find?_cons, hg, decide_false, ih hnodup.2, List.mem_cons]
        constructor
        · rintro ⟨hf, hname⟩
          exact ⟨Or.inr hf, hname⟩
        · rintro ⟨rfl | hf, hname⟩
          · exact absurd hname hg
          · exact ⟨hf, hname⟩

theorem find?_name {f : Field} (h : f ∈ r.fields) : r.find? f.name = some f :=
  find?_eq_some_iff.mpr ⟨h, rfl⟩

/-- Names tell the fields of a registry apart. -/
theorem eq_of_name_eq {f g : Field} (hf : f ∈ r.fields) (hg : g ∈ r.fields)
    (hname : f.name = g.name) : f = g := by
  have hfind := find?_name hf
  rw [hname, find?_name hg] at hfind
  exact (Option.some.inj hfind).symm

/-- A flag that is asked for by name is the flag of a field of that name. -/
theorem any_find?_iff {flag : Field → Bool} :
    (r.find? name).any flag = true ↔ ∃ f ∈ r.fields, f.name = name ∧ flag f = true := by
  rw [Option.any_eq_true]
  constructor
  · rintro ⟨f, hf, hflag⟩
    obtain ⟨hmem, hname⟩ := find?_eq_some_iff.mp hf
    exact ⟨f, hmem, hname, hflag⟩
  · rintro ⟨f, hmem, hname, hflag⟩
    exact ⟨f, find?_eq_some_iff.mpr ⟨hmem, hname⟩, hflag⟩

theorem mem_names_filter_iff {flag : Field → Bool} :
    name ∈ (r.fields.filter flag).map Field.name ↔
      ∃ f ∈ r.fields, f.name = name ∧ flag f = true := by
  simp only [List.mem_map, List.mem_filter]
  exact exists_congr fun f => and_right_comm.trans and_assoc

/-- Some of the fields have distinct names, since all of them have. -/
theorem nodup_names_filter (r : Registry) (flag : Field → Bool) :
    ((r.fields.filter flag).map Field.name).Nodup :=
  r.nodup.sublist (List.filter_sublist.map Field.name)

theorem mem_searchableNames_iff :
    name ∈ r.searchableNames ↔ ∃ f ∈ r.fields, f.name = name ∧ f.searchable = true :=
  mem_names_filter_iff

theorem mem_dateNames_iff :
    name ∈ r.dateNames ↔ ∃ f ∈ r.fields, f.name = name ∧ f.type = .date := by
  rw [dateNames, mem_names_filter_iff]
  simp only [decide_eq_true_eq]

/-- The name of a field with some flag is the name of a field. -/
theorem exists_find?_of_any {flag : Field → Bool} (h : (r.find? name).any flag = true) :
    ∃ f, r.find? name = some f ∧ f.name = name ∧ flag f = true := by
  obtain ⟨f, hmem, hname, hflag⟩ := any_find?_iff.mp h
  exact ⟨f, find?_eq_some_iff.mpr ⟨hmem, hname⟩, hname, hflag⟩

/-- Every field has a path, so a name has one as soon as it is the name of a field. -/
theorem backendPath?_isSome_iff :
    (r.backendPath? name).isSome = true ↔ ∃ f ∈ r.fields, f.name = name := by
  rw [backendPath?, Option.isSome_map, Option.isSome_iff_exists]
  exact exists_congr fun f => find?_eq_some_iff

theorem wholeValuePath?_isSome_iff :
    (r.wholeValuePath? name).isSome = true ↔
      ∃ f ∈ r.fields, f.name = name ∧ f.wholeValuePath?.isSome = true := by
  simp only [wholeValuePath?, Option.isSome_bind, Option.any_eq_true, find?_eq_some_iff, and_assoc]

/-! ### What is said of a name -/

theorem fieldIn?_eq_none_iff {fields : List Field} :
    fieldIn? fields name = none ↔ name ∉ fields.map Field.name := by
  simp [fieldIn?]

theorem find?_eq_none_iff : r.find? name = none ↔ name ∉ r.fields.map Field.name :=
  fieldIn?_eq_none_iff

/-- The field of a name is the only one of the list that has the name, so that it comes once. -/
theorem find?_eq_some_iff_filter {f : Field} :
    r.find? name = some f ↔ r.fields.filter (fun g => g.name = name) = [f] := by
  have hhead : r.find? name = (r.fields.filter fun g => g.name = name).head? := by
    rw [List.head?_filter]
    rfl
  have hnodup := r.nodup_names_filter fun g => g.name = name
  have hname : ∀ g ∈ r.fields.filter fun g => g.name = name, g.name = name := by
    intro g hg
    simpa using (List.mem_filter.mp hg).2
  rw [hhead]
  cases hlist : r.fields.filter fun g => g.name = name with
  | nil => simp
  | cons g rest =>
      rw [hlist] at hnodup hname
      -- two fields of that name would be two of one name
      have hrest : rest = [] := by
        cases rest with
        | nil => rfl
        | cons g' rest =>
            have hsame : g.name = g'.name := by
              rw [hname g (by simp), hname g' (by simp)]
            simp [hsame] at hnodup
      simp [hrest]

/-- Whatever is asked about the name of a field, the answer is what the field says of itself. -/
structure Describes (r : Registry) (f : Field) : Prop where
  find : r.find? f.name = some f
  contains : r.contains f.name = true
  type : r.type? f.name = some f.type
  backendPath : r.backendPath? f.name = some f.backendPath
  wholeValuePath : r.wholeValuePath? f.name = f.wholeValuePath?
  nonAnalyzedPath : r.nonAnalyzedPath? f.name = f.nonAnalyzedPath
  searchable : r.isSearchable f.name = f.searchable
  sortable : r.isSortable f.name = f.sortable
  facetable : r.isFacetable f.name = f.facetable
  retrievable : r.isRetrievable f.name = f.retrievable

theorem describes_of_mem {f : Field} (h : f ∈ r.fields) : r.Describes f := by
  have hfind := find?_name h
  constructor <;>
    simp [contains, type?, backendPath?, wholeValuePath?, nonAnalyzedPath?, isSearchable,
      isSortable, isFacetable, isRetrievable, hfind]

/-- Whatever is asked about the name, the answer is negative or there is none. -/
structure IsSilentOn (r : Registry) (name : String) : Prop where
  find : r.find? name = none
  contains : r.contains name = false
  type : r.type? name = none
  backendPath : r.backendPath? name = none
  wholeValuePath : r.wholeValuePath? name = none
  nonAnalyzedPath : r.nonAnalyzedPath? name = none
  searchable : r.isSearchable name = false
  sortable : r.isSortable name = false
  facetable : r.isFacetable name = false
  retrievable : r.isRetrievable name = false

theorem isSilentOn_of_not_mem (h : name ∉ r.fields.map Field.name) : r.IsSilentOn name := by
  have hfind := find?_eq_none_iff.mpr h
  constructor <;>
    simp [contains, type?, backendPath?, wholeValuePath?, nonAnalyzedPath?, isSearchable,
      isSortable, isFacetable, isRetrievable, hfind]

/-! ### Listings -/

/-- The names that pass a test, each once and in the order of the fields. -/
structure IsListing (fields : List Field) (test : String → Prop) (listing : List String) :
    Prop where
  sublist : listing.Sublist (fields.map Field.name)
  nodup : listing.Nodup
  mem_iff : ∀ name, name ∈ listing ↔ test name

/-- The fields with some flag are listed by the names that have the flag when asked for by name. -/
theorem isListing_of_flag (r : Registry) (flag : Field → Bool) :
    IsListing r.fields (fun name => (r.find? name).any flag = true)
      ((r.fields.filter flag).map Field.name) where
  sublist := List.filter_sublist.map Field.name
  nodup := r.nodup_names_filter flag
  mem_iff _ := mem_names_filter_iff.trans any_find?_iff.symm

theorem isListing_searchableNames (r : Registry) :
    IsListing r.fields (fun name => r.isSearchable name = true) r.searchableNames :=
  r.isListing_of_flag Field.searchable

theorem isListing_dateNames (r : Registry) :
    IsListing r.fields (fun name => r.type? name = some .date) r.dateNames := by
  have htest : ∀ name, r.type? name = some .date ↔
      (r.find? name).any (fun f => decide (f.type = .date)) = true := by
    intro name
    cases h : r.find? name <;> simp [type?, h]
  simp only [htest]
  exact r.isListing_of_flag fun f => decide (f.type = .date)

end Registry

end ItemSearch
