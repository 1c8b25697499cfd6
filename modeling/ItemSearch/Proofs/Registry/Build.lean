import ItemSearch.Proofs.Registry.Lookup
import ItemSearch.Registry.Profile

/-!
Which fields make a registry, and what is reported of those that do not. The check for repeated
names is a run over the list that remembers the names it has seen. Over two lists, one behind the
other, it is the run over the first and then the run over the second that remembers the first as
well (`firstRepeated?_append`); so it stops at the first name that came before.

Building ends with the first fault or with a registry of the fields (`build_cases`), and of these
no two can hold of the same fields: each condition is therefore exact. A registry is determined by
its fields and the names of the distinguished two, and what it answers to lookups, how it lists
names and what it holds for distinguished all speak of that one list (`Represents`).
-/

namespace ItemSearch

/-! ### The first repeated name -/

/-- The name comes a second time in the list, and up to there no name does. -/
def IsFirstRepeated (names : List String) (name : String) : Prop :=
  ∃ before after, names = before ++ name :: after ∧ before.Nodup ∧ name ∈ before

theorem firstRepeated?_append (seen before after : List String) :
    firstRepeated? seen (before ++ after) =
      (firstRepeated? seen before).or (firstRepeated? (before.reverse ++ seen) after) := by
  induction before generalizing seen with
  | nil => rfl
  | cons n ns ih =>
      by_cases hn : n ∈ seen
      · simp [firstRepeated?, hn]
      · simp [firstRepeated?, hn, ih]

/-- The run stops at a name that it has seen, behind names among which it does not stop. -/
theorem firstRepeated?_eq_some_iff (seen names : List String) (name : String) :
    firstRepeated? seen names = some name ↔
      ∃ before after, names = before ++ name :: after ∧ firstRepeated? seen before = none ∧
        (name ∈ seen ∨ name ∈ before) := by
  constructor
  · intro h
    induction names generalizing seen with
    | nil => simp [firstRepeated?] at h
    | cons n ns ih =>
        by_cases hn : n ∈ seen
        · have heq : n = name := by simpa [firstRepeated?, hn] using h
          subst heq
          exact ⟨[], ns, rfl, rfl, Or.inl hn⟩
        · have hrest : firstRepeated? (n :: seen) ns = some name := by
            simpa [firstRepeated?, hn] using h
          obtain ⟨before, after, hns, hnone, hmem⟩ := ih (n :: seen) hrest
          refine ⟨n :: before, after, by rw [hns, List.cons_append], ?_, ?_⟩
          · simpa [firstRepeated?, hn] using hnone
          · -- the name that was seen last moves from the one list to the other
            rw [List.mem_cons, or_assoc] at hmem
            rw [List.mem_cons, or_left_comm]
            exact hmem
  · rintro ⟨before, after, rfl, hnone, hmem⟩
    have hseen : name ∈ before.reverse ++ seen := by
      rw [List.mem_append, List.mem_reverse]
      exact hmem.symm
    rw [firstRepeated?_append, hnone, Option.none_or, firstRepeated?, if_pos hseen]

theorem isFirstRepeated_iff {names : List String} {name : String} :
    IsFirstRepeated names name ↔ firstRepeated? [] names = some name := by
  rw [firstRepeated?_eq_some_iff]
  simp [IsFirstRepeated, firstRepeated?_eq_none_iff]

theorem IsFirstRepeated.not_nodup {names : List String} {name : String}
    (h : IsFirstRepeated names name) : ¬ names.Nodup := by
  obtain ⟨before, after, rfl, -, hmem⟩ := h
  intro hnodup
  exact (List.nodup_append.mp hnodup).2.2 name hmem name (List.mem_cons_self ..) rfl

namespace Registry

/-! ### What makes a registry, and what is reported otherwise -/

/-- The fields have distinct names, and the two that are to be distinguished are among these. -/
structure Registrable (fields : List Field) (coordinates identifier : String) : Prop where
  distinct : (fields.map Field.name).Nodup
  coordinates_mem : coordinates ∈ fields.map Field.name
  identifier_mem : identifier ∈ fields.map Field.name

/-- What is reported of fields that make no registry: a repeated name before anything else, and a
missing identifier only where there is a coordinates field. -/
inductive FirstFault (fields : List Field) (coordinates identifier : String) :
    RegistryError → Prop where
  | duplicateName {name : String} (repeated : IsFirstRepeated (fields.map Field.name) name) :
      FirstFault fields coordinates identifier (.duplicateName name)
  | missingCoordinates (distinct : (fields.map Field.name).Nodup)
      (missing : coordinates ∉ fields.map Field.name) :
      FirstFault fields coordinates identifier (.missingCoordinates coordinates)
  | missingIdentifier (distinct : (fields.map Field.name).Nodup)
      (found : coordinates ∈ fields.map Field.name)
      (missing : identifier ∉ fields.map Field.name) :
      FirstFault fields coordinates identifier (.missingIdentifier identifier)

variable {fields : List Field} {coordinates identifier : String}

/-- What comes of building: the first fault, or a registry of the fields with the two that were
named. -/
theorem build_cases (fields : List Field) (coordinates identifier : String) :
    (∃ e, build fields coordinates identifier = .error e ∧
      FirstFault fields coordinates identifier e) ∨
    ∃ r, build fields coordinates identifier = .ok r ∧ r.fields = fields ∧
      r.coordinates.name = coordinates ∧ r.identifier.name = identifier := by
  have hfound {name : String} {f : Field} (h : fieldIn? fields name = some f) : f.name = name := by
    simpa using List.find?_some h
  unfold build
  split
  case h_1 name hd =>
    exact Or.inl ⟨_, rfl, .duplicateName (isFirstRepeated_iff.mpr hd)⟩
  case h_2 hd =>
    have hdistinct : (fields.map Field.name).Nodup := ((firstRepeated?_eq_none_iff [] _).mp hd).1
    split
    case h_1 hc =>
      exact Or.inl ⟨_, rfl, .missingCoordinates hdistinct (fieldIn?_eq_none_iff.mp hc)⟩
    case h_2 c hc =>
      have hmem : coordinates ∈ fields.map Field.name :=
        hfound hc ▸ List.mem_map_of_mem (fieldIn?_mem hc)
      split
      case h_1 hi =>
        exact Or.inl ⟨_, rfl, .missingIdentifier hdistinct hmem (fieldIn?_eq_none_iff.mp hi)⟩
      case h_2 i hi =>
        exact Or.inr ⟨_, rfl, rfl, hfound hc, hfound hi⟩

/-! ### Faults exclude each other and a registry -/

theorem FirstFault.not_registrable {e : RegistryError}
    (h : FirstFault fields coordinates identifier e) :
    ¬ Registrable fields coordinates identifier := by
  intro hfields
  cases h with
  | duplicateName repeated => exact repeated.not_nodup hfields.distinct
  | missingCoordinates _ missing => exact missing hfields.coordinates_mem
  | missingIdentifier _ _ missing => exact missing hfields.identifier_mem

theorem FirstFault.unique {e e' : RegistryError}
    (h : FirstFault fields coordinates identifier e)
    (h' : FirstFault fields coordinates identifier e') : e = e' := by
  cases h with
  | duplicateName repeated =>
      cases h' with
      | duplicateName repeated' =>
          have hname := (isFirstRepeated_iff.mp repeated).symm.trans
            (isFirstRepeated_iff.mp repeated')
          rw [Option.some.inj hname]
      | missingCoordinates distinct _ => exact absurd distinct repeated.not_nodup
      | missingIdentifier distinct _ _ => exact absurd distinct repeated.not_nodup
  | missingCoordinates distinct missing =>
      cases h' with
      | duplicateName repeated' => exact absurd distinct repeated'.not_nodup
      | missingCoordinates _ _ => rfl
      | missingIdentifier _ found _ => exact absurd found missing
  | missingIdentifier distinct found _ =>
      cases h' with
      | duplicateName repeated' => exact absurd distinct repeated'.not_nodup
      | missingCoordinates _ missing' => exact absurd found missing'
      | missingIdentifier _ _ _ => rfl

theorem registrable (r : Registry) :
    Registrable r.fields r.coordinates.name r.identifier.name where
  distinct := r.nodup
  coordinates_mem := List.mem_map_of_mem r.coordinates_mem
  identifier_mem := List.mem_map_of_mem r.identifier_mem

theorem eq_of_names {r r' : Registry} (hfields : r.fields = r'.fields)
    (hcoordinates : r.coordinates.name = r'.coordinates.name)
    (hidentifier : r.identifier.name = r'.identifier.name) : r = r' := by
  have hc : r.coordinates = r'.coordinates :=
    eq_of_name_eq r.coordinates_mem (hfields ▸ r'.coordinates_mem) hcoordinates
  have hi : r.identifier = r'.identifier :=
    eq_of_name_eq r.identifier_mem (hfields ▸ r'.identifier_mem) hidentifier
  cases r
  cases r'
  simp only at hfields hc hi
  subst hfields hc hi
  rfl

theorem build_eq_error_iff {e : RegistryError} :
    build fields coordinates identifier = .error e ↔
      FirstFault fields coordinates identifier e := by
  obtain ⟨e', hbuild, hfault⟩ | ⟨r, hbuild, rfl, rfl, rfl⟩ :=
    build_cases fields coordinates identifier
  · rw [hbuild, Except.error.injEq]
    constructor
    · rintro rfl
      exact hfault
    · exact hfault.unique
  · rw [hbuild]
    constructor
    · intro h
      cases h
    · intro h
      exact absurd r.registrable h.not_registrable

/-- Every registry is built, of its fields and the names of the distinguished two. -/
theorem build_eq_ok_iff {r : Registry} :
    build fields coordinates identifier = .ok r ↔
      r.fields = fields ∧ r.coordinates.name = coordinates ∧ r.identifier.name = identifier := by
  obtain ⟨e, hbuild, hfault⟩ | ⟨r', hbuild, hfields, hcoordinates, hidentifier⟩ :=
    build_cases fields coordinates identifier
  · rw [hbuild]
    constructor
    · intro h
      cases h
    · rintro ⟨rfl, rfl, rfl⟩
      exact absurd r.registrable hfault.not_registrable
  · rw [hbuild, Except.ok.injEq]
    constructor
    · rintro rfl
      exact ⟨hfields, hcoordinates, hidentifier⟩
    · rintro ⟨rfl, rfl, rfl⟩
      exact eq_of_names hfields hcoordinates hidentifier

theorem exists_build_iff :
    (∃ r, build fields coordinates identifier = .ok r) ↔
      Registrable fields coordinates identifier := by
  constructor
  · rintro ⟨r, hr⟩
    obtain ⟨rfl, rfl, rfl⟩ := build_eq_ok_iff.mp hr
    exact r.registrable
  · intro hfields
    obtain ⟨e, -, hfault⟩ | ⟨r, hr, -⟩ := build_cases fields coordinates identifier
    · exact absurd hfields hfault.not_registrable
    · exact ⟨r, hr⟩

/-! ### What a registry represents -/

/-- The registry speaks of these fields and of no other, and finds the distinguished two under
their names. -/
structure Represents (r : Registry) (fields : List Field) (coordinates identifier : String) :
    Prop where
  fields_eq : r.fields = fields
  size_eq : r.size = fields.length
  found : ∀ name f, r.find? name = some f ↔ fields.filter (fun g => g.name = name) = [f]
  described : ∀ f ∈ fields, r.Describes f
  silent : ∀ name, name ∉ fields.map Field.name → r.IsSilentOn name
  searchableNames : IsListing fields (fun name => r.isSearchable name = true) r.searchableNames
  dateNames : IsListing fields (fun name => r.type? name = some .date) r.dateNames
  coordinates_found : r.find? coordinates = some r.coordinates
  identifier_found : r.find? identifier = some r.identifier

theorem represents (r : Registry) :
    r.Represents r.fields r.coordinates.name r.identifier.name where
  fields_eq := rfl
  size_eq := rfl
  found _ _ := find?_eq_some_iff_filter
  described _ hf := describes_of_mem hf
  silent _ hname := isSilentOn_of_not_mem hname
  searchableNames := r.isListing_searchableNames
  dateNames := r.isListing_dateNames
  coordinates_found := find?_name r.coordinates_mem
  identifier_found := find?_name r.identifier_mem

/-- Fields make a registry exactly when their names are distinct and the distinguished two are among
them; of others the first fault is reported; and what is built is the registry that represents the
fields. -/
theorem build_represents (fields : List Field) (coordinates identifier : String) :
    ((∃ r, build fields coordinates identifier = .ok r) ↔
      Registrable fields coordinates identifier) ∧
    (∀ e, build fields coordinates identifier = .error e ↔
      FirstFault fields coordinates identifier e) ∧
    ∀ r, build fields coordinates identifier = .ok r ↔
      r.Represents fields coordinates identifier := by
  refine ⟨exists_build_iff, fun e => build_eq_error_iff, fun r => ?_⟩
  rw [build_eq_ok_iff]
  constructor
  · rintro ⟨rfl, rfl, rfl⟩
    exact r.represents
  · intro h
    have hcoordinates := (find?_eq_some_iff.mp h.coordinates_found).2
    have hidentifier := (find?_eq_some_iff.mp h.identifier_found).2
    exact ⟨h.fields_eq, hcoordinates, hidentifier⟩

/-- A name that is repeated is reported even where both distinguished names are missing. -/
example : build [{ name := "id", backendPath := "id" }, { name := "id", backendPath := "@id" }]
    "coordinates" "key" = .error (.duplicateName "id") := rfl

end Registry

/-- The registry of the item index is the one that is built of its fields. -/
theorem Profile.build_registry :
    Registry.build Profile.fields Profile.coordinatesName Profile.identifierName =
      .ok Profile.registry :=
  Registry.build_eq_ok_iff.mpr ⟨rfl, rfl, rfl⟩

end ItemSearch
