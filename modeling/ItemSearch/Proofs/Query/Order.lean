import ItemSearch.Proofs.Query.Clauses

/-!
In which order the results of a search come. A place to measure from goes with the coordinates field
and with no other, and the checks of the two parameters see to it before the request is put
together, so the check of the request itself never fires. The field that an accepted search is
sorted by always makes it into the body: the order by relevance and the order of storage are left
for searches that ask for no order.
-/

namespace ItemSearch

/-- Results can be put into the order of the field: there is a path for its values as they are. -/
def Field.HasSortPath (f : Field) : Prop := f.nonAnalyzedPath.any (fun path => path ≠ "") = true

instance : DecidablePred Field.HasSortPath := fun f =>
  inferInstanceAs (Decidable (f.nonAnalyzedPath.any (fun path => path ≠ "") = true))

theorem Field.HasSortPath.exists_path {f : Field} (h : f.HasSortPath) :
    ∃ path, f.nonAnalyzedPath = some path ∧ path ≠ "" := by
  rw [HasSortPath, Option.any_eq_true] at h
  obtain ⟨path, hpath, hne⟩ := h
  exact ⟨path, hpath, of_decide_eq_true hne⟩

/-- Something in the request counts for the ranking: words to look for, or a condition. -/
def SearchRequest.HasScores (p : SearchRequest) : Prop := p.q ≠ none ∨ p.fieldQueries ≠ []

/-- The sort keys of a body for a request, as they are sent. -/
inductive Registry.OrderedBy (r : Registry) (p : SearchRequest) : List Json → Prop where
  | distance {pin : String} (hsort : p.sortBy = some r.coordinates.name)
      (hpin : p.sortByPin = some pin) :
      OrderedBy r p
        [.obj [("_geo_distance", .obj [(r.coordinates.backendPath, .str pin),
          ("order", .str "asc"), ("unit", .str "mi")])], .str "_score", .str "_doc"]
  | field {name path : String} (hsort : p.sortBy = some name) (hother : name ≠ r.coordinates.name)
      (hpath : r.nonAnalyzedPath? name = some path) (hne : path ≠ "") :
      OrderedBy r p
        [.obj [(path, .obj [("order", .str p.sortOrder.word)])], .str "_score", .str "_doc"]
  | relevance (hsort : p.sortBy = none) (hscores : p.HasScores) :
      OrderedBy r p [.str "_score", .str "_doc"]
  | storage (hsort : p.sortBy = none) (hscores : ¬ p.HasScores) : OrderedBy r p [.str "_doc"]

/-- An order that is asked for is never left out. -/
theorem Registry.OrderedBy.is_default_iff {r : Registry} {p : SearchRequest} {keys : List Json}
    (h : r.OrderedBy p keys) :
    (keys = [.str "_doc"] ∨ keys = [.str "_score", .str "_doc"]) ↔ p.sortBy = none := by
  cases h with
  | distance hsort _ => simp [hsort]
  | field hsort _ _ _ => simp [hsort]
  | relevance hsort _ => simp [hsort]
  | storage hsort _ => simp [hsort]

/-- A path that is named like one of the settings beside it would be overwritten by it. -/
theorem SortKey.toJson_distance {path : String} (horder : path ≠ "order") (hunit : path ≠ "unit")
    (pin : String) :
    (SortKey.distance path pin).toJson =
      .obj [("_geo_distance", .obj [(path, .str pin), ("order", .str "asc"),
        ("unit", .str "mi")])] := by
  simp [toJson, Json.object, Assoc.ofList, Assoc.put, horder, hunit, SortOrder.word]

namespace Validator

variable {v : Validator} {raw : RawParams} {p : SearchRequest}

/-- What passes the checks of the two parameters goes together. -/
theorem sortConflict?_eq_none_of_checks (hname : v.registry.coordinates.name ≠ "")
    {name pin : Option String} (hsort : v.sortBy? raw = .ok name)
    (hpin : v.sortByPin? raw = .ok pin) (hp : p.sortBy = name) (hp' : p.sortByPin = pin) :
    p.sortConflict? (some v.registry.coordinates.name) = none := by
  obtain ⟨hsaid, hneeds⟩ := sortBy?_eq_ok_iff.mp hsort
  obtain ⟨hsaid', hgoes⟩ := sortByPin?_eq_ok_iff.mp hpin
  rw [sortConflict?_eq_none_iff, hp, hp']
  constructor
  · intro hsome
    have hvalue : raw.value? "sort_by" = some v.registry.coordinates.name :=
      RawParams.value?_eq_some_iff.mpr ⟨hgoes hsome, hname⟩
    obtain ⟨_, ⟨-, rfl⟩, hread⟩ := (RawParams.says_some hvalue).mp hsaid
    exact hread
  · intro hcoordinates
    obtain ⟨s, hvalue⟩ := Option.isSome_iff_exists.mp (hneeds hcoordinates)
    obtain ⟨_, -, hread⟩ := (RawParams.says_some hvalue).mp hsaid'
    rw [hread]
    rfl

theorem Reads.q_ne_empty (h : v.Reads raw p) : p.q ≠ some "" := by
  intro hq
  have hsays := h.q
  rw [hq] at hsays
  obtain ⟨s, hs, -, hempty⟩ := hsays.exists_value
  exact (RawParams.value?_eq_some_iff.mp hs).2 hempty.symm

/-- The order where none is asked for. -/
theorem Reads.orderedBy_defaultSort (h : v.Reads raw p) (hsort : p.sortBy = none) {r : Registry} :
    r.OrderedBy p ((Compiler.defaultSort p).map SortKey.toJson) := by
  have hscores : (p.q.getD "" = "" ∧ p.fieldQueries = []) ↔ ¬ p.HasScores := by
    have hq := h.q_ne_empty
    unfold SearchRequest.HasScores
    cases hp : p.q with
    | none => simp
    | some q =>
        rw [hp] at hq
        have hne : q ≠ "" := fun heq => hq (congrArg some heq)
        simp [hne]
  unfold Compiler.defaultSort
  split
  · next hnone => exact .storage hsort (hscores.mp hnone)
  · next hsome => exact .relevance hsort (Classical.not_not.mp fun hnot => hsome (hscores.mpr hnot))

/-- An accepted search is put into the order that it asks for. -/
theorem Reads.sort_eq_ok {c : Compiler} (hc : c.registry = v.registry)
    (horder : v.registry.coordinates.backendPath ≠ "order")
    (hunit : v.registry.coordinates.backendPath ≠ "unit")
    (hpaths : ∀ f ∈ v.registry.fields, f.sortable = true →
      f.name ≠ v.registry.coordinates.name → f.HasSortPath)
    (h : v.Reads raw p) :
    ∃ keys, c.sort p = .ok keys ∧ v.registry.OrderedBy p (keys.map SortKey.toJson) := by
  unfold Compiler.sort SearchRequest.sort?
  cases hsort : p.sortBy with
  | none => exact ⟨_, rfl, h.orderedBy_defaultSort hsort⟩
  | some name =>
      have hsays := h.sortBy
      rw [hsort] at hsays
      obtain ⟨_, -, hsortable, rfl⟩ := hsays.exists_value
      obtain ⟨f, hfind, rfl, hflag⟩ := Registry.exists_find?_of_any hsortable
      have hf : f ∈ v.registry.fields := (Registry.find?_eq_some_iff.mp hfind).1
      cases hpin : p.sortByPin with
      | some pin =>
          have hname : f.name = v.registry.coordinates.name := by
            have hpaired := h.sorting.mp (by rw [hpin]; rfl)
            exact Option.some.inj (hsort.symm.trans hpaired)
          have hpath : c.backendPath f.name = .ok v.registry.coordinates.backendPath := by
            refine Compiler.resolve_eq_ok_iff.mpr ?_
            rw [hc, hname, Registry.backendPath?, Registry.find?_name v.registry.coordinates_mem,
              Option.map_some]
          refine ⟨[.distance v.registry.coordinates.backendPath pin, .score, .storage], ?_, ?_⟩
          · simp only [hpath]
            rfl
          · rw [List.map_cons, SortKey.toJson_distance horder hunit]
            exact .distance (by rw [hsort, hname]) hpin
      | none =>
          have hother : f.name ≠ v.registry.coordinates.name := by
            intro hname
            have hpaired := h.sorting.mpr (by rw [hsort, hname])
            rw [hpin] at hpaired
            simp at hpaired
          obtain ⟨path, hpath, hne⟩ := (hpaths f hf hflag hother).exists_path
          have hlookup : v.registry.nonAnalyzedPath? f.name = some path := by
            rw [Registry.nonAnalyzedPath?, hfind, Option.bind_some, hpath]
          refine ⟨[.field path p.sortOrder, .score, .storage], ?_, .field hsort hother hlookup hne⟩
          simp [hc, hlookup]

/-- A place and the coordinates field to sort by go together, and this is settled before the request
is put together. An accepted search comes in the order that it asks for, and in one of the two
others exactly where it asks for none. -/
theorem order_of_accepted {r : Registry} (hname : r.coordinates.name ≠ "")
    (horder : r.coordinates.backendPath ≠ "order") (hunit : r.coordinates.backendPath ≠ "unit")
    (hpaths : ∀ f ∈ r.fields, f.sortable = true → f.name ≠ r.coordinates.name → f.HasSortPath)
    (maxPageSize : Int) (urls : Url.Check) (keywordFields : List String) (raw : RawParams) :
    (∀ p : SearchRequest, sortBy? ⟨r, maxPageSize, urls⟩ raw = .ok p.sortBy →
      sortByPin? ⟨r, maxPageSize, urls⟩ raw = .ok p.sortByPin →
        p.sortConflict? (some r.coordinates.name) = none) ∧
    ∀ p, search ⟨r, maxPageSize, urls⟩ raw = .ok p →
      (p.sortByPin.isSome = true ↔ p.sortBy = some r.coordinates.name) ∧
      ((∃ field pin, p.sort? = some (.byDistance field pin)) ↔
        p.sortBy = some r.coordinates.name) ∧
      ∃ keys, Compiler.sort ⟨r, keywordFields⟩ p = .ok keys ∧
        r.OrderedBy p (keys.map SortKey.toJson) ∧
        ((keys.map SortKey.toJson = [.str "_doc"] ∨
          keys.map SortKey.toJson = [.str "_score", .str "_doc"]) ↔ p.sortBy = none) ∧
        ∀ body, Compiler.searchBody ⟨r, keywordFields⟩ p = .ok body → body.sort = some keys := by
  refine ⟨fun p hsort hpin => ?_, fun p hp => ?_⟩
  · exact sortConflict?_eq_none_of_checks (v := ⟨r, maxPageSize, urls⟩) hname hsort hpin rfl rfl
  · have hreads := (search_eq_ok_iff.mp hp).2
    have hdistance : (∃ field pin, p.sort? = some (.byDistance field pin)) ↔
        p.sortBy = some r.coordinates.name := by
      rw [← hreads.sorting]
      unfold SearchRequest.sort?
      cases hsort : p.sortBy with
      | none =>
          have hnone : p.sortByPin.isSome ≠ true := by
            rw [ne_eq, hreads.sorting, hsort]
            simp
          simpa using hnone
      | some name => cases p.sortByPin <;> simp
    obtain ⟨keys, hkeys, hordered⟩ :=
      hreads.sort_eq_ok (c := ⟨r, keywordFields⟩) rfl horder hunit hpaths
    refine ⟨hreads.sorting, hdistance, keys, hkeys, hordered, hordered.is_default_iff, ?_⟩
    intro body hbody
    obtain ⟨_, _, sort, _, -, -, hsort, -, rfl⟩ := Compiler.searchBody_eq_ok_iff.mp hbody
    rw [Except.ok.inj (hkeys.symm.trans hsort)]

/-- The items nearest to a place first. -/
theorem order_from_a_place :
    (Profile.registry.coordinates.name ≠ "" ∧
      Profile.registry.coordinates.backendPath ≠ "order" ∧
      Profile.registry.coordinates.backendPath ≠ "unit" ∧
      ∀ f ∈ Profile.registry.fields, f.sortable = true →
        f.name ≠ Profile.registry.coordinates.name → f.HasSortPath) ∧
    ∃ p keys, search ⟨Profile.registry, 500, .sample⟩
        [("sort_by", Profile.coordinatesName), ("sort_by_pin", "42.3,-71.1")] = .ok p ∧
      p.sortBy = some Profile.registry.coordinates.name ∧
      Compiler.sort (Compiler.of Profile.registry) p = .ok keys ∧
      Profile.registry.OrderedBy p (keys.map SortKey.toJson) := by
  have hname : Profile.registry.coordinates.name ≠ "" := by decide
  have horder : Profile.registry.coordinates.backendPath ≠ "order" := by decide
  have hunit : Profile.registry.coordinates.backendPath ≠ "unit" := by decide
  have hpaths : ∀ f ∈ Profile.registry.fields, f.sortable = true →
      f.name ≠ Profile.registry.coordinates.name → f.HasSortPath := by decide +kernel
  have hp : search ⟨Profile.registry, 500, .sample⟩
      [("sort_by", Profile.coordinatesName), ("sort_by_pin", "42.3,-71.1")] = .ok
        { sortBy := some Profile.coordinatesName, sortByPin := some "42.3,-71.1" } :=
    toOption_eq_some_iff.mp (by decide +kernel)
  obtain ⟨-, hsearch⟩ := order_of_accepted hname horder hunit hpaths 500 .sample
    Compiler.itemKeywordFields [("sort_by", Profile.coordinatesName), ("sort_by_pin", "42.3,-71.1")]
  obtain ⟨-, -, keys, hkeys, hordered, -, -⟩ := hsearch _ hp
  exact ⟨⟨hname, horder, hunit, hpaths⟩, _, keys, hp, rfl, hkeys, hordered⟩

end Validator

end ItemSearch
