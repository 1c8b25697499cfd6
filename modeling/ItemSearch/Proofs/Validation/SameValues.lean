import ItemSearch.Proofs.Validation.Reading
import ItemSearch.Registry.Profile
import ItemSearch.Service

/-!
What a search depends on. Every check looks a parameter up by its name and takes an empty value for
none, so parameters with the same values come to the same request or the same error, in whatever
order they stand and whatever else is empty. Of the pairs of a query only the first value of each
name gets that far: the parameters of a request are `Assoc.ofListFirst` of its pairs.
-/

namespace ItemSearch

/-- The parameters have the same values. Which of the others are absent and which are empty, and in
which order all of them stand, makes no difference. -/
def RawParams.Agree (raw raw' : RawParams) : Prop := ∀ name, raw.value? name = raw'.value? name

/-- Parameters without repetition agree where they bind the same names to the same texts, empty
texts apart. -/
theorem RawParams.agree_of_mem_iff {raw raw' : RawParams} (h : (raw.map Prod.fst).Nodup)
    (h' : (raw'.map Prod.fst).Nodup)
    (hsame : ∀ name s, s ≠ "" → ((name, s) ∈ raw ↔ (name, s) ∈ raw')) : raw.Agree raw' := by
  intro name
  refine Option.ext fun s => ?_
  rw [value?_eq_some_iff, value?_eq_some_iff, Assoc.find?_eq_some_iff_mem h,
    Assoc.find?_eq_some_iff_mem h']
  exact and_congr_left fun hs => hsame name s hs

namespace Validator

variable {v : Validator} {raw raw' : RawParams}

theorem param_congr {α : Type} (h : raw.Agree raw') (name : String)
    (rule : String → String → Checked α) (default : α) :
    param raw name rule default = param raw' name rule default := by
  rw [param, param, h name]

theorem param?_congr {α : Type} (h : raw.Agree raw') (name : String)
    (rule : String → String → Checked α) : param? raw name rule = param? raw' name rule := by
  rw [param?, param?, h name]

theorem fieldQueries_congr (h : raw.Agree raw') : v.fieldQueries raw = v.fieldQueries raw' := by
  have hquery : v.fieldQuery? raw = v.fieldQuery? raw' := by
    funext name
    rw [fieldQuery?, fieldQuery?, h name]
  rw [fieldQueries, fieldQueries, hquery]

theorem filter?_congr (h : raw.Agree raw') : v.filter? raw = v.filter? raw' := by
  rw [filter?, filter?, h "filter"]

theorem sortBy?_congr (h : raw.Agree raw') : v.sortBy? raw = v.sortBy? raw' := by
  rw [sortBy?, sortBy?, h "sort_by", h "sort_by_pin"]

/-- The field to sort by is compared with the name of the coordinates field as it is written, and an
empty one is told from an absent one there only if the name is empty. -/
theorem sortByPin?_congr (hname : v.registry.coordinates.name ≠ "") (h : raw.Agree raw') :
    v.sortByPin? raw = v.sortByPin? raw' := by
  have hwritten : Assoc.find? "sort_by" raw = some v.registry.coordinates.name ↔
      Assoc.find? "sort_by" raw' = some v.registry.coordinates.name := by
    have hvalue := h "sort_by"
    rw [← and_iff_left hname (a := Assoc.find? "sort_by" raw = _),
      ← and_iff_left hname (a := Assoc.find? "sort_by" raw' = _),
      ← RawParams.value?_eq_some_iff, ← RawParams.value?_eq_some_iff, hvalue]
  rw [sortByPin?, sortByPin?, h "sort_by_pin"]
  simp only [hwritten]

theorem checkSearch_congr (hname : v.registry.coordinates.name ≠ "") (h : raw.Agree raw') :
    v.checkSearch raw = v.checkSearch raw' := by
  simp only [checkSearch, facets, fields, param_congr h, param?_congr h, fieldQueries_congr h,
    filter?_congr h, sortBy?_congr h, sortByPin?_congr hname h]

theorem search_congr (hname : v.registry.coordinates.name ≠ "") (hknows : v.Knows raw)
    (hknows' : v.Knows raw') (h : raw.Agree raw') : v.search raw = v.search raw' := by
  simp only [search, knows_iff.mp hknows, knows_iff.mp hknows', checkSearch_congr hname h]

end Validator

namespace Service

/-- Two lists of known parameters come to the same search, or to the same error, if the first values
of their names are the same where they are not empty, and then the same body is compiled. -/
theorem search_depends_on_first_values (s : Service)
    (hname : s.validator.registry.coordinates.name ≠ "") {pairs pairs' : List (String × String)}
    (hknown : s.validator.Knows pairs) (hknown' : s.validator.Knows pairs')
    (hsame : ∀ name value, value ≠ "" →
      ((name, value) ∈ Assoc.ofListFirst pairs ↔ (name, value) ∈ Assoc.ofListFirst pairs')) :
    s.validator.search (Assoc.ofListFirst pairs) = s.validator.search (Assoc.ofListFirst pairs') ∧
      s.prepareSearch (Assoc.ofListFirst pairs) = s.prepareSearch (Assoc.ofListFirst pairs') := by
  have hfirst : ∀ {pairs}, s.validator.Knows pairs →
      s.validator.Knows (Assoc.ofListFirst pairs) :=
    fun hknows name hmem => hknows name (Assoc.mem_keys_ofListFirst_iff.mp hmem)
  have hagree : RawParams.Agree (Assoc.ofListFirst pairs) (Assoc.ofListFirst pairs') :=
    RawParams.agree_of_mem_iff (Assoc.nodup_keys_ofListFirst pairs)
      (Assoc.nodup_keys_ofListFirst pairs') hsame
  have hsearch := Validator.search_congr hname (hfirst hknown) (hfirst hknown') hagree
  refine ⟨hsearch, ?_⟩
  rw [prepareSearch, prepareSearch, hsearch]

/-- A repeated name, two empty values, and another order. -/
theorem search_cats_twice :
    let s := of Profile.registry 500 .sample "items"
    let pairs := [("page", "2"), ("q", "cats"), ("q", "dogs"), ("sort_by", "")]
    let pairs' := [("q", "cats"), ("sort_order", ""), ("page", "2")]
    s.validator.registry.coordinates.name ≠ "" ∧ s.validator.Knows pairs ∧
      s.validator.Knows pairs' ∧
      s.validator.search (Assoc.ofListFirst pairs) = .ok { q := some "cats", page := 2 } ∧
      s.validator.search (Assoc.ofListFirst pairs') = .ok { q := some "cats", page := 2 } ∧
      s.prepareSearch (Assoc.ofListFirst pairs) = s.prepareSearch (Assoc.ofListFirst pairs') := by
  intro s pairs pairs'
  have hname : s.validator.registry.coordinates.name ≠ "" := by decide
  have hcontrol : ∀ {pairs : List (String × String)},
      (∀ name ∈ pairs.map Prod.fst, name ∈ controlParams) → s.validator.Knows pairs :=
    fun h name hmem => Or.inr (h name hmem)
  have hknown : s.validator.Knows pairs := hcontrol (by decide)
  have hknown' : s.validator.Knows pairs' := hcontrol (by decide)
  have hsame : ∀ name value, value ≠ "" →
      ((name, value) ∈ Assoc.ofListFirst pairs ↔ (name, value) ∈ Assoc.ofListFirst pairs') := by
    have hfirst : Assoc.ofListFirst pairs = [("page", "2"), ("q", "cats"), ("sort_by", "")] := by
      decide
    have hfirst' : Assoc.ofListFirst pairs' =
        [("q", "cats"), ("sort_order", ""), ("page", "2")] := by
      decide
    intro name value hvalue
    rw [hfirst, hfirst']
    simp [hvalue, or_comm]
  have hsearch : s.validator.search (Assoc.ofListFirst pairs) =
      .ok { q := some "cats", page := 2 } :=
    toOption_eq_some_iff.mp (by decide +kernel)
  obtain ⟨heq, hbody⟩ := search_depends_on_first_values s hname hknown hknown' hsame
  exact ⟨hname, hknown, hknown', hsearch, heq ▸ hsearch, hbody⟩

end Service

end ItemSearch
