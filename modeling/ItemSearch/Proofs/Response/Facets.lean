import ItemSearch.Proofs.Query.Facets
import ItemSearch.Proofs.Response.Buckets

/-!
Facets are read back as they were asked for. The compiler tells the kinds of facets apart by the
registry, and the reader tells them apart by the shape of what comes back and by a colon in the
name. For the facets of an accepted search the two agree, as long as no field has a colon in its
name: then there is a colon in a name exactly where distances are asked for. Whatever its kind, a
facet has the buckets that were sent for it, one for each in their order.
-/

namespace ItemSearch

open Schema

/-! ### What the backend counts -/

/-- The value holds a list of buckets. -/
def HoldsBuckets (v : Json) : Prop :=
  ∃ buckets, v.member? "buckets" = some (.arr buckets) ∧
    ∀ bucket ∈ buckets, ∃ members, bucket = .obj members ∧ Bucket.IsSent members

/-- What the backend sends for an aggregation of this kind. The buckets of dates stand behind the
filter for their range. -/
def FacetKind.IsAnsweredBy : FacetKind → Json → Prop
  | .terms, v | .distances, v => v.member? "facet" = none ∧ HoldsBuckets v
  | .dates, v => ∃ counted, v.member? "facet" = some counted ∧ HoldsBuckets counted

namespace Facet

variable {v : Json} {kind : FacetKind}

/-- The buckets that the value holds are shown, one for each in their order. -/
def ShowsBuckets (v : Json) (shown : List Json) : Prop :=
  ∃ sent, v.member? "buckets" = some (.arr sent) ∧
    List.Forall₂ (fun bucket s => ∃ members, bucket = .obj members ∧ Bucket.IsShownAs members s)
      sent shown

/-- Where the buckets stand in what was sent for a name, and the kind and the field that they are
read for. A level for dates goes before a place in the name. -/
inductive Counted (name : String) (v : Json) : FacetKind → String → Json → Prop where
  | dates {counted : Json} (h : v.member? "facet" = some counted) :
      Counted name v .dates name counted
  | distances (h : v.member? "facet" = none) (hplace : Text.after ':' name ≠ "") :
      Counted name v .distances (Text.before ':' name) v
  | terms (h : v.member? "facet" = none) (hplace : Text.after ':' name = "") :
      Counted name v .terms name v

/-- The buckets that are sent are those of the facet. -/
theorem exists_ofAggregation (field : String) (h : HoldsBuckets v) :
    ∃ buckets, ofAggregation field kind v = .ok ⟨field, kind, buckets⟩ ∧
      ShowsBuckets v (buckets.map Bucket.toJson) := by
  obtain ⟨sent, hsent, hbuckets⟩ := h
  have heach : ∀ bucket ∈ sent, ∃ b, Bucket.ofJson bucket = .ok b ∧
      ∃ members, bucket = .obj members ∧ Bucket.IsShownAs members b.toJson := by
    intro bucket hbucket
    obtain ⟨members, rfl, hmembers⟩ := hbuckets bucket hbucket
    obtain ⟨b, hb, hshown⟩ := Bucket.exists_ofJson hmembers
    exact ⟨b, hb, members, rfl, hshown⟩
  obtain ⟨buckets, hread, hshown⟩ := exists_mapM_eq_ok heach
  refine ⟨buckets, ?_, sent, hsent, List.forall₂_map_right_iff.mpr hshown⟩
  cases v with
  | obj members =>
      have hmember : Shaped.member? "buckets" (.obj members) = .ok (some (.arr sent)) :=
        congrArg Except.ok hsent
      simp only [ofAggregation, bind_eq_ok_iff, hmember, pure_eq_ok_iff]
      exact ⟨_, rfl, sent, rfl, buckets, hread, rfl⟩
  | _ => simp [Json.member?] at hsent

theorem ofNamed_of_member {counted : Json} (h : v.member? "facet" = some counted) (name : String) :
    ofNamed name v = ofAggregation name .dates counted := by
  cases v with
  | obj members =>
      have hfind : Assoc.find? "facet" members = some counted := h
      simp only [ofNamed, Shaped.mentions, Shaped.member, hfind]
      rfl
  | _ => simp [Json.member?] at h

theorem ofNamed_of_no_member (hbuckets : HoldsBuckets v) (h : v.member? "facet" = none)
    (name : String) :
    ofNamed name v =
      if Text.after ':' name ≠ "" then ofAggregation (Text.before ':' name) .distances v
      else ofAggregation name .terms v := by
  obtain ⟨_, hsent, -⟩ := hbuckets
  cases v with
  | obj members =>
      have hfind : Assoc.find? "facet" members = none := h
      simp only [ofNamed, Shaped.mentions, hfind]
      rfl
  | _ => simp [Json.member?] at hsent

/-- What was counted for a name is read as a facet of its kind. -/
theorem Counted.exists_ofNamed {name field : String} {counted : Json}
    (h : Counted name v kind field counted) (hbuckets : HoldsBuckets counted) :
    ∃ buckets, ofNamed name v = .ok ⟨field, kind, buckets⟩ ∧
      ShowsBuckets counted (buckets.map Bucket.toJson) := by
  cases h with
  | dates h =>
      rw [ofNamed_of_member h]
      exact exists_ofAggregation name hbuckets
  | distances h hplace =>
      rw [ofNamed_of_no_member hbuckets h, if_pos hplace]
      exact exists_ofAggregation _ hbuckets
  | terms h hplace =>
      rw [ofNamed_of_no_member hbuckets h, if_neg (not_not.mpr hplace)]
      exact exists_ofAggregation name hbuckets

/-- What is sent for a facet is read as a facet of the kind that was asked for. Only a name that
asks for distances may have a place in it, for the reader goes by that. -/
theorem ofNamed_eq_ok {name : String} (hanswer : kind.IsAnsweredBy v)
    (hkind : kind = .distances ↔ Text.after ':' name ≠ "") :
    ∃ buckets, ofNamed name v =
      .ok ⟨if kind = .distances then Text.before ':' name else name, kind, buckets⟩ := by
  have hcounted : ∃ counted, HoldsBuckets counted ∧ Counted name v kind
      (if kind = .distances then Text.before ':' name else name) counted := by
    cases kind with
    | terms =>
        have hplain : Text.after ':' name = "" := by simpa using hkind
        exact ⟨v, hanswer.2, .terms hanswer.1 hplain⟩
    | distances => exact ⟨v, hanswer.2, .distances hanswer.1 (hkind.mp rfl)⟩
    | dates =>
        obtain ⟨counted, hfacet, hbuckets⟩ := hanswer
        exact ⟨counted, hbuckets, .dates hfacet⟩
  obtain ⟨counted, hbuckets, hcounted⟩ := hcounted
  obtain ⟨buckets, hread, -⟩ := hcounted.exists_ofNamed hbuckets
  exact ⟨buckets, hread⟩

/-- The facets that something was sent for. -/
def isSent (aggregations : List (String × Json)) (name : String) : Bool :=
  match Assoc.find? name aggregations with
  | none | some .null => false
  | some _ => true

/-- A facet of this kind, read for a facet of that name. -/
structure IsReadFor (name : String) (kind : FacetKind) (m : Facet) : Prop where
  field : m.field = if kind = .distances then Text.before ':' name else name
  kind : m.kind = kind

theorem isSent_eq_true_iff {aggregations : List (String × Json)} {name : String} :
    isSent aggregations name = true ↔ ∃ v, Assoc.find? name aggregations = some v ∧ v ≠ .null := by
  unfold isSent
  split
  · next h => simp [h]
  · next h => simp [h]
  · next v hnull h =>
      simp only [h, Option.some.injEq, exists_eq_left', true_iff]
      rintro rfl
      exact hnull rfl

theorem listOf_cons_of_not_isSent {aggregations : List (String × Json)} {name : String}
    (h : isSent aggregations name = false) (names : List String) :
    listOf (.obj aggregations) (name :: names) = listOf (.obj aggregations) names := by
  unfold isSent at h
  split at h
  · next hfind =>
      rw [listOf, Shaped.member?, hfind]
      rfl
  · next hfind =>
      rw [listOf, Shaped.member?, hfind]
      rfl
  · simp at h

theorem listOf_cons_of_find? {aggregations : List (String × Json)} {name : String} {v : Json}
    (h : Assoc.find? name aggregations = some v) (hnull : v ≠ .null) (names : List String) :
    listOf (.obj aggregations) (name :: names) = (do
      let facet ← ofNamed name v
      return facet :: (← listOf (.obj aggregations) names)) := by
  rw [listOf, Shaped.member?, h]
  cases v with
  | null => exact absurd rfl hnull
  | _ => rfl

/-- Facets are read in the order in which their names are given, one for each name that something
was sent for. -/
theorem exists_listOf {aggregations : List (String × Json)} {R : String → Json → Facet → Prop}
    {names : List String}
    (h : ∀ name ∈ names, ∀ v, Assoc.find? name aggregations = some v →
      v = .null ∨ ∃ m, ofNamed name v = .ok m ∧ R name v m) :
    ∃ mapped, listOf (.obj aggregations) names = .ok mapped ∧
      List.Forall₂ (fun name m => ∃ v, Assoc.find? name aggregations = some v ∧ R name v m)
        (names.filter (isSent aggregations)) mapped := by
  induction names with
  | nil => exact ⟨[], rfl, .nil⟩
  | cons name names ih =>
      rw [List.forall_mem_cons] at h
      obtain ⟨mapped, hmapped, heach⟩ := ih h.2
      cases hsent : isSent aggregations name with
      | false =>
          rw [List.filter_cons_of_neg (by simp [hsent]), listOf_cons_of_not_isSent hsent]
          exact ⟨mapped, hmapped, heach⟩
      | true =>
          obtain ⟨v, hfind, hnull⟩ := isSent_eq_true_iff.mp hsent
          obtain ⟨m, hm, hread⟩ := (h.1 v hfind).resolve_left hnull
          rw [List.filter_cons_of_pos hsent, listOf_cons_of_find? hfind hnull, hm, hmapped]
          exact ⟨_, rfl, .cons ⟨v, hfind, hread⟩ heach⟩

theorem listOf_eq_ok {aggregations : List (String × Json)} {kindOf : String → FacetKind}
    {names : List String}
    (hkinds : ∀ name ∈ names, kindOf name = .distances ↔ Text.after ':' name ≠ "")
    (hanswers : ∀ name ∈ names, ∀ v, Assoc.find? name aggregations = some v →
      v = .null ∨ (kindOf name).IsAnsweredBy v) :
    ∃ mapped, listOf (.obj aggregations) names = .ok mapped ∧
      List.Forall₂ (fun name m => IsReadFor name (kindOf name) m)
        (names.filter (isSent aggregations)) mapped := by
  have hread : ∀ name ∈ names, ∀ v, Assoc.find? name aggregations = some v →
      v = .null ∨ ∃ m, ofNamed name v = .ok m ∧ IsReadFor name (kindOf name) m := by
    intro name hname v hv
    refine (hanswers name hname v hv).imp_right fun hanswer => ?_
    obtain ⟨buckets, hm⟩ := ofNamed_eq_ok hanswer (hkinds name hname)
    exact ⟨_, hm, rfl, rfl⟩
  obtain ⟨mapped, hmapped, heach⟩ := exists_listOf hread
  exact ⟨mapped, hmapped, heach.imp fun _ _ ⟨_, _, hm⟩ => hm⟩

/-- There are no facets where none were asked for or nothing was counted. -/
theorem all_eq_none {aggregations : Json} {names : Option (List String)}
    (h : names.getD [] = [] ∨ aggregations.isEmpty = true) : all aggregations names = .ok none := by
  unfold all
  split
  · rfl
  · rfl
  · next hne =>
      rw [if_pos (h.resolve_left (by simpa using hne))]

theorem all_of_listOf {aggregations : List (String × Json)} {names : List String}
    {mapped : List Facet} (hne : names ≠ []) (hsent : aggregations ≠ [])
    (h : listOf (.obj aggregations) names = .ok mapped) :
    all (.obj aggregations) (some names) = .ok (some mapped) := by
  obtain ⟨name, rest, rfl⟩ := List.exists_cons_of_ne_nil hne
  simp only [all, Json.isEmpty, List.isEmpty_eq_false_iff.mpr hsent, h]
  rfl

/-- Whatever was sent for some of the names, and for others nothing, it can be read. -/
theorem succeeds_all {aggregations : List (String × Json)} {kindOf : String → FacetKind}
    {names : Option (List String)}
    (hkinds : ∀ name ∈ names.getD [], (kindOf name = .distances ↔ Text.after ':' name ≠ ""))
    (hanswers : ∀ name ∈ names.getD [], ∀ v, Assoc.find? name aggregations = some v →
      v = .null ∨ (kindOf name).IsAnsweredBy v) :
    Succeeds (all (.obj aggregations) names) := by
  obtain ⟨mapped, hmapped, -⟩ := listOf_eq_ok hkinds hanswers
  by_cases hempty : names.getD [] = [] ∨ aggregations = []
  · exact ⟨none, all_eq_none (hempty.imp_right fun hnil => by rw [hnil]; rfl)⟩
  · obtain ⟨hne, hsent⟩ := not_or.mp hempty
    cases names with
    | none => exact absurd rfl hne
    | some names => exact ⟨some mapped, all_of_listOf hne hsent hmapped⟩

end Facet

/-! ### Accepted facets -/

namespace Validator

variable {v : Validator} {raw : RawParams} {p : SearchRequest} {facets : List String}

/-- Where no field has a colon in its name, a facet asks for distances exactly if it has a place
behind a colon. -/
theorem IsFacet.kind_eq_distances_iff (hnames : ∀ f ∈ v.registry.fields, ':' ∉ f.name.toList)
    {facet : String} (h : v.IsFacet facet) :
    v.registry.facetKind facet = .distances ↔ Text.after ':' facet ≠ "" := by
  rw [Registry.facetKind_eq_distances_iff, Registry.AsksForDistances]
  rcases h with hfacetable | ⟨hcolon, origin, rfl, horigin⟩
  · obtain ⟨f, hf, rfl, -⟩ := Registry.any_find?_iff.mp hfacetable
    simp [Text.after_of_not_mem (hnames f hf)]
  · have hbefore := Text.before_append hcolon origin
    exact and_iff_right hbefore

theorem Reads.facetKind_eq_distances_iff (hnames : ∀ f ∈ v.registry.fields, ':' ∉ f.name.toList)
    (h : v.Reads raw p) : ∀ facet ∈ p.facets.getD [],
      (v.registry.facetKind facet = .distances ↔ Text.after ':' facet ≠ "") :=
  fun facet hfacet =>
    (accepted_of_listed h.facets facet hfacet).kind_eq_distances_iff hnames

end Validator

namespace Facet

end Facet

namespace Validator

/-- No field of the item index has a colon in its name. -/
theorem plain_names : ∀ f ∈ Profile.registry.fields, ':' ∉ f.name.toList := by
  decide +kernel

end Validator

end ItemSearch
