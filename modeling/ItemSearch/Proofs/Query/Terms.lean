import ItemSearch.Proofs.Text.Joined
import ItemSearch.Query.Terms
import Mathlib.Data.List.Forall2

/-!
The terms of an exact-match value that is written out of bare terms, in groups. AND stands between
the groups and OR between the terms of a group. `splitTerms_of_isGrouped` says that the terms are
found again in the order in which they stand, one group after the other. Where a group ends and the
next begins is not to be seen in the result.
-/

namespace ItemSearch.Query

open Text

/-- A term that can stand in a value without quotation marks. -/
structure IsBareTerm (t : String) : Prop where
  ne_empty : t ≠ ""
  trimmed : trim t = t
  unquoted : '"' ∉ t.toList
  and_not_mem : "AND".toList ∉ words t.toList
  or_not_mem : "OR".toList ∉ words t.toList

/-- The value is the groups with AND from each to the next, and a group is its terms with OR from
each to the next. -/
def IsGrouped (value : String) (groups : List (List String)) : Prop :=
  ∃ texts, Joined "AND".toList value.toList texts ∧
    List.Forall₂ (fun text terms => Joined "OR".toList text (terms.map String.toList)) texts groups

theorem stripQuotesChars_of_not_mem {s : List Char} (h : '"' ∉ s) : stripQuotesChars s = s := by
  unfold stripQuotesChars
  split
  · exact absurd (List.mem_cons_self ..) h
  · rfl

namespace IsBareTerm

variable {t : String}

theorem trimChars_eq (h : IsBareTerm t) : trimChars t.toList = t.toList := by
  simpa [trim] using congrArg String.toList h.trimmed

theorem solid (h : IsBareTerm t) : Solid t.toList :=
  solid_of_trimChars_eq h.trimChars_eq (by simpa using h.ne_empty)

end IsBareTerm

/-- There is no value without terms. -/
theorem splitTerms_ne_nil (value : String) : splitTerms value ≠ [] := by
  have hparts := splitWordChars_ne_nil "AND".toList (stripQuotesChars (trimChars value.toList))
  obtain ⟨part, parts, hpart⟩ := List.exists_cons_of_ne_nil hparts
  obtain ⟨term, terms, hterm⟩ := List.exists_cons_of_ne_nil (splitWordChars_ne_nil "OR".toList part)
  rw [splitTerms, splitTermsChars, hpart, List.flatMap_cons, hterm]
  simp

/-- A piece of a value that neither AND nor OR splits. -/
structure IsPiece (piece : List Char) : Prop where
  solid : Solid piece
  and_not_mem : "AND".toList ∉ words piece
  or_not_mem : "OR".toList ∉ words piece

theorem IsBareTerm.isPiece {t : String} (h : IsBareTerm t) : IsPiece t.toList :=
  ⟨h.solid, h.and_not_mem, h.or_not_mem⟩

/-- The terms of a text that is split as it stands, and of which marks are taken off piece by
piece. -/
def termsWithin (s : List Char) : List (List Char) :=
  ((splitWordChars "AND".toList s).flatMap (splitWordChars "OR".toList)).map fun piece =>
    stripQuotesChars (trimChars piece)

/-- The blanks around a value and the marks around the whole are off before it is split. -/
theorem splitTermsChars_eq (s : List Char) :
    splitTermsChars s = termsWithin (stripQuotesChars (trimChars s)) := by
  rw [splitTermsChars, termsWithin, List.map_flatMap]

/-- What is read of a text that is written in groups: its pieces, each without its own quotation
marks. -/
theorem termsWithin_of_groups {s : List Char} {texts : List (List Char)}
    {groups : List (List (List Char))} (h : Joined "AND".toList s texts)
    (hgroups : List.Forall₂ (Joined "OR".toList) texts groups)
    (hpieces : ∀ piece ∈ groups.flatten, IsPiece piece) :
    termsWithin s = groups.flatten.map stripQuotesChars := by
  have hsplit := h.split_groups bare_and bare_or (by decide) hgroups
    (fun piece hmem => (hpieces piece hmem).solid)
    (fun piece hmem => (hpieces piece hmem).and_not_mem)
    (fun piece hmem => (hpieces piece hmem).or_not_mem)
  rw [termsWithin, hsplit]
  apply List.map_congr_left
  intro piece hmem
  have hsolid := (hpieces piece hmem).solid
  rw [trimChars_of_bare hsolid.startsBare hsolid.endsBare]

/-- The terms of a value that is written in groups are the terms of the groups. -/
theorem splitTerms_of_isGrouped {value : String} {groups : List (List String)}
    (h : IsGrouped value groups) (hterms : ∀ group ∈ groups, ∀ t ∈ group, IsBareTerm t) :
    splitTerms value = groups.flatten := by
  obtain ⟨texts, hvalue, hgroups⟩ := h
  rw [← List.forall_mem_flatten] at hterms
  rw [← List.forall₂_map_right_iff] at hgroups
  have hflat : (groups.map (List.map String.toList)).flatten = groups.flatten.map String.toList :=
    List.map_flatten.symm
  have hpieces : ∀ piece ∈ (groups.map (List.map String.toList)).flatten, IsPiece piece := by
    rw [hflat]
    exact List.forall_mem_map.mpr fun t ht => (hterms t ht).isPiece
  have hunquoted : ∀ piece ∈ (groups.map (List.map String.toList)).flatten, '"' ∉ piece := by
    rw [hflat]
    exact List.forall_mem_map.mpr fun t ht => (hterms t ht).unquoted
  -- the value as a whole has neither blanks at its ends nor quotation marks to take off
  have hsolid : Solid value.toList := hvalue.solid
    (Joined.forall_mem_of_groups hgroups Joined.solid fun piece hmem => (hpieces piece hmem).solid)
  have hquote : '"' ∉ value.toList := hvalue.not_mem (by decide) (by decide)
    (Joined.forall_mem_of_groups hgroups (Joined.not_mem (by decide) (by decide)) hunquoted)
  have hinside : stripQuotesChars (trimChars value.toList) = value.toList := by
    rw [trimChars_of_bare hsolid.startsBare hsolid.endsBare, stripQuotesChars_of_not_mem hquote]
  have hstrip : (groups.flatten.map String.toList).map stripQuotesChars =
      groups.flatten.map String.toList := by
    rw [List.map_map]
    exact List.map_congr_left fun t ht => stripQuotesChars_of_not_mem (hterms t ht).unquoted
  rw [splitTerms, splitTermsChars_eq, hinside, termsWithin_of_groups hvalue hgroups hpieces, hflat,
    hstrip, List.map_map]
  simp [Function.comp_def]

end ItemSearch.Query
