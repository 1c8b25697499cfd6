import ItemSearch.Proofs.Query.TermList

/-!
A phrase between quotation marks, alone and beside another term. A value that is one phrase loses
its marks before it is split, so the phrase is split and trimmed like a value without marks. Beside
another term the phrase is split with its marks on, and they come off only where a piece still has
both. `splitTerms_phrase_beside_iff` says that the two ways of reading agree on the phrases in
which there is nothing to split and nothing to trim, and on no others.
-/

namespace ItemSearch.Query

open Text

/-- The characters between quotation marks. -/
def marked (s : List Char) : List Char := '"' :: (s ++ ['"'])

/-- The text between quotation marks. -/
def quote (s : String) : String := "\"" ++ s ++ "\""

/-- Neither AND nor OR splits the text. -/
structure IsUnsplit (s : List Char) : Prop where
  noAnd : ¬ HasOperator "AND".toList s
  noOr : ¬ HasOperator "OR".toList s

theorem toList_quote (s : String) : (quote s).toList = marked s.toList := by
  simp [quote, marked]

/-! ### Between marks -/

theorem startsBare_marked (s : List Char) : StartsBare (marked s) := startsBare_mark _

theorem endsBare_marked (s : List Char) : EndsBare (marked s) := endsBare_mark ('"' :: s)

theorem trimChars_marked (s : List Char) : trimChars (marked s) = marked s :=
  trimChars_of_bare (startsBare_marked s) (endsBare_marked s)

theorem stripQuotesChars_marked {s : List Char} (h : '"' ∉ s) : stripQuotesChars (marked s) = s :=
  stripQuotesChars_quoted h

/-- A text that ends with a mark does not end with AND. -/
theorem not_endsInWord_marked (s : List Char) : ¬ EndsInWord "AND".toList (marked s) := by
  rintro ⟨before, a, -, h⟩
  have hlast := congrArg List.getLast? h
  simp [marked, List.getLast?_cons] at hlast

/-- The marks are no blanks, so they are neither of the two that an operator stands between. -/
theorem hasOperator_marked_iff {word s : List Char} :
    HasOperator word (marked s) ↔ HasOperator word s := by
  constructor
  · rintro ⟨before, a, b, after, ha, hb, h⟩
    cases before with
    | nil =>
        obtain rfl : '"' = a := (List.cons.inj h).1
        rw [isBlank_mark] at ha
        exact absurd ha (by simp)
    | cons c before =>
        have hrest : s ++ ['"'] = (before ++ a :: word) ++ b :: after := by
          simpa using (List.cons.inj h).2
        rcases List.eq_nil_or_concat after with rfl | ⟨init, last, rfl⟩
        · obtain ⟨-, rfl⟩ := List.append_singleton_inj.mp hrest
          rw [isBlank_mark] at hb
          exact absurd hb (by simp)
        · rw [List.concat_eq_append, ← List.cons_append, ← List.append_assoc] at hrest
          obtain ⟨rfl, -⟩ := List.append_singleton_inj.mp hrest
          exact ⟨before, a, b, init, ha, hb, by simp⟩
  · rintro ⟨before, a, b, after, ha, hb, rfl⟩
    exact ⟨'"' :: before, a, b, after ++ ['"'], ha, hb, by simp [marked]⟩

theorem isUnsplit_marked_iff {s : List Char} : IsUnsplit (marked s) ↔ IsUnsplit s :=
  ⟨fun h => ⟨hasOperator_marked_iff.not.mp h.noAnd, hasOperator_marked_iff.not.mp h.noOr⟩,
    fun h => ⟨hasOperator_marked_iff.not.mpr h.noAnd, hasOperator_marked_iff.not.mpr h.noOr⟩⟩

/-! ### The terms of a text -/

theorem termsWithin_of_isUnsplit {s : List Char} (h : IsUnsplit s) :
    termsWithin s = [stripQuotesChars (trimChars s)] := by
  rw [termsWithin, splitWordChars_of_not_hasOperator bare_and h.noAnd, List.flatMap_singleton,
    splitWordChars_of_not_hasOperator bare_or h.noOr, List.map_singleton]

theorem subset_of_mem_splitWordChars {word s piece : List Char} (hword : Bare word)
    (h : piece ∈ splitWordChars word s) : piece ⊆ s :=
  (pieces_splitWordChars hword s).subset piece h

theorem trimChars_subset (s : List Char) : trimChars s ⊆ s := by
  obtain ⟨before, after, -, -, hs⟩ := exists_blanks_around s
  intro c hc
  rw [hs]
  simp [hc]

theorem mark_not_mem_termsWithin {s : List Char} (h : '"' ∉ s) :
    ∀ term ∈ termsWithin s, '"' ∉ term := by
  intro term hterm
  obtain ⟨piece, hpiece, rfl⟩ := List.mem_map.mp hterm
  obtain ⟨part, hpart, hpiece⟩ := List.mem_flatMap.mp hpiece
  have hsubset : trimChars piece ⊆ s := List.Subset.trans (trimChars_subset piece)
    (List.Subset.trans (subset_of_mem_splitWordChars bare_or hpiece)
      (subset_of_mem_splitWordChars bare_and hpart))
  have hmark : '"' ∉ trimChars piece := fun hc => h (hsubset hc)
  rwa [stripQuotesChars_of_not_mem hmark]

/-- Of a mark without its counterpart nothing is taken off. -/
theorem stripQuotesChars_of_lone {s : List Char} (h : '"' ∉ s) :
    stripQuotesChars ('"' :: s) = '"' :: s := by
  cases hreverse : s.reverse with
  | nil => simp [stripQuotesChars, hreverse]
  | cons c inner =>
      have hc : c ∈ s := List.mem_reverse.mp (by simp [hreverse])
      have hne : c ≠ '"' := fun heq => h (heq ▸ hc)
      simp [stripQuotesChars, hreverse, hne]

theorem mark_mem_stripQuotesChars {s : List Char} (h : '"' ∉ s) :
    '"' ∈ stripQuotesChars (trimChars ('"' :: s)) := by
  obtain ⟨run, hrun, hsplit⟩ := exists_trailing_blanks ('"' :: s)
  rw [dropWhile_of_startsBare (startsBare_mark s)] at hsplit
  cases htrim : trimChars ('"' :: s) with
  | nil =>
      rw [htrim, List.nil_append] at hsplit
      have hblank := hrun '"' (by simp [← hsplit])
      rw [isBlank_mark] at hblank
      exact absurd hblank (by simp)
  | cons c inner =>
      rw [htrim, List.cons_append] at hsplit
      obtain ⟨rfl, rfl⟩ := List.cons.inj hsplit
      have hinner : '"' ∉ inner := fun hmem => h (List.mem_append_left run hmem)
      rw [stripQuotesChars_of_lone hinner]
      exact List.mem_cons_self ..

/-- Where AND or OR splits a phrase with its marks on, the first of the terms keeps its mark. -/
theorem exists_mark_mem_termsWithin {s : List Char} (hmark : '"' ∉ s)
    (h : ¬ IsUnsplit (marked s)) : ∃ term ∈ termsWithin (marked s), '"' ∈ term := by
  obtain ⟨part, parts, hparts, hpart⟩ :=
    (pieces_splitWordChars bare_and (marked s)).exists_first isBlank_mark
  obtain ⟨piece, pieces, hpieces, hpiece⟩ :=
    (pieces_splitWordChars bare_or ('"' :: part)).exists_first isBlank_mark
  refine ⟨stripQuotesChars (trimChars ('"' :: piece)), ?_, ?_⟩
  · rw [termsWithin, hparts, List.flatMap_cons, hpieces]
    simp
  · apply mark_mem_stripQuotesChars
    -- a blank follows the piece in the text, so the second mark is not in it
    obtain ⟨b, more, hb, hs⟩ : ∃ b more, isBlank b = true ∧ s ++ ['"'] = piece ++ b :: more := by
      rcases hpiece with ⟨rfl, hor⟩ | ⟨b, more, hb, rfl⟩
      · rcases hpart with ⟨rfl, hand⟩ | hpart
        · exact absurd ⟨hand, hor⟩ h
        · exact hpart
      · rcases hpart with ⟨hpart, -⟩ | ⟨b', more', hb', hpart⟩
        · exact ⟨b, more, hb, hpart.symm⟩
        · exact ⟨b, more ++ b' :: more', hb, by simp [hpart]⟩
    have hlast := List.dropLast_concat_getLast (List.cons_ne_nil b more)
    rw [← hlast, ← List.append_assoc] at hs
    obtain ⟨rfl, -⟩ := List.append_singleton_inj.mp hs
    exact fun hmem => hmark (List.mem_append_left _ hmem)

/-- With its marks on, a phrase has the terms that it has without them where there is nothing in it
to split and nothing to trim, and not otherwise. -/
theorem termsWithin_marked_eq_iff {s : List Char} (hmark : '"' ∉ s) :
    termsWithin (marked s) = termsWithin s ↔ IsUnsplit s ∧ trimChars s = s := by
  have hmarked : IsUnsplit s → termsWithin (marked s) = [s] := by
    intro hunsplit
    rw [termsWithin_of_isUnsplit (isUnsplit_marked_iff.mpr hunsplit), trimChars_marked,
      stripQuotesChars_marked hmark]
  have hplain : IsUnsplit s → termsWithin s = [trimChars s] := by
    intro hunsplit
    have hnot : '"' ∉ trimChars s := fun hmem => hmark (trimChars_subset s hmem)
    rw [termsWithin_of_isUnsplit hunsplit, stripQuotesChars_of_not_mem hnot]
  constructor
  · intro heq
    have hunsplit : IsUnsplit s := by
      by_contra hsplit
      obtain ⟨term, hterm, hmem⟩ :=
        exists_mark_mem_termsWithin hmark (isUnsplit_marked_iff.not.mpr hsplit)
      rw [heq] at hterm
      exact mark_not_mem_termsWithin hmark term hterm hmem
    rw [hmarked hunsplit, hplain hunsplit] at heq
    exact ⟨hunsplit, (List.cons.inj heq).1.symm⟩
  · rintro ⟨hunsplit, htrim⟩
    rw [hmarked hunsplit, hplain hunsplit, htrim]

/-! ### Two terms -/

/-- The terms of two texts with AND between them are those of the one and then those of the
other. -/
theorem termsWithin_append {s t : List Char} (hend : EndsBare s)
    (hword : ¬ EndsInWord "AND".toList s) (hstart : StartsBare t) :
    termsWithin (s ++ (spaced "AND".toList ++ t)) = termsWithin s ++ termsWithin t := by
  have hpieces := (pieces_splitWordChars bare_and s).append hend hword BlankRun.space
    BlankRun.space hstart (pieces_splitWordChars bare_and t)
  have hsplit : splitWordChars "AND".toList (s ++ (spaced "AND".toList ++ t)) =
      splitWordChars "AND".toList s ++ splitWordChars "AND".toList t := by
    rw [splitWordChars_eq_iff bare_and]
    simpa [spaced] using hpieces
  rw [termsWithin, hsplit, List.flatMap_append, List.map_append, termsWithin, termsWithin]

theorem termsWithin_of_isBareTerm {t : String} (h : IsBareTerm t) :
    termsWithin t.toList = [t.toList] := by
  have hunsplit : IsUnsplit t.toList :=
    ⟨fun hop => h.and_not_mem (hop.mem_words bare_and),
      fun hop => h.or_not_mem (hop.mem_words bare_or)⟩
  rw [termsWithin_of_isUnsplit hunsplit, h.trimChars_eq, stripQuotesChars_of_not_mem h.unquoted]

theorem splitTerms_eq {value : String} {inside : List Char}
    (h : stripQuotesChars (trimChars value.toList) = inside) :
    splitTerms value = (termsWithin inside).map String.ofList := by
  rw [splitTerms, splitTermsChars_eq, h]

theorem splitTerms_quote {s : String} (hs : '"' ∉ s.toList) :
    splitTerms (quote s) = (termsWithin s.toList).map String.ofList := by
  apply splitTerms_eq
  rw [toList_quote, trimChars_marked, stripQuotesChars_marked hs]

theorem splitTerms_of_isBareTerm {t : String} (ht : IsBareTerm t) : splitTerms t = [t] := by
  have hinside : stripQuotesChars (trimChars t.toList) = t.toList := by
    rw [ht.trimChars_eq, stripQuotesChars_of_not_mem ht.unquoted]
  rw [splitTerms_eq hinside, termsWithin_of_isBareTerm ht]
  simp

/-- The marks around a phrase stay on while a value is split that goes on behind it. -/
theorem splitTerms_quote_and {s t : String} (ht : IsBareTerm t) :
    splitTerms (quote s ++ " AND " ++ t) =
      (termsWithin (marked s.toList)).map String.ofList ++ [t] := by
  have hvalue : (quote s ++ " AND " ++ t).toList =
      marked s.toList ++ (spaced "AND".toList ++ t.toList) := by
    simp [quote, marked, spaced]
  have hend : EndsBare (marked s.toList ++ (spaced "AND".toList ++ t.toList)) := by
    rw [← List.append_assoc]
    exact ht.solid.endsBare.prepend ht.solid.ne_nil _
  have hstrip : stripQuotesChars (marked s.toList ++ (spaced "AND".toList ++ t.toList)) =
      marked s.toList ++ (spaced "AND".toList ++ t.toList) := by
    have hne : spaced "AND".toList ++ t.toList ≠ [] := by simp [spaced]
    simpa [marked] using stripQuotesChars_of_inner s.toList hne
  have hstart : StartsBare (marked s.toList ++ (spaced "AND".toList ++ t.toList)) :=
    startsBare_mark _
  have hinside : stripQuotesChars (trimChars (quote s ++ " AND " ++ t).toList) =
      marked s.toList ++ (spaced "AND".toList ++ t.toList) := by
    rw [hvalue, trimChars_of_bare hstart hend, hstrip]
  rw [splitTerms_eq hinside, termsWithin_append (endsBare_marked _) (not_endsInWord_marked _)
    ht.solid.startsBare, termsWithin_of_isBareTerm ht]
  simp

/-- They stay on as well while a value is split that has something in front of the phrase. -/
theorem splitTerms_and_quote {s t : String} (ht : IsBareTerm t) :
    splitTerms (t ++ " AND " ++ quote s) =
      t :: (termsWithin (marked s.toList)).map String.ofList := by
  have hvalue : (t ++ " AND " ++ quote s).toList =
      t.toList ++ (spaced "AND".toList ++ marked s.toList) := by
    simp [quote, marked, spaced]
  have hend : EndsBare (t.toList ++ (spaced "AND".toList ++ marked s.toList)) := by
    rw [← List.append_assoc]
    exact (endsBare_marked s.toList).prepend (List.cons_ne_nil _ _) _
  have hword : ¬ EndsInWord "AND".toList t.toList :=
    fun h => ht.and_not_mem (h.mem_words bare_and)
  obtain ⟨c, cs, hcs⟩ := List.exists_cons_of_ne_nil ht.solid.ne_nil
  have hstart : StartsBare (t.toList ++ (spaced "AND".toList ++ marked s.toList)) := by
    have hbare := ht.solid.startsBare
    rw [hcs] at hbare ⊢
    exact hbare
  have hhead : '"' ∉ (t.toList ++ (spaced "AND".toList ++ marked s.toList)).head? := by
    have hquote := ht.unquoted
    rw [hcs] at hquote ⊢
    simpa [eq_comm] using List.ne_of_not_mem_cons hquote
  have hinside : stripQuotesChars (trimChars (t ++ " AND " ++ quote s).toList) =
      t.toList ++ (spaced "AND".toList ++ marked s.toList) := by
    rw [hvalue, trimChars_of_bare hstart hend, stripQuotesChars_of_head hhead]
  rw [splitTerms_eq hinside, termsWithin_append ht.solid.endsBare hword (startsBare_marked _),
    termsWithin_of_isBareTerm ht]
  simp

/-- A phrase beside another term is read as it is alone where neither AND nor OR splits what stands
between its marks and no blank is at the ends of it, and not otherwise. -/
theorem splitTerms_phrase_beside_iff {s t : String} (hs : '"' ∉ s.toList) (ht : IsBareTerm t) :
    (splitTerms (quote s ++ " AND " ++ t) = splitTerms (quote s) ++ splitTerms t ↔
      IsUnsplit s.toList ∧ trim s = s) ∧
    (splitTerms (t ++ " AND " ++ quote s) = splitTerms t ++ splitTerms (quote s) ↔
      IsUnsplit s.toList ∧ trim s = s) := by
  have htrim : trimChars s.toList = s.toList ↔ trim s = s := by
    rw [trim, ← String.toList_inj, String.toList_ofList]
  have hsame : (termsWithin (marked s.toList)).map String.ofList =
      (termsWithin s.toList).map String.ofList ↔ IsUnsplit s.toList ∧ trim s = s := by
    rw [List.map_inj_right fun _ _ => String.ofList_inj.mp,
      termsWithin_marked_eq_iff hs, htrim]
  rw [splitTerms_quote_and ht, splitTerms_and_quote ht, splitTerms_quote hs,
    splitTerms_of_isBareTerm ht, List.append_cancel_right_eq, List.singleton_append,
    List.cons.injEq, hsame]
  simp

/-- A phrase of several words that are no operators. -/
theorem splitTerms_phrase_beside_boston :
    '"' ∉ "New York".toList ∧ IsBareTerm "Boston" ∧
      splitTerms (quote "New York" ++ " AND " ++ "Boston") =
        splitTerms (quote "New York") ++ splitTerms "Boston" ∧
      splitTerms ("Boston" ++ " AND " ++ quote "New York") =
        splitTerms "Boston" ++ splitTerms (quote "New York") := by
  have hboston : IsBareTerm "Boston" := ⟨by decide, by decide, by decide, by decide, by decide⟩
  have hand : "AND".toList ∉ words "New York".toList := by decide
  have hor : "OR".toList ∉ words "New York".toList := by decide
  have hunsplit : IsUnsplit "New York".toList :=
    ⟨fun hop => hand (hop.mem_words bare_and), fun hop => hor (hop.mem_words bare_or)⟩
  have hbeside := splitTerms_phrase_beside_iff (s := "New York") (by decide) hboston
  exact ⟨by decide, hboston, hbeside.1.mpr ⟨hunsplit, by decide⟩,
    hbeside.2.mpr ⟨hunsplit, by decide⟩⟩

/-- An operator in a phrase splits it on both ways of reading, but the marks come off on one only.
Blanks at the ends of a phrase are trimmed on that one only, too. -/
theorem phrase_read_otherwise_beside :
    '"' ∉ "cats AND dogs".toList ∧ trim "cats AND dogs" ≠ "" ∧ IsBareTerm "fish" ∧
      splitTerms (quote "cats AND dogs") = ["cats", "dogs"] ∧
      splitTerms (quote "cats AND dogs" ++ " AND " ++ "fish") = ["\"cats", "dogs\"", "fish"] ∧
      splitTerms (quote "cats AND dogs" ++ " AND " ++ "fish") ≠
        splitTerms (quote "cats AND dogs") ++ splitTerms "fish" ∧
      splitTerms ("fish" ++ " AND " ++ quote "cats AND dogs") ≠
        splitTerms "fish" ++ splitTerms (quote "cats AND dogs") ∧
      splitTerms (quote " cats " ++ " AND " ++ "fish") ≠
        splitTerms (quote " cats ") ++ splitTerms "fish" := by
  have hfish : IsBareTerm "fish" := ⟨by decide, by decide, by decide, by decide, by decide⟩
  exact ⟨by decide, by decide, hfish, by decide +kernel, by decide +kernel, by decide +kernel,
    by decide +kernel, by decide +kernel⟩

end ItemSearch.Query
