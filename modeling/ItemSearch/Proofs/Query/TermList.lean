import ItemSearch.Proofs.Query.Terms

/-!
Values that list terms, each of them bare or between quotation marks, with AND or OR from each to
the next. They are read back term by term, whichever way they are written. Between the occurrences
of AND a list falls into groups, and a quoted term is one piece as much as a bare one. There is one
list of which the quotation marks are taken off before it is split, that of one quoted term. A
longer list may begin and end with a mark, but it has another one inside.
-/

namespace ItemSearch.Query

open Text

/-- A text that shows a term: the term itself, or the term between quotation marks. -/
inductive Shows (term : List Char) : List Char → Prop where
  | bare : Shows term term
  | quoted : Shows term ('"' :: (term ++ ['"']))

/-- The terms one after the other, with AND or OR between blanks from each to the next. -/
inductive Lists : List Char → List (List Char) → Prop where
  | one {text term : List Char} (h : Shows term text) : Lists text [term]
  | cons {text term left word right rest : List Char} {terms : List (List Char)}
      (h : Shows term text) (hleft : BlankRun left)
      (hword : word = "AND".toList ∨ word = "OR".toList) (hright : BlankRun right)
      (hrest : Lists rest terms) :
      Lists (text ++ (left ++ (word ++ (right ++ rest)))) (term :: terms)

/-- The value lists the terms, with any blanks around the whole. -/
def IsTermList (value : String) (terms : List String) : Prop :=
  ∃ before text after, (∀ c ∈ before, isBlank c = true) ∧ (∀ c ∈ after, isBlank c = true) ∧
    value.toList = before ++ (text ++ after) ∧ Lists text (terms.map String.toList)

/-! ### Quotation marks -/

theorem isBlank_mark : isBlank '"' = false := by decide

theorem startsBare_mark (s : List Char) : StartsBare ('"' :: s) := by
  intro c hc
  obtain rfl : '"' = c := by simpa using hc
  exact isBlank_mark

theorem endsBare_mark (s : List Char) : EndsBare (s ++ ['"']) := by
  intro c hc
  obtain rfl : '"' = c := by simpa using hc
  exact isBlank_mark

theorem stripQuotesChars_of_head {s : List Char} (h : '"' ∉ s.head?) : stripQuotesChars s = s := by
  unfold stripQuotesChars
  split
  · exact absurd rfl h
  · rfl

theorem stripQuotesChars_quoted {s : List Char} (h : '"' ∉ s) :
    stripQuotesChars ('"' :: (s ++ ['"'])) = s := by
  simp [stripQuotesChars, h]

/-- Where a second mark is not the last character, none is taken off. -/
theorem stripQuotesChars_of_inner (s : List Char) {rest : List Char} (hrest : rest ≠ []) :
    stripQuotesChars ('"' :: (s ++ '"' :: rest)) = '"' :: (s ++ '"' :: rest) := by
  obtain ⟨init, last, rfl⟩ : ∃ init last, rest = init ++ [last] :=
    ⟨rest.dropLast, rest.getLast hrest, (List.dropLast_concat_getLast hrest).symm⟩
  have hreverse : (s ++ '"' :: (init ++ [last])).reverse =
      last :: (init.reverse ++ '"' :: s.reverse) := by simp
  simp only [stripQuotesChars, hreverse]
  by_cases hlast : last = '"'
  · subst hlast
    simp
  · split
    · next heq => exact absurd (List.cons.inj heq).1 hlast
    · rfl

/-! ### Pieces -/

/-- Quotation marks around a text do not make a word of what is none. -/
theorem not_mem_words_quoted {word s : List Char} (hword : Bare word) (hquote : '"' ∉ word)
    (h : word ∉ words s) : word ∉ words ('"' :: (s ++ ['"'])) := by
  intro hmem
  obtain ⟨before, after, heq, hbefore, hafter⟩ := (mem_words_iff hword).mp hmem
  cases before with
  | nil =>
      obtain ⟨w, ws, rfl⟩ := List.exists_cons_of_ne_nil hword.ne_nil
      obtain ⟨rfl, -⟩ := List.cons.inj heq
      exact hquote (List.mem_cons_self ..)
  | cons b before =>
      obtain rfl : '"' = b := (List.cons.inj heq).1
      have hrest : s ++ ['"'] = before ++ (word ++ after) := (List.cons.inj heq).2
      rcases List.eq_nil_or_concat after with rfl | ⟨init, last, rfl⟩
      · apply hquote
        apply List.mem_of_getLast?
        have hlast := congrArg List.getLast? hrest
        simpa [List.getLast?_append, List.getLast?_eq_some_getLast hword.ne_nil] using hlast.symm
      · rw [List.concat_eq_append, ← List.append_assoc word, ← List.append_assoc before] at hrest
        obtain ⟨hs, -⟩ := List.append_singleton_inj.mp hrest
        refine h ((mem_words_iff hword).mpr ⟨before, init, hs, ?_, ?_⟩)
        · intro a ha
          exact hbefore a (by simp_all [List.getLast?_cons])
        · intro a ha
          exact hafter a (by simp_all)

theorem Shows.isPiece {t : String} {text : List Char} (hshows : Shows t.toList text)
    (h : IsBareTerm t) : IsPiece text := by
  cases hshows with
  | bare => exact h.isPiece
  | quoted =>
      have hand := not_mem_words_quoted bare_and (by decide) h.and_not_mem
      have hor := not_mem_words_quoted bare_or (by decide) h.or_not_mem
      exact ⟨⟨by simp, startsBare_mark _, endsBare_mark ('"' :: t.toList)⟩, hand, hor⟩

theorem Shows.stripQuotesChars_eq {t : String} {text : List Char} (hshows : Shows t.toList text)
    (h : IsBareTerm t) : stripQuotesChars text = t.toList := by
  cases hshows with
  | bare => exact stripQuotesChars_of_not_mem h.unquoted
  | quoted => exact stripQuotesChars_quoted h.unquoted

/-- With an operator and another term behind it, no text is without marks that it begins with. -/
theorem Shows.stripQuotesChars_append {t : String} {text : List Char}
    (hshows : Shows t.toList text) (h : IsBareTerm t) {rest : List Char} (hrest : rest ≠ []) :
    stripQuotesChars (text ++ rest) = text ++ rest := by
  cases hshows with
  | bare =>
      obtain ⟨c, cs, hcs⟩ := List.exists_cons_of_ne_nil h.solid.ne_nil
      apply stripQuotesChars_of_head
      have hquote := h.unquoted
      rw [hcs] at hquote ⊢
      rintro hhead
      obtain rfl : c = '"' := by simpa using hhead
      simp at hquote
  | quoted =>
      rw [List.cons_append, List.append_assoc, List.singleton_append]
      exact stripQuotesChars_of_inner t.toList hrest

/-! ### Groups -/

/-- The terms between two occurrences of AND are a group. -/
theorem Lists.exists_groups {text : List Char} {terms : List (List Char)} (h : Lists text terms) :
    ∃ texts groups, Joined "AND".toList text texts ∧
      List.Forall₂ (Joined "OR".toList) texts groups ∧
      List.Forall₂ Shows terms groups.flatten := by
  induction h with
  | @one text term h => exact ⟨[text], [[text]], .one _, .cons (.one _) .nil, .cons h .nil⟩
  | @cons text term left word right rest terms h hleft hword hright _ ih =>
      obtain ⟨texts, groups, hjoined, hgroups, hshows⟩ := ih
      rcases hword with rfl | rfl
      · exact ⟨text :: texts, [text] :: groups, .cons text hleft hright hjoined,
          .cons (.one _) hgroups, .cons h hshows⟩
      · -- the term goes into the first group of the rest
        cases hgroups with
        | nil => cases hjoined
        | @cons first group texts groups hfirst hgroups =>
            refine ⟨(text ++ (left ++ ("OR".toList ++ (right ++ first)))) :: texts,
              (text :: group) :: groups, ?_, .cons (.cons text hleft hright hfirst) hgroups,
              .cons h hshows⟩
            simpa using hjoined.prepend (text ++ (left ++ ("OR".toList ++ right)))

theorem pieces_of_shows {terms : List String} {pieces : List (List Char)}
    (h : List.Forall₂ Shows (terms.map String.toList) pieces)
    (hterms : ∀ t ∈ terms, IsBareTerm t) :
    (∀ piece ∈ pieces, IsPiece piece) ∧
      pieces.map stripQuotesChars = terms.map String.toList := by
  rw [List.forall₂_map_left_iff] at h
  induction h with
  | nil => simp
  | cons hpiece _ ih =>
      rw [List.forall_mem_cons] at hterms
      obtain ⟨hrest, hstrip⟩ := ih hterms.2
      refine ⟨List.forall_mem_cons.mpr ⟨hpiece.isPiece hterms.1, hrest⟩, ?_⟩
      rw [List.map_cons, hpiece.stripQuotesChars_eq hterms.1, hstrip, List.map_cons]

/-! ### Reading a list -/

theorem Lists.solid {text : List Char} {terms : List String}
    (h : Lists text (terms.map String.toList)) (hterms : ∀ t ∈ terms, IsBareTerm t) :
    Solid text := by
  obtain ⟨texts, groups, hjoined, hgroups, hshows⟩ := h.exists_groups
  obtain ⟨hpieces, -⟩ := pieces_of_shows hshows hterms
  exact hjoined.solid
    (Joined.forall_mem_of_groups hgroups Joined.solid fun piece hmem => (hpieces piece hmem).solid)

/-- The marks around the whole are taken off before the splitting only where there is one term. -/
theorem Lists.stripQuotesChars_cases {text : List Char} {terms : List String}
    (h : Lists text (terms.map String.toList)) (hterms : ∀ t ∈ terms, IsBareTerm t) :
    stripQuotesChars text = text ∨ ∃ t, terms = [t] ∧ stripQuotesChars text = t.toList := by
  generalize hall : terms.map String.toList = all at h
  cases h with
  | one h =>
      obtain ⟨t, rfl, rfl⟩ := List.map_eq_singleton_iff.mp hall
      exact Or.inr ⟨t, rfl, h.stripQuotesChars_eq (hterms t (List.mem_singleton_self t))⟩
  | cons h hleft _ _ _ =>
      obtain ⟨t, rest, rfl, rfl, -⟩ := List.map_eq_cons_iff.mp hall
      have ht := hterms t (List.mem_cons_self ..)
      exact Or.inl (h.stripQuotesChars_append ht (by simp [hleft.ne_nil]))

/-- The terms of a list are read back in their order, bare or quoted, with AND or OR between them
and however many blanks around them. -/
theorem splitTerms_of_isTermList {value : String} {terms : List String}
    (h : IsTermList value terms) (hterms : ∀ t ∈ terms, IsBareTerm t) :
    splitTerms value = terms := by
  obtain ⟨before, text, after, hbefore, hafter, hvalue, hlists⟩ := h
  have htrim : trimChars value.toList = text := by
    rw [hvalue]
    exact (hlists.solid hterms).trimChars_eq hbefore hafter
  have hchars : splitTermsChars value.toList = terms.map String.toList := by
    rcases hlists.stripQuotesChars_cases hterms with hsame | ⟨t, rfl, hone⟩
    · obtain ⟨texts, groups, hjoined, hgroups, hshows⟩ := hlists.exists_groups
      obtain ⟨hpieces, hstrip⟩ := pieces_of_shows hshows hterms
      have hinside : stripQuotesChars (trimChars value.toList) = text := by rw [htrim, hsame]
      rw [splitTermsChars_eq, hinside, termsWithin_of_groups hjoined hgroups hpieces, hstrip]
    · -- one term, of which the marks are off already
      have ht := hterms t (List.mem_singleton_self t)
      have hinside : stripQuotesChars (trimChars value.toList) = t.toList := by rw [htrim, hone]
      rw [splitTermsChars_eq, hinside, termsWithin_of_groups (.one _) (.cons (.one _) .nil)
        (by simpa using ht.isPiece)]
      simpa using stripQuotesChars_of_not_mem ht.unquoted
  rw [splitTerms, hchars, List.map_map]
  simp [Function.comp_def]

/-- A list that begins and ends with a quotation mark, and mixes the operators and the blanks. -/
theorem splitTerms_of_three_terms :
    IsTermList " \"cats\" OR  big dogs AND\t\"fish\"" ["cats", "big dogs", "fish"] ∧
      (∀ t ∈ ["cats", "big dogs", "fish"], IsBareTerm t) ∧
      splitTerms " \"cats\" OR  big dogs AND\t\"fish\"" = ["cats", "big dogs", "fish"] := by
  have hblanks : BlankRun [' ', ' '] := ⟨by simp, by simp⟩
  have hblank : isBlank '\t' = true := by decide
  have htab : BlankRun ['\t'] := ⟨by simp, by simpa using hblank⟩
  have hlists : Lists "\"cats\" OR  big dogs AND\t\"fish\"".toList
      (["cats", "big dogs", "fish"].map String.toList) :=
    .cons (@Shows.quoted "cats".toList) .space (.inr rfl) hblanks
      (.cons (@Shows.bare "big dogs".toList) .space (.inl rfl) htab
        (.one (@Shows.quoted "fish".toList)))
  have hlist : IsTermList " \"cats\" OR  big dogs AND\t\"fish\"" ["cats", "big dogs", "fish"] :=
    ⟨[' '], _, [], by simp, by simp, by decide, hlists⟩
  have hterms : ∀ t ∈ ["cats", "big dogs", "fish"], IsBareTerm t := by
    have hcats : IsBareTerm "cats" :=
      ⟨by decide, by decide, by decide, by decide, by decide⟩
    have hdogs : IsBareTerm "big dogs" :=
      ⟨by decide, by decide, by decide, by decide, by decide⟩
    have hfish : IsBareTerm "fish" :=
      ⟨by decide, by decide, by decide, by decide, by decide⟩
    simp [hcats, hdogs, hfish]
  exact ⟨hlist, hterms, splitTerms_of_isTermList hlist hterms⟩

end ItemSearch.Query
