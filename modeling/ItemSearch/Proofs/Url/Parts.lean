import ItemSearch.Proofs.Text.Operator
import ItemSearch.Proofs.Text.Split
import ItemSearch.Url.Check

/-!
The outer parts of a URL. The user is cut off at the last `@`, and a scheme begins with a letter. So
what a parser of URLs accepts does not begin with a quotation mark, and the blanks in front of it
are those that the parser passes over. Of the blanks behind it this need not hold: there are blanks
beyond ASCII, which are part of the URL. A URL that has none of those at its end is accepted without
the blanks around it.
-/

namespace ItemSearch.Url

open Text

/-! ### Users -/

theorem cutUser_append {user place : List Char} (h : '@' ∉ place) :
    cutUser (user ++ '@' :: place) = (some user, place) := by
  have hreverse : '@' ∉ place.reverse := by simpa using h
  have hcut : cutChars? '@' (user ++ '@' :: place).reverse =
      some (place.reverse, user.reverse) := by
    rw [← cutChars?_append hreverse]
    simp
  rw [cutUser, hcut]
  simp

theorem cutUser_of_not_mem {authority : List Char} (h : '@' ∉ authority) :
    cutUser authority = (none, authority) := by
  have hcut : cutChars? '@' authority.reverse = none := cutChars?_eq_none_iff.mpr (by simpa using h)
  simp [cutUser, hcut]

/-! ### Letters -/

theorem toNat_of_isLetter {c : Char} (h : isLetter c = true) :
    (0x61 ≤ c.toNat ∧ c.toNat ≤ 0x7A) ∨ (0x41 ≤ c.toNat ∧ c.toNat ≤ 0x5A) := by
  simpa [isLetter, Char.le_def, UInt32.le_iff_toNat_le] using h

theorem isControlOrSpace_of_isLetter {c : Char} (h : isLetter c = true) :
    isControlOrSpace c = false := by
  have hrange := toNat_of_isLetter h
  rw [isControlOrSpace, decide_eq_false_iff_not]
  omega

theorem isBlank_of_isLetter {c : Char} (h : isLetter c = true) : isBlank c = false := by
  have hrange := toNat_of_isLetter h
  simp only [isBlank, inRanges, blankRanges, List.any_cons, List.any_nil, Bool.or_false,
    Bool.or_eq_false_iff, Bool.and_eq_false_iff, decide_eq_false_iff_not]
  omega

/-! ### The ends of what is accepted -/

namespace Check

variable {check : Check} {s : List Char}

/-- What is accepted begins with a letter, behind what is passed over. -/
theorem exists_letter_of_accepts (h : check.accepts s = true) :
    ∃ run c rest, (∀ b ∈ run, isControlOrSpace b = true) ∧ isLetter c = true ∧
      s = run ++ c :: rest := by
  obtain ⟨c, hhead, hc⟩ := (Option.any_eq_true _ _).mp (check.letter_of_accepts h)
  obtain ⟨rest, hrest⟩ := List.head?_eq_some_iff.mp hhead
  refine ⟨s.takeWhile isControlOrSpace, c, rest, List.all_eq_true.mp List.all_takeWhile, hc, ?_⟩
  rw [← hrest, List.takeWhile_append_dropWhile]

theorem not_accepts_nil : check.accepts [] = false := by
  rw [Bool.eq_false_iff]
  intro h
  obtain ⟨run, c, rest, -, -, hnil⟩ := exists_letter_of_accepts h
  exact absurd hnil.symm (List.append_ne_nil_of_right_ne_nil run (List.cons_ne_nil c rest))

/-- The letter is no blank, so the blanks in front of it are passed over, and what is behind them is
passed over as well or is the letter. -/
theorem passedOver_of_accepts {before t : List Char} (h : check.accepts (before ++ t) = true)
    (hbefore : ∀ c ∈ before, isBlank c = true) :
    (∀ c ∈ before, isControlOrSpace c = true) ∧
      ∀ c ∈ t.head?, isControlOrSpace c = true ∨ isLetter c = true := by
  obtain ⟨run, c, rest, hrun, hc, hsplit⟩ := exists_letter_of_accepts h
  rcases List.append_eq_append_iff.mp hsplit with ⟨more, rfl, rfl⟩ | ⟨more, rfl, hmore⟩
  · rw [List.forall_mem_append] at hrun
    refine ⟨hrun.1, ?_⟩
    cases more with
    | nil => simp [hc]
    | cons d more => simp [hrun.2 d (List.mem_cons_self ..)]
  · cases more with
    | nil =>
        rw [List.nil_append] at hmore
        rw [List.append_nil, ← hmore]
        exact ⟨hrun, by simp [hc]⟩
    | cons d more =>
        obtain ⟨rfl, -⟩ := List.cons.inj hmore
        have hblank := hbefore c (by simp)
        rw [isBlank_of_isLetter hc] at hblank
        exact Bool.noConfusion hblank

/-- What is between the blanks around a URL does not begin with a quotation mark. -/
theorem mark_not_mem_head?_trimChars (h : check.accepts s = true) : '"' ∉ (trimChars s).head? := by
  obtain ⟨before, after, hbefore, -, hs⟩ := exists_blanks_around s
  rw [hs] at h
  intro hmark
  have hhead : '"' ∈ (trimChars s ++ after).head? := by
    rw [List.head?_append, Option.mem_def.mp hmark]
    rfl
  rcases (passedOver_of_accepts h hbefore).2 '"' hhead with hcontrol | hletter
  · exact absurd hcontrol (by decide)
  · exact absurd hletter (by decide)

end Check

/-- The blanks at the end of the text are spaces and control characters of ASCII. -/
def EndsPlain (s : List Char) : Prop := ∀ c ∈ s.reverse.takeWhile isBlank, isControlOrSpace c = true

instance (s : List Char) : Decidable (EndsPlain s) := List.decidableBAll _ _

theorem EndsPlain.of_append {s after : List Char} (h : EndsPlain (s ++ after))
    (hafter : ∀ c ∈ after, isBlank c = true) : ∀ c ∈ after, isControlOrSpace c = true := by
  intro c hc
  apply h
  rw [List.reverse_append, List.takeWhile_append_of_pos fun d hd => hafter d (by simpa using hd)]
  exact List.mem_append_left _ (List.mem_reverse.mpr hc)

/-- A URL that ends plainly stays one without the blanks around it. -/
theorem Check.accepts_trimChars {check : Check} {s : List Char} (h : check.accepts s = true)
    (hplain : EndsPlain s) : check.accepts (trimChars s) = true := by
  obtain ⟨before, after, hbefore, hafter, hs⟩ := exists_blanks_around s
  rw [hs] at h hplain
  rw [← List.append_assoc] at hplain
  have hfront := (passedOver_of_accepts h hbefore).1
  rwa [check.accepts_between hfront (hplain.of_append hafter)] at h

/-- A check that knows few URLs: those of one host, those under one prefix of another scheme, and
one whose host is a blank. -/
def Check.sample : Check := Check.ofTrimmed fun s =>
  "http://dp.la/".toList.isPrefixOf s || "ark:/12148/".toList.isPrefixOf s ||
    s = "foo://u@\u3000".toList

end ItemSearch.Url
