import ItemSearch.Url.Basic

/-!
Whether a text is a URL is left to a parser of URLs, which is a parameter of the rules. All that is
taken for granted of it is that it passes over spaces and control characters at the ends of a text,
and that what it accepts begins, behind those, with the letter of a scheme.
-/

namespace ItemSearch.Url

/-- A parser of URLs, as far as it accepts a text or not. -/
structure Check where
  accepts : List Char → Bool
  accepts_between {before after : List Char}
    (hbefore : ∀ c ∈ before, isControlOrSpace c = true)
    (hafter : ∀ c ∈ after, isControlOrSpace c = true) (s : List Char) :
    accepts (before ++ (s ++ after)) = accepts s
  letter_of_accepts {s : List Char} (h : accepts s = true) :
    (s.dropWhile isControlOrSpace).head?.any isLetter = true

/-! ### Trimming -/

theorem dropRight_append_of_pos {p : Char → Bool} {after : List Char}
    (h : ∀ c ∈ after, p c = true) (s : List Char) :
    Text.dropRight p (s ++ after) = Text.dropRight p s := by
  rw [Text.dropRight, List.reverse_append,
    List.dropWhile_append_of_pos fun c hc => h c (List.mem_reverse.mp hc), Text.dropRight]

/-- What is passed over at the ends of a text makes no difference to what is left of it. -/
theorem trimmed_between {before after : List Char}
    (hbefore : ∀ c ∈ before, isControlOrSpace c = true)
    (hafter : ∀ c ∈ after, isControlOrSpace c = true) (s : List Char) :
    trimmed (before ++ (s ++ after)) = trimmed s := by
  rw [trimmed, List.dropWhile_append_of_pos hbefore, List.dropWhile_append]
  split
  · next hempty =>
      have hrest : after.dropWhile isControlOrSpace = [] := by
        rw [← List.append_nil after, List.dropWhile_append_of_pos hafter, List.dropWhile_nil]
      rw [hrest, trimmed, List.isEmpty_iff.mp hempty]
  · rw [dropRight_append_of_pos hafter, trimmed]

/-- Without its end, a text begins as it did. -/
theorem head?_of_head?_dropRight {p : Char → Bool} {s : List Char} {c : Char}
    (h : (Text.dropRight p s).head? = some c) : s.head? = some c := by
  have hs : s = Text.dropRight p s ++ (s.reverse.takeWhile p).reverse := by
    rw [Text.dropRight, ← List.reverse_append, List.takeWhile_append_dropWhile,
      List.reverse_reverse]
  rw [hs, List.head?_append, h]
  rfl

/-- The check that looks at a trimmed text if that begins with a letter. -/
def Check.ofTrimmed (accepts : List Char → Bool) : Check where
  accepts s := (trimmed s).head?.any isLetter && accepts (trimmed s)
  accepts_between hbefore hafter s := by rw [trimmed_between hbefore hafter]
  letter_of_accepts := by
    intro s h
    rw [Bool.and_eq_true, Option.any_eq_true] at h
    obtain ⟨⟨c, hhead, hletter⟩, -⟩ := h
    rw [head?_of_head?_dropRight hhead]
    exact hletter

end ItemSearch.Url
