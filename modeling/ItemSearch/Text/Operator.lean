import ItemSearch.Text.Blank
import ItemSearch.Text.Split

/-!
Splitting a text at a word that stands between blanks, such as the AND of `cats AND dogs`. The
blanks around the word belong to it, so they are in no piece. Occurrences are taken from the left
and do not share blanks: in `a AND AND b` only the first AND splits.
-/

namespace ItemSearch.Text

/-- The rest of a text that begins with `word`. -/
def dropWord? : (word s : List Char) → Option (List Char)
  | [], s => some s
  | _ :: _, [] => none
  | w :: ws, c :: cs => if w = c then dropWord? ws cs else none

/-- If the text begins with blanks, `word` and blanks again: what follows them. -/
def operator? (word : List Char) : List Char → Option (List Char)
  | [] => none
  | c :: cs =>
    if isBlank c then
      match dropWord? word (cs.dropWhile isBlank) with
      | some (d :: ds) => if isBlank d then some (ds.dropWhile isBlank) else none
      | _ => none
    else none

theorem dropWord?_length {word s rest : List Char} (h : dropWord? word s = some rest) :
    rest.length ≤ s.length := by
  induction word generalizing s with
  | nil => simp [dropWord?] at h; simp [h]
  | cons w ws ih =>
    cases s with
    | nil => simp [dropWord?] at h
    | cons c cs =>
      by_cases hw : w = c
      · simp [dropWord?, hw] at h
        have := ih h
        simp only [List.length_cons]; omega
      · simp [dropWord?, hw] at h

theorem length_dropWhile_le (p : Char → Bool) (s : List Char) :
    (s.dropWhile p).length ≤ s.length :=
  (List.dropWhile_suffix p).length_le

theorem operator?_length {word s rest : List Char} (h : operator? word s = some rest) :
    rest.length < s.length := by
  cases s with
  | nil => simp [operator?] at h
  | cons c cs =>
    simp only [operator?] at h
    split at h
    · split at h
      · next d ds hd =>
        split at h
        · simp only [Option.some.injEq] at h
          have h1 := dropWord?_length hd
          have h2 := length_dropWhile_le isBlank cs
          have h3 := length_dropWhile_le isBlank ds
          simp only [List.length_cons] at h1 ⊢
          rw [← h]; omega
        · simp at h
      · simp at h
    · simp at h

/-- The pieces between the occurrences of `word` that stand between blanks. -/
def splitWordChars (word : List Char) : List Char → List (List Char)
  | [] => [[]]
  | c :: cs =>
    match _h : operator? word (c :: cs) with
    | some rest => [] :: splitWordChars word rest
    | none => consHead c (splitWordChars word cs)
termination_by s => s.length
decreasing_by
  · exact operator?_length _h
  · simp

def splitWord (word s : String) : List String :=
  (splitWordChars word.toList s.toList).map String.ofList

theorem splitWordChars_ne_nil (word s : List Char) : splitWordChars word s ≠ [] := by
  fun_induction splitWordChars word s with
  | case1 => simp
  | case2 => simp
  | case3 c cs _ ih =>
    cases hs : splitWordChars word cs with
    | nil => exact absurd hs ih
    | cons p ps => simp [consHead]

end ItemSearch.Text
