/-!
Cutting a text at a character: at its first occurrence (`cut?`) or at all of them (`splitOn`).
Joining the pieces of `splitOn` with the character gives the text back.
-/

namespace ItemSearch.Text

/-- What stands before and after the first `sep`, or `none` if there is none. -/
def cutChars? (sep : Char) : List Char → Option (List Char × List Char)
  | [] => none
  | c :: rest =>
    if c = sep then some ([], rest)
    else (cutChars? sep rest).map fun p => (c :: p.1, p.2)

/-- Puts a character in front of the first piece. -/
def consHead (c : Char) : List (List Char) → List (List Char)
  | [] => [[c]]
  | piece :: rest => (c :: piece) :: rest

/-- The pieces between the occurrences of `sep`, empty ones included: one more than there are
separators. -/
def splitChars (sep : Char) : List Char → List (List Char)
  | [] => [[]]
  | c :: rest => if c = sep then [] :: splitChars sep rest else consHead c (splitChars sep rest)

def cut? (sep : Char) (s : String) : Option (String × String) :=
  (cutChars? sep s.toList).map fun p => (String.ofList p.1, String.ofList p.2)

def splitOn (sep : Char) (s : String) : List String :=
  (splitChars sep s.toList).map String.ofList

/-- The pieces one after the other with `sep` between them. -/
def joinChars (sep : List Char) : List (List Char) → List Char
  | [] => []
  | [piece] => piece
  | piece :: rest => piece ++ sep ++ joinChars sep rest

def join (sep : String) (pieces : List String) : String :=
  String.ofList (joinChars sep.toList (pieces.map String.toList))

/-- What stands before the first `sep`: the whole text if there is none. -/
def before (sep : Char) (s : String) : String := ((cut? sep s).map Prod.fst).getD s

/-- What stands after the first `sep`: nothing if there is none. -/
def after (sep : Char) (s : String) : String := ((cut? sep s).map Prod.snd).getD ""

/-- What stands after the last `sep`: the whole text if there is none. -/
def lastPiece (sep : Char) (s : String) : String := (splitOn sep s).getLast?.getD s

/-- Whether the word occurs anywhere in the text. -/
def occurs (word : List Char) : List Char → Bool
  | [] => word.isEmpty
  | c :: rest => word.isPrefixOf (c :: rest) || occurs word rest

theorem splitChars_ne_nil (sep : Char) (s : List Char) : splitChars sep s ≠ [] := by
  induction s with
  | nil => simp [splitChars]
  | cons c rest ih =>
    by_cases h : c = sep
    · simp [splitChars, h]
    · cases hs : splitChars sep rest with
      | nil => exact absurd hs ih
      | cons p ps => simp [splitChars, h, hs, consHead]

theorem joinChars_splitChars (sep : Char) (s : List Char) :
    joinChars [sep] (splitChars sep s) = s := by
  induction s with
  | nil => rfl
  | cons c rest ih =>
    cases hs : splitChars sep rest with
    | nil => exact absurd hs (splitChars_ne_nil sep rest)
    | cons p ps =>
      rw [hs] at ih
      by_cases h : c = sep
      · subst h
        simp [splitChars, hs, joinChars, ih]
      · cases ps with
        | nil => simp_all [splitChars, consHead, joinChars]
        | cons q qs => simp_all [splitChars, consHead, joinChars]

theorem cutChars?_eq_some {sep : Char} {s a b : List Char} (h : cutChars? sep s = some (a, b)) :
    s = a ++ sep :: b ∧ sep ∉ a := by
  induction s generalizing a b with
  | nil => simp [cutChars?] at h
  | cons c rest ih =>
    by_cases hc : c = sep
    · simp [cutChars?, hc] at h
      obtain ⟨rfl, rfl⟩ := h
      simp [hc]
    · cases hr : cutChars? sep rest with
      | none => simp [cutChars?, hc, hr] at h
      | some p =>
        obtain ⟨x, y⟩ := p
        simp [cutChars?, hc, hr] at h
        obtain ⟨rfl, rfl⟩ := h
        obtain ⟨hs, hn⟩ := ih hr
        refine ⟨by simp [hs], ?_⟩
        simp only [List.mem_cons, not_or]
        exact ⟨fun e => hc e.symm, hn⟩

end ItemSearch.Text
