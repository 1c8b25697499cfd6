import ItemSearch.Text.Operator

/-!
The terms of an exact-match value. A value is split at AND, each part at OR, and quotation marks
around the whole or around a term are taken off.
-/

namespace ItemSearch.Query

open Text

/-- Takes off a pair of quotation marks around a text that has no other. -/
def stripQuotesChars : List Char → List Char
  | '"' :: rest =>
    match rest.reverse with
    | '"' :: inner => if '"' ∈ inner then '"' :: rest else inner.reverse
    | _ => '"' :: rest
  | s => s

def stripQuotes (s : String) : String := String.ofList (stripQuotesChars s.toList)

def splitTermsChars (s : List Char) : List (List Char) :=
  (splitWordChars "AND".toList (stripQuotesChars (trimChars s))).flatMap fun part =>
    (splitWordChars "OR".toList part).map fun term => stripQuotesChars (trimChars term)

/-- The terms that an exact-match value asks for. -/
def splitTerms (s : String) : List String := (splitTermsChars s.toList).map String.ofList

end ItemSearch.Query
