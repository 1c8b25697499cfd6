import ItemSearch.Text.Digit

/-!
Signed decimal numerals in the digits of any script, mixed as they come: an optional sign and at
least one digit. A numeral of more than `maxDigits` digits, leading zeros counted, is well formed
but is not converted (`Numeral.tooLong`).
-/

namespace ItemSearch.Text

/-- The values of the characters if all of them are decimal digits. -/
def digitValues? (s : List Char) : Option (List Nat) := s.mapM digitValue?

/-- The number that a list of digits denotes, the most significant first. -/
def ofDigits (ds : List Nat) : Nat := ds.foldl (fun n d => 10 * n + d) 0

inductive Numeral where
  /-- no numeral at all -/
  | malformed
  /-- a numeral of this many digits, which are too many to convert -/
  | tooLong (digits : Nat)
  | value (n : Int)
  deriving DecidableEq, Repr

/-- How many digits are converted at most. -/
def maxDigits : Nat := 4300

/-- The sign of a numeral and what follows it. -/
def splitSign : List Char → Bool × List Char
  | '-' :: rest => (true, rest)
  | '+' :: rest => (false, rest)
  | s => (false, s)

def readNumeralChars (s : List Char) : Numeral :=
  let (negative, body) := splitSign s
  match digitValues? body with
  | none | some [] => .malformed
  | some ds =>
    if maxDigits < ds.length then .tooLong ds.length
    else .value (if negative then -(ofDigits ds : Int) else ofDigits ds)

def readNumeral (s : String) : Numeral := readNumeralChars s.toList

end ItemSearch.Text
