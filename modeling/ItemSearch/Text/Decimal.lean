import ItemSearch.Text.Numeral

/-!
Decimal notation of integers, without leading zeros. Reading a written integer gives it back as
long as it has at most `maxDigits` digits, and an integer of more digits is not written either.
-/

namespace ItemSearch.Text

/-- The decimal digits of a number, the most significant first. -/
def decimalDigits (n : Nat) : List Nat :=
  if n < 10 then [n] else decimalDigits (n / 10) ++ [n % 10]
termination_by n
decreasing_by omega

def digitChar (d : Nat) : Char := Char.ofNat (48 + d)

def natDecimalChars (n : Nat) : List Char := (decimalDigits n).map digitChar

def decimalChars (n : Int) : List Char :=
  if n < 0 then '-' :: natDecimalChars n.natAbs else natDecimalChars n.natAbs

/-- An integer in decimal notation. -/
def decimal (n : Int) : String := String.ofList (decimalChars n)

theorem ofDigits_append (xs : List Nat) (d : Nat) :
    ofDigits (xs ++ [d]) = 10 * ofDigits xs + d := by
  simp [ofDigits]

@[simp] theorem ofDigits_decimalDigits (n : Nat) : ofDigits (decimalDigits n) = n := by
  fun_induction decimalDigits n with
  | case1 n h => simp [ofDigits]
  | case2 n h ih => rw [ofDigits_append, ih]; omega

theorem decimalDigits_lt_ten (n : Nat) : ∀ d ∈ decimalDigits n, d < 10 := by
  fun_induction decimalDigits n with
  | case1 n h => simp [h]
  | case2 n h ih =>
    intro d hd
    rcases List.mem_append.mp hd with hd | hd
    · exact ih d hd
    · simp only [List.mem_singleton] at hd
      omega

theorem decimalDigits_ne_nil (n : Nat) : decimalDigits n ≠ [] := by
  rw [decimalDigits]
  split <;> simp

/-! ### Too many digits -/

/-- A conversion between integers and numerals that is not made, for there are too many digits. -/
inductive TooManyDigits where
  /-- a numeral of this many digits is read -/
  | read (digits : Nat)
  /-- an integer is written -/
  | written
  deriving DecidableEq, Repr

def TooManyDigits.message : TooManyDigits → String
  | .read digits =>
    "Exceeds the limit (" ++ decimal maxDigits ++
      " digits) for integer string conversion: value has " ++ decimal digits ++
      " digits; use sys.set_int_max_str_digits() to increase the limit"
  | .written =>
    "Exceeds the limit (" ++ decimal maxDigits ++
      " digits) for integer string conversion; use sys.set_int_max_str_digits() to increase " ++
      "the limit"

/-- Whether so many digits are enough for a number. The digits are counted off from the last one. -/
def fitsDigits : (most n : Nat) → Bool
  | 0, _ => false
  | most + 1, n => n < 10 || fitsDigits most (n / 10)

theorem fitsDigits_iff {most n : Nat} :
    fitsDigits most n = true ↔ (decimalDigits n).length ≤ most := by
  induction most generalizing n with
  | zero =>
    rw [Nat.le_zero, List.length_eq_zero_iff]
    exact ⟨fun h => Bool.noConfusion h, fun h => absurd h (decimalDigits_ne_nil n)⟩
  | succ most ih =>
    rw [fitsDigits, decimalDigits]
    split
    · next h => simp [h]
    · next h => simp [h, ih]

/-- An integer that is written: it has at most `maxDigits` digits. -/
def IsWritable (n : Int) : Prop := (decimalDigits n.natAbs).length ≤ maxDigits

instance (n : Int) : Decidable (IsWritable n) :=
  decidable_of_iff (fitsDigits maxDigits n.natAbs = true) fitsDigits_iff

end ItemSearch.Text
