import ItemSearch.Proofs.Validation.Rule
import Mathlib.Data.Nat.Digits.Defs

/-!
Rules for integers go by the value of a numeral and not by its spelling. `SpelledIn` says what a
text spells: its digits, from whatever scripts they are, come at base ten to the magnitude, and a
minus in front of them makes it negative. An integer has many spellings, with a plus, with zeros in
front, or in other digits. Of those that are short enough to be converted the rule tells none from
another, and the notation that the integer is written back in is one of them.
-/

namespace ItemSearch

namespace Text

/-- The text is an optional sign and so many digits, and the integer is what they denote. -/
def SpelledIn (digits : Nat) (s : String) (n : Int) : Prop :=
  ∃ negative ds, Signed ds negative s.toList ∧ ds.length = digits ∧
    n = (if negative then -1 else 1) * ((Nat.ofDigits 10 ds.reverse : Nat) : Int)

/-- Digits that are taken in from the left come to their value at base ten. -/
theorem ofDigits_eq_ofDigits_reverse (ds : List Nat) :
    ofDigits ds = Nat.ofDigits 10 ds.reverse := by
  induction ds using List.reverseRecOn with
  | nil => rfl
  | append_singleton ds d ih =>
      rw [ofDigits_append, List.reverse_concat, Nat.ofDigits_cons, ih, Nat.add_comm]

theorem signedValue_eq (negative : Bool) (ds : List Nat) :
    signedValue negative ds =
      (if negative then -1 else 1) * ((Nat.ofDigits 10 ds.reverse : Nat) : Int) := by
  rw [signedValue, ofDigits_eq_ofDigits_reverse]
  cases negative with
  | false => rw [if_neg Bool.false_ne_true, if_neg Bool.false_ne_true, one_mul]
  | true => rw [if_pos rfl, if_pos rfl, neg_one_mul]

theorem isNumeral_iff_spelledIn {s : String} {n : Int} :
    IsNumeral s n ↔ ∃ digits ≤ maxDigits, SpelledIn digits s n := by
  constructor
  · rintro ⟨negative, ds, hs, hlen, rfl⟩
    exact ⟨ds.length, hlen, negative, ds, hs, rfl, signedValue_eq negative ds⟩
  · rintro ⟨_, hlen, negative, ds, hs, rfl, rfl⟩
    exact ⟨negative, ds, hs, hlen, (signedValue_eq negative ds).symm⟩

/-- Decimal notation is a spelling. -/
theorem spelledIn_decimal (n : Int) : SpelledIn (decimalDigits n.natAbs).length (decimal n) n := by
  refine ⟨decide (n < 0), decimalDigits n.natAbs, signed_decimal n, rfl, ?_⟩
  rw [← signedValue_eq, signedValue_decimalDigits]

end Text

namespace Rule

open Text (SpelledIn maxDigits decimal decimalDigits)

variable {s : String} {n : Int}

theorem integer_of_isNumeral {least greatest : Int}
    (hwritten : Text.IsWritable least ∧ Text.IsWritable greatest) (h : Text.IsNumeral s n)
    (param : String) :
    integer least greatest param s =
      if least ≤ n ∧ n ≤ greatest then .ok n else refuse (.integerRange param least greatest) := by
  rw [integer_of_written hwritten, Text.readNumeral_eq_value_iff.mpr h]

theorem integer_eq_ok_iff_spelledIn {least greatest : Int}
    (hwritten : Text.IsWritable least ∧ Text.IsWritable greatest) {param : String} :
    integer least greatest param s = .ok n ↔
      (∃ digits ≤ maxDigits, SpelledIn digits s n) ∧ least ≤ n ∧ n ≤ greatest := by
  rw [integer_eq_ok_iff, ← Text.isNumeral_iff_spelledIn]
  exact ⟨fun h => ⟨h.numeral, h.bounds⟩, fun h => ⟨hwritten, h.1, h.2⟩⟩

/-- A text is taken for an integer exactly if it spells it in digits that can be converted and the
integer lies within the bounds. Two spellings of one integer are taken or refused alike, and the
decimal notation of an integer within the bounds is taken for it. The bounds must be ones that can
be written, for the rule does so before it looks at the text. -/
theorem integer_by_value (least greatest : Int) (hleast : Text.IsWritable least)
    (hgreatest : Text.IsWritable greatest) (param : String) :
    (∀ s n, integer least greatest param s = .ok n ↔
      (∃ digits ≤ maxDigits, SpelledIn digits s n) ∧ least ≤ n ∧ n ≤ greatest) ∧
    (∀ s t n, ∀ k ≤ maxDigits, ∀ l ≤ maxDigits, SpelledIn k s n → SpelledIn l t n →
      integer least greatest param s = integer least greatest param t) ∧
    ∀ n, SpelledIn (decimalDigits n.natAbs).length (decimal n) n ∧
      ((decimalDigits n.natAbs).length ≤ maxDigits →
        (integer least greatest param (decimal n) = .ok n ↔ least ≤ n ∧ n ≤ greatest)) := by
  have hwritten : Text.IsWritable least ∧ Text.IsWritable greatest := ⟨hleast, hgreatest⟩
  refine ⟨fun s n => integer_eq_ok_iff_spelledIn hwritten, ?_, ?_⟩
  · intro s t n k hk l hl hs ht
    rw [integer_of_isNumeral hwritten (Text.isNumeral_iff_spelledIn.mpr ⟨k, hk, hs⟩),
      integer_of_isNumeral hwritten (Text.isNumeral_iff_spelledIn.mpr ⟨l, hl, ht⟩)]
  · intro n
    have hspelled := Text.spelledIn_decimal n
    refine ⟨hspelled, fun hlen => ?_⟩
    rw [integer_eq_ok_iff_spelledIn hwritten]
    exact and_iff_right ⟨_, hlen, hspelled⟩

/-- Forty-two in ASCII digits and, behind a plus and a zero, in Arabic and Devanagari ones. -/
theorem integer_by_value_forty_two :
    SpelledIn 2 "42" 42 ∧ SpelledIn 3 "+0٤२" 42 ∧ SpelledIn 2 "-0٠" 0 ∧
      integer 0 500 "page_size" "42" = integer 0 500 "page_size" "+0٤२" ∧
      (decimalDigits (42 : Int).natAbs).length ≤ maxDigits ∧
      integer 0 500 "page_size" (decimal 42) = .ok 42 := by
  have hplain : SpelledIn 2 "42" 42 :=
    ⟨false, [4, 2], .plain ⟨by decide, by decide⟩, rfl, by decide⟩
  have hplus : SpelledIn 3 "+0٤२" 42 :=
    ⟨false, [0, 4, 2], .plus ⟨by decide, by decide⟩, rfl, by decide⟩
  have hminus : SpelledIn 2 "-0٠" 0 :=
    ⟨true, [0, 0], .minus ⟨by decide, by decide⟩, rfl, by decide⟩
  obtain ⟨-, hsame, hdecimal⟩ := integer_by_value 0 500 (by decide) (by decide) "page_size"
  have hlen : (decimalDigits (42 : Int).natAbs).length ≤ maxDigits := by decide +kernel
  exact ⟨hplain, hplus, hminus,
    hsame _ _ 42 2 (by decide) 3 (by decide) hplain hplus, hlen,
    ((hdecimal 42).2 hlen).mpr (by decide)⟩

end Rule

end ItemSearch
