import ItemSearch.Text.Decimal
import Mathlib.Algebra.Group.Nat.Defs
import Mathlib.Data.List.Induction

/-!
Which texts are numerals, and of which integers. `Signed` is the grammar, an optional sign and one
digit at least, in the digits of any script; `readNumeral` follows it and gives up on too many
digits alone. Decimal notation is one of the spellings that it reads, so an integer within
`maxDigits` digits is read back from its own notation.
-/

namespace ItemSearch.Text

/-- The characters are decimal digits with these values. -/
structure AreDigits (s : List Char) (ds : List Nat) : Prop where
  ne_nil : ds ≠ []
  values : s.map digitValue? = ds.map some

/-- An optional sign in front of digits with these values. -/
inductive Signed (ds : List Nat) : Bool → List Char → Prop where
  | plain {s : List Char} (h : AreDigits s ds) : Signed ds false s
  | plus {s : List Char} (h : AreDigits s ds) : Signed ds false ('+' :: s)
  | minus {s : List Char} (h : AreDigits s ds) : Signed ds true ('-' :: s)

def signedValue (negative : Bool) (ds : List Nat) : Int :=
  if negative then -(ofDigits ds : Int) else ofDigits ds

/-- The text is a numeral of `n` that is short enough to be converted. -/
def IsNumeral (s : String) (n : Int) : Prop :=
  ∃ negative ds, Signed ds negative s.toList ∧ ds.length ≤ maxDigits ∧
    n = signedValue negative ds

/-- The text is a numeral of so many digits that it is not converted. -/
def IsLongNumeral (s : String) (digits : Nat) : Prop :=
  ∃ negative ds, Signed ds negative s.toList ∧ maxDigits < ds.length ∧ digits = ds.length

/-! ### Reading -/

theorem digitValues?_eq_some_iff {s : List Char} {ds : List Nat} :
    digitValues? s = some ds ↔ s.map digitValue? = ds.map some := by
  unfold digitValues?
  induction s generalizing ds with
  | nil => cases ds <;> simp
  | cons c s ih =>
      rw [List.mapM_cons]
      cases hc : digitValue? c with
      | none => cases ds <;> simp [hc]
      | some d =>
          cases ds with
          | nil => simp [Option.bind_eq_some_iff]
          | cons e ds =>
              simp only [Option.bind_eq_bind, Option.bind_some, Option.bind_eq_some_iff,
                Option.pure_def, Option.some.injEq, List.cons.injEq, ih, List.map_cons, hc]
              constructor
              · rintro ⟨rest, hrest, rfl, rfl⟩
                exact ⟨rfl, hrest⟩
              · rintro ⟨rfl, hrest⟩
                exact ⟨ds, hrest, rfl, rfl⟩

theorem AreDigits.first {s : List Char} {ds : List Nat} (h : AreDigits s ds) :
    ∃ c rest, s = c :: rest ∧ (digitValue? c).isSome := by
  cases s with
  | nil =>
      have := h.values
      simp [h.ne_nil] at this
  | cons c rest =>
      obtain ⟨d, ds, rfl⟩ := List.exists_cons_of_ne_nil h.ne_nil
      have hc := (List.cons.inj h.values).1
      exact ⟨c, rest, rfl, by simp [hc]⟩

theorem AreDigits.splitSign_eq {s : List Char} {ds : List Nat} (h : AreDigits s ds) :
    splitSign s = (false, s) := by
  obtain ⟨c, rest, rfl, hc⟩ := h.first
  have hminus : c ≠ '-' := by
    rintro rfl
    exact absurd hc (by decide)
  have hplus : c ≠ '+' := by
    rintro rfl
    exact absurd hc (by decide)
  simp [splitSign, hminus, hplus]

theorem signed_iff {s : List Char} {ds : List Nat} {negative : Bool} :
    Signed ds negative s ↔ (splitSign s).1 = negative ∧ AreDigits (splitSign s).2 ds := by
  constructor
  · rintro (h | h | h)
    · rw [h.splitSign_eq]
      exact ⟨rfl, h⟩
    · exact ⟨rfl, h⟩
    · exact ⟨rfl, h⟩
  · rintro ⟨rfl, h⟩
    revert h
    unfold splitSign
    split
    · exact Signed.minus
    · exact Signed.plus
    · exact Signed.plain

/-- The digits and the sign of a numeral decide how it is read. -/
theorem Signed.readNumeralChars_eq {s : List Char} {ds : List Nat} {negative : Bool}
    (h : Signed ds negative s) :
    readNumeralChars s =
      if maxDigits < ds.length then .tooLong ds.length else .value (signedValue negative ds) := by
  obtain ⟨rfl, hne, hvalues⟩ := signed_iff.mp h
  obtain ⟨d, rest, rfl⟩ := List.exists_cons_of_ne_nil hne
  rw [← digitValues?_eq_some_iff] at hvalues
  simp [readNumeralChars, hvalues, signedValue]

/-- What is not malformed has a sign, or none, and digits. -/
theorem exists_signed_of_ne_malformed {s : List Char} (h : readNumeralChars s ≠ .malformed) :
    ∃ negative ds, Signed ds negative s := by
  cases hds : digitValues? (splitSign s).2 with
  | none => simp [readNumeralChars, hds] at h
  | some ds =>
      refine ⟨(splitSign s).1, ds, signed_iff.mpr ⟨rfl, ?_, digitValues?_eq_some_iff.mp hds⟩⟩
      rintro rfl
      simp [readNumeralChars, hds] at h

theorem readNumeral_eq_value_iff {s : String} {n : Int} :
    readNumeral s = .value n ↔ IsNumeral s n := by
  constructor
  · intro h
    obtain ⟨negative, ds, hs⟩ :=
      exists_signed_of_ne_malformed (s := s.toList) (by rw [← readNumeral, h]; simp)
    rw [readNumeral, hs.readNumeralChars_eq] at h
    split at h
    · simp at h
    · next hlen => exact ⟨negative, ds, hs, Nat.le_of_not_lt hlen, (Numeral.value.inj h).symm⟩
  · rintro ⟨negative, ds, hs, hlen, rfl⟩
    rw [readNumeral, hs.readNumeralChars_eq, if_neg (Nat.not_lt_of_le hlen)]

theorem readNumeral_eq_tooLong_iff {s : String} {digits : Nat} :
    readNumeral s = .tooLong digits ↔ IsLongNumeral s digits := by
  constructor
  · intro h
    obtain ⟨negative, ds, hs⟩ :=
      exists_signed_of_ne_malformed (s := s.toList) (by rw [← readNumeral, h]; simp)
    rw [readNumeral, hs.readNumeralChars_eq] at h
    split at h
    · next hlen => exact ⟨negative, ds, hs, hlen, (Numeral.tooLong.inj h).symm⟩
    · simp at h
  · rintro ⟨negative, ds, hs, hlen, rfl⟩
    rw [readNumeral, hs.readNumeralChars_eq, if_pos hlen]

/-! ### Magnitudes -/

theorem AreDigits.lt_ten {s : List Char} {ds : List Nat} (h : AreDigits s ds) :
    ∀ d ∈ ds, d < 10 := by
  intro d hd
  have hmem : some d ∈ s.map digitValue? := by
    rw [h.values]
    exact List.mem_map_of_mem hd
  obtain ⟨c, -, hc⟩ := List.mem_map.mp hmem
  exact digitValue?_lt hc

theorem ofDigits_lt {ds : List Nat} (h : ∀ d ∈ ds, d < 10) : ofDigits ds < 10 ^ ds.length := by
  induction ds using List.reverseRecOn with
  | nil => simp [ofDigits]
  | append_singleton ds d ih =>
      have hd := h d (by simp)
      have hds := ih fun e he => h e (by simp [he])
      rw [ofDigits_append, List.length_append, List.length_singleton, Nat.pow_succ]
      omega

theorem natAbs_signedValue (negative : Bool) (ds : List Nat) :
    (signedValue negative ds).natAbs = ofDigits ds := by
  cases negative <;> simp [signedValue]

/-- A numeral that is converted has a magnitude within the digits allowed. -/
theorem IsNumeral.natAbs_lt {s : String} {n : Int} (h : IsNumeral s n) :
    n.natAbs < 10 ^ maxDigits := by
  obtain ⟨negative, ds, hs, hlen, rfl⟩ := h
  rw [natAbs_signedValue]
  calc
    ofDigits ds < 10 ^ ds.length := ofDigits_lt (signed_iff.mp hs).2.lt_ten
    _ ≤ 10 ^ maxDigits := Nat.pow_le_pow_right (by omega) hlen

/-! ### Reading decimal notation -/

theorem digitValue?_digitChar : ∀ d < 10, digitValue? (digitChar d) = some d := by decide

theorem areDigits_natDecimalChars (n : Nat) : AreDigits (natDecimalChars n) (decimalDigits n) where
  ne_nil := decimalDigits_ne_nil n
  values := by
    rw [natDecimalChars, List.map_map]
    apply List.map_congr_left
    intro d hd
    exact digitValue?_digitChar d (decimalDigits_lt_ten n d hd)

theorem isAsciiDigit_digitChar : ∀ d < 10, isAsciiDigit (digitChar d) = true := by decide

theorem isAsciiDigit_of_mem_natDecimalChars {n : Nat} :
    ∀ c ∈ natDecimalChars n, isAsciiDigit c = true :=
  List.forall_mem_map.mpr fun d hd => isAsciiDigit_digitChar d (decimalDigits_lt_ten n d hd)

theorem asciiValue_map_digitChar {ds : List Nat} (h : ∀ d ∈ ds, d < 10) :
    asciiValue (ds.map digitChar) = ofDigits ds := by
  have hdigit : ∀ d < 10, (digitChar d).toNat - 48 = d := by decide
  induction ds using List.reverseRecOn with
  | nil => rfl
  | append_singleton ds d ih =>
      have hd := hdigit d (h d (by simp))
      have hds := ih fun e he => h e (by simp [he])
      rw [asciiValue] at hds
      rw [ofDigits_append, ← hds, List.map_append, List.map_singleton, asciiValue,
        List.foldl_append]
      simp [hd]

/-- The notation of a number in ASCII digits denotes the number. -/
theorem asciiValue_natDecimalChars (n : Nat) : asciiValue (natDecimalChars n) = n := by
  rw [natDecimalChars, asciiValue_map_digitChar (decimalDigits_lt_ten n), ofDigits_decimalDigits]

theorem length_decimalDigits_le {n k : Nat} (hk : 0 < k) (h : n < 10 ^ k) :
    (decimalDigits n).length ≤ k := by
  induction k generalizing n with
  | zero => omega
  | succ k ih =>
      rw [decimalDigits]
      split
      · simp
      · next hn =>
          have hk' : 0 < k := by
            rcases Nat.eq_zero_or_pos k with rfl | hk'
            · simp at h
              omega
            · exact hk'
          have hdiv : n / 10 < 10 ^ k := by
            rw [Nat.pow_succ] at h
            omega
          simpa using ih hk' hdiv

theorem signed_decimalChars (n : Int) :
    Signed (decimalDigits n.natAbs) (decide (n < 0)) (decimalChars n) := by
  unfold decimalChars
  split
  · next h =>
      rw [decide_eq_true h]
      exact Signed.minus (areDigits_natDecimalChars _)
  · next h =>
      rw [decide_eq_false h]
      exact Signed.plain (areDigits_natDecimalChars _)

theorem signed_decimal (n : Int) :
    Signed (decimalDigits n.natAbs) (decide (n < 0)) (decimal n).toList := by
  simpa [decimal] using signed_decimalChars n

theorem signedValue_decimalDigits (n : Int) :
    signedValue (decide (n < 0)) (decimalDigits n.natAbs) = n := by
  rw [signedValue, ofDigits_decimalDigits]
  by_cases hn : n < 0
  · rw [decide_eq_true hn, if_pos rfl]
    omega
  · rw [decide_eq_false hn, if_neg Bool.false_ne_true]
    omega

theorem isWritable_iff {n : Int} : IsWritable n ↔ n.natAbs < 10 ^ maxDigits := by
  constructor
  · intro h
    have hlt := ofDigits_lt (decimalDigits_lt_ten n.natAbs)
    rw [ofDigits_decimalDigits] at hlt
    exact Nat.lt_of_lt_of_le hlt (Nat.pow_le_pow_right (by decide) h)
  · exact length_decimalDigits_le (by decide)

/-- The least positive integer that cannot be written. -/
theorem not_isWritable_pow : ¬ IsWritable (Int.ofNat (Nat.pow 10 maxDigits)) := by
  -- of any number of digits, lest the power is computed
  have hpow : ∀ k, ¬ (Int.ofNat (Nat.pow 10 k)).natAbs < 10 ^ k := fun k => Nat.lt_irrefl _
  rw [isWritable_iff]
  exact hpow maxDigits

/-- An integer that has been read can be written again. -/
theorem IsNumeral.isWritable {s : String} {n : Int} (h : IsNumeral s n) : IsWritable n :=
  isWritable_iff.mpr h.natAbs_lt

theorem isNumeral_decimal {n : Int} (h : IsWritable n) : IsNumeral (decimal n) n :=
  ⟨decide (n < 0), decimalDigits n.natAbs, signed_decimal n, h, (signedValue_decimalDigits n).symm⟩

theorem decimal_natCast (n : Nat) : decimal n = String.ofList (natDecimalChars n) := by
  have hsign : ¬ (n : Int) < 0 := by omega
  rw [decimal, decimalChars, if_neg hsign, Int.natAbs_natCast]

theorem decimal_ne_empty (n : Int) : decimal n ≠ "" := by
  intro h
  have hs := signed_decimalChars n
  rw [show decimalChars n = [] by simpa [decimal] using congrArg String.toList h] at hs
  obtain ⟨c, rest, hc, -⟩ := (signed_iff.mp hs).2.first
  simp [splitSign] at hc

theorem isLongNumeral_replicate {n : Nat} (hn : maxDigits < n) :
    IsLongNumeral (String.ofList (List.replicate n '1')) n := by
  refine ⟨false, List.replicate n 1, .plain ⟨?_, ?_⟩, by simpa using hn, by simp⟩
  · intro hnil
    rw [List.replicate_eq_nil_iff] at hnil
    omega
  · rw [String.toList_ofList, List.map_replicate, List.map_replicate]
    rfl

end ItemSearch.Text
