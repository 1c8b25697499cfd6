import ItemSearch.Proofs.Text.Numeral
import ItemSearch.Proofs.Text.Split
import ItemSearch.Proofs.Url.Parts
import ItemSearch.Request.RawParams
import ItemSearch.Validation.Rule

/-!
The rules for values as predicates on texts, and what each rule of the validator does with a text:
it comes to a value exactly where the predicate holds. Rules for the values of fields give back the
text that they are given, so a value that passed is the text that was asked for.
-/

namespace ItemSearch.Rule

/-- Text of 2 to 200 characters. -/
def IsText (s : String) : Prop := 2 ≤ s.toList.length ∧ s.toList.length ≤ 200

/-- So many decimal digits of any script. -/
def Digits (n : Nat) (s : List Char) : Prop := s.length = n ∧ ∀ c ∈ s, Text.isDigit c = true

/-- A year, a month of a year, or a day of a month. -/
inductive IsDate : List Char → Prop where
  | year {y : List Char} (hy : Digits 4 y) : IsDate y
  | month {y m : List Char} (hy : Digits 4 y) (hm : Digits 2 m) : IsDate (y ++ '-' :: m)
  | day {y m d : List Char} (hy : Digits 4 y) (hm : Digits 2 m) (hd : Digits 2 d) :
      IsDate (y ++ '-' :: (m ++ '-' :: d))

/-- The text is `t` between quotation marks. -/
def Quoted (s t : List Char) : Prop := s = '"' :: (t ++ ['"'])

/-- A URL, or a URL between quotation marks. -/
def IsUrl (urls : Url.Check) (s : List Char) : Prop :=
  (∃ t, Quoted s t ∧ urls.accepts t = true) ∨ ((∀ t, ¬ Quoted s t) ∧ urls.accepts s = true)

/-- The rule for the values of fields of a type. -/
def Fits (urls : Url.Check) : FieldType → String → Prop
  | .url, s => IsUrl urls s.toList
  | .date, s => IsDate s.toList
  | .text, s | .wildcard, s | .coordinates, s => IsText s

/-- A numeral of an integer within bounds, which can be written. -/
structure IntegerIn (least greatest : Int) (s : String) (n : Int) : Prop where
  written : Text.IsWritable least ∧ Text.IsWritable greatest
  numeral : Text.IsNumeral s n
  bounds : least ≤ n ∧ n ≤ greatest

/-- There are too many digits: in a bound, whatever the text is, or else in the text. -/
inductive TooManyDigitsIn (least greatest : Int) (s : String) : Text.TooManyDigits → Prop where
  | bound (h : ¬ (Text.IsWritable least ∧ Text.IsWritable greatest)) :
      TooManyDigitsIn least greatest s .written
  | numeral (hwritten : Text.IsWritable least ∧ Text.IsWritable greatest) {digits : Nat}
      (h : Text.IsLongNumeral s digits) : TooManyDigitsIn least greatest s (.read digits)

/-! ### Values of fields -/

variable {urls : Url.Check}

theorem text_eq_ok_iff {param s t : String} : text param s = .ok t ↔ IsText s ∧ t = s := by
  simp only [text, leastTextLength, greatestTextLength, IsText]
  by_cases h : 2 ≤ s.toList.length ∧ s.toList.length ≤ 200
  · simp [h, eq_comm]
  · simp [refuse, h]

theorem areDigits_iff {n : Nat} {s : List Char} : areDigits n s = true ↔ Digits n s := by
  simp [areDigits, Digits]

theorem Digits.dash_not_mem {n : Nat} {s : List Char} (h : Digits n s) : '-' ∉ s := by
  intro hmem
  exact absurd (h.2 '-' hmem) (by decide)

theorem isDateChars_iff {s : List Char} : isDateChars s = true ↔ IsDate s := by
  constructor
  · intro h
    have hjoin := Text.joinChars_splitChars '-' s
    unfold isDateChars at h
    split at h
    · next y hy =>
        rw [hy] at hjoin
        rw [areDigits_iff] at h
        rw [← hjoin]
        exact IsDate.year h
    · next y m hy =>
        rw [hy] at hjoin
        simp only [Bool.and_eq_true, areDigits_iff] at h
        rw [← hjoin]
        simpa [Text.joinChars] using IsDate.month h.1 h.2
    · next y m d hy =>
        rw [hy] at hjoin
        simp only [Bool.and_eq_true, areDigits_iff] at h
        rw [← hjoin]
        simpa [Text.joinChars] using IsDate.day h.1.1 h.1.2 h.2
    · simp at h
  · rintro (hy | ⟨hy, hm⟩ | ⟨hy, hm, hd⟩)
    · simp [isDateChars, Text.splitChars_of_not_mem hy.dash_not_mem, areDigits_iff, hy]
    · simp [isDateChars, Text.splitChars_append hy.dash_not_mem,
        Text.splitChars_of_not_mem hm.dash_not_mem, areDigits_iff, hy, hm]
    · simp [isDateChars, Text.splitChars_append hy.dash_not_mem,
        Text.splitChars_append hm.dash_not_mem, Text.splitChars_of_not_mem hd.dash_not_mem,
        areDigits_iff, hy, hm, hd]

theorem date_eq_ok_iff {param s t : String} :
    date param s = .ok t ↔ IsDate s.toList ∧ t = s := by
  rw [date, ← isDateChars_iff]
  split
  · next h => simp [h, eq_comm]
  · next h => simp [refuse, h]

theorem unquoted_of_quoted {s t : List Char} (h : Quoted s t) : unquoted s = t := by
  rw [h]
  simp [unquoted]

theorem unquoted_of_not_quoted {s : List Char} (h : ∀ t, ¬ Quoted s t) : unquoted s = s := by
  unfold unquoted
  split
  · next rest =>
      split
      · next inner hinner =>
          have hrest : rest = inner.reverse ++ ['"'] := by
            simpa using congrArg List.reverse hinner
          exact absurd (by rw [hrest, Quoted]) (h inner.reverse)
      · rfl
  · rfl

theorem accepts_unquoted_iff {s : List Char} :
    urls.accepts (unquoted s) = true ↔ IsUrl urls s := by
  by_cases h : ∃ t, Quoted s t
  · obtain ⟨t, ht⟩ := h
    rw [unquoted_of_quoted ht]
    constructor
    · exact fun haccepts => Or.inl ⟨t, ht, haccepts⟩
    · rintro (⟨t', ht', haccepts⟩ | ⟨hnone, -⟩)
      · rwa [← unquoted_of_quoted ht, unquoted_of_quoted ht']
      · exact absurd ht (hnone t)
  · rw [not_exists] at h
    rw [unquoted_of_not_quoted h]
    constructor
    · exact fun haccepts => Or.inr ⟨h, haccepts⟩
    · rintro (⟨t, ht, -⟩ | ⟨-, haccepts⟩)
      · exact absurd ht (h t)
      · exact haccepts

theorem url_eq_ok_iff {param s t : String} :
    url urls param s = .ok t ↔ IsUrl urls s.toList ∧ t = s := by
  rw [url, ← accepts_unquoted_iff]
  split
  · next h => simp [h, eq_comm]
  · next h => simp [refuse, h]

/-- A value passes the rule of its type unchanged. -/
theorem check_eq_ok_iff {type : FieldType} {param s t : String} :
    (forType type).check urls param s = .ok t ↔ Fits urls type s ∧ t = s := by
  cases type with
  | url => exact url_eq_ok_iff
  | date => exact date_eq_ok_iff
  | text => exact text_eq_ok_iff
  | wildcard => exact text_eq_ok_iff
  | coordinates => exact text_eq_ok_iff

/-! ### Words and integers -/

theorem boolean_eq_ok_iff {param s : String} {b : Bool} :
    boolean param s = .ok b ↔ s = boolWord b := by
  unfold boolean
  split
  · next h => cases b <;> simp [h, boolWord]
  · split
    · next h => cases b <;> simp [h, boolWord]
    · cases b <;> simp [refuse, boolWord, *]

theorem operator_eq_ok_iff {param s : String} {op : Operator} :
    operator param s = .ok op ↔ s = op.word := by
  unfold operator
  split
  · next h => cases op <;> simp [h, Operator.word]
  · split
    · next h => cases op <;> simp [h, Operator.word]
    · cases op <;> simp [refuse, Operator.word, *]

theorem sortOrder_eq_ok_iff {param s : String} {order : SortOrder} :
    sortOrder param s = .ok order ↔ s = order.word := by
  unfold sortOrder
  split
  · next h => cases order <;> simp [h, SortOrder.word]
  · split
    · next h => cases order <;> simp [h, SortOrder.word]
    · cases order <;> simp [refuse, SortOrder.word, *]

section

variable {least greatest n : Int} {param s : String}

/-- Where the bounds can be written, a text is refused or taken for what it says. -/
theorem integer_of_written (h : Text.IsWritable least ∧ Text.IsWritable greatest)
    (param s : String) :
    integer least greatest param s = match Text.readNumeral s with
      | .malformed => refuse (.integerRange param least greatest)
      | .tooLong digits => .error (.tooManyDigits (.read digits))
      | .value n =>
        if least ≤ n ∧ n ≤ greatest then .ok n else refuse (.integerRange param least greatest) :=
  if_pos h

/-- Otherwise nothing can be said of it, and it is not even looked at. -/
theorem integer_of_not_written (h : ¬ (Text.IsWritable least ∧ Text.IsWritable greatest))
    (param s : String) : integer least greatest param s = .error (.tooManyDigits .written) :=
  if_neg h

theorem integer_eq_ok_iff :
    integer least greatest param s = .ok n ↔ IntegerIn least greatest s n := by
  by_cases hwritten : Text.IsWritable least ∧ Text.IsWritable greatest
  · have hin : IntegerIn least greatest s n ↔
        Text.readNumeral s = .value n ∧ least ≤ n ∧ n ≤ greatest := by
      rw [Text.readNumeral_eq_value_iff]
      exact ⟨fun h => ⟨h.numeral, h.bounds⟩, fun h => ⟨hwritten, h.1, h.2⟩⟩
    rw [hin, integer_of_written hwritten]
    cases Text.readNumeral s with
    | malformed => simp [refuse]
    | tooLong digits => simp
    | value m =>
        by_cases h : least ≤ m ∧ m ≤ greatest
        · simp only [h, and_self, if_true, Except.ok.injEq, Text.Numeral.value.injEq]
          constructor
          · rintro rfl
            exact ⟨rfl, h⟩
          · exact fun hn => hn.1
        · simp only [h, if_false, refuse, Text.Numeral.value.injEq]
          constructor
          · simp
          · rintro ⟨rfl, hn⟩
            exact absurd hn h
  · rw [integer_of_not_written hwritten]
    exact iff_of_false (by simp) fun h => hwritten h.written

theorem integer_eq_tooManyDigits_iff {e : Text.TooManyDigits} :
    integer least greatest param s = .error (.tooManyDigits e) ↔
      TooManyDigitsIn least greatest s e := by
  constructor
  · intro h
    by_cases hwritten : Text.IsWritable least ∧ Text.IsWritable greatest
    · rw [integer_of_written hwritten] at h
      split at h
      · simp [refuse] at h
      · next digits hlong =>
          obtain rfl := Refusal.tooManyDigits.inj (Except.error.inj h)
          exact .numeral hwritten (Text.readNumeral_eq_tooLong_iff.mp hlong)
      · split at h <;> simp [refuse] at h
    · rw [integer_of_not_written hwritten] at h
      obtain rfl := Refusal.tooManyDigits.inj (Except.error.inj h)
      exact .bound hwritten
  · rintro (hwritten | ⟨hwritten, hlong⟩)
    · exact integer_of_not_written hwritten param s
    · rw [integer_of_written hwritten, Text.readNumeral_eq_tooLong_iff.mpr hlong]

end

end ItemSearch.Rule
