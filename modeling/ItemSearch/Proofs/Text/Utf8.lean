import ItemSearch.Text.Utf8

/-!
The bytes of a text. Those of a character are read as the character, whatever follows them, so a
text is known from its bytes.
-/

namespace ItemSearch.Text

namespace Utf8

theorem toNat_ofNat_of_lt {n : Nat} (h : n < 0x100) : (UInt8.ofNat n).toNat = n := by
  simpa using Nat.mod_eq_of_lt h

/-- A byte in the range adds its six bits. -/
theorem readTail_cons {bits n : Nat} {range : Nat × Nat} {ranges : List (Nat × Nat)}
    {bs : List UInt8} (hn : n < 0x40) (hrange : range.1 ≤ 0x80 + n ∧ 0x80 + n ≤ range.2) :
    readTail bits (range :: ranges) (UInt8.ofNat (0x80 + n) :: bs) =
      readTail (64 * bits + n) ranges bs := by
  have hbyte : (UInt8.ofNat (0x80 + n)).toNat = 0x80 + n := toNat_ofNat_of_lt (by omega)
  have hbits : (0x80 + n) % 64 = n := by omega
  rw [readTail, hbyte, if_pos hrange, hbits]

theorem read_cons {b bits n : Nat} {ranges : List (Nat × Nat)} {bs rest : List UInt8}
    (hb : b < 0x100) (hlead : lead? b = some (bits, ranges))
    (htail : readTail bits ranges bs = (some n, rest)) :
    read (UInt8.ofNat b :: bs) = some (Char.ofNat n) :: read rest := by
  rw [read, toNat_ofNat_of_lt hb, hlead]
  simp only [htail, Option.map_some]

/-- The byte in front of one more. -/
theorem lead?_two {k : Nat} (h : 2 ≤ k) (h' : k < 0x20) : lead? (0xC0 + k) = some (k, [tail]) := by
  rw [lead?, if_neg (by omega), if_neg (by omega), if_pos (by omega), Nat.add_sub_cancel_left]

/-- The byte in front of two more. -/
theorem lead?_three : ∀ k < 0x10, lead? (0xE0 + k) =
    some (k, [(if k = 0 then 0xA0 else 0x80, if k = 0xD then 0x9F else 0xBF), tail]) := by
  decide

/-- The byte in front of three more. -/
theorem lead?_four : ∀ k < 5, lead? (0xF0 + k) =
    some (k, [(if k = 0 then 0x90 else 0x80, if k = 4 then 0x8F else 0xBF), tail, tail]) := by
  decide

theorem readTail_tail {bits n : Nat} {ranges : List (Nat × Nat)} {bs : List UInt8}
    (hn : n < 0x40) : readTail bits (tail :: ranges) (UInt8.ofNat (0x80 + n) :: bs) =
      readTail (64 * bits + n) ranges bs :=
  readTail_cons hn ⟨Nat.le_add_right _ _, show 0x80 + n ≤ 0xBF by omega⟩

/-- The bytes of a character are read as the character. -/
theorem read_encodeChar (c : Char) (bs : List UInt8) :
    read (encodeChar c ++ bs) = some c :: read bs := by
  have hvalid : c.toNat < 0xD800 ∨ 0xDFFF < c.toNat ∧ c.toNat < 0x110000 := c.valid
  have hread : read (encodeChar c ++ bs) = some (Char.ofNat c.toNat) :: read bs := by
    unfold encodeChar
    generalize c.toNat = n at hvalid ⊢
    simp only
    split
    · next hone => exact read_cons (by omega) (by rw [lead?, if_pos hone]) rfl
    split
    · next htwo =>
        simp only [List.cons_append, List.nil_append]
        refine read_cons (by omega) (lead?_two (by omega) (by omega)) ?_
        rw [readTail_tail (Nat.mod_lt _ (by decide)), readTail]
        congr 2
        omega
    split
    · next hthree =>
        simp only [List.cons_append, List.nil_append]
        refine read_cons (by omega) (lead?_three (n / 4096) (by omega)) ?_
        rw [readTail_cons (Nat.mod_lt _ (by decide)) ⟨?_, ?_⟩,
          readTail_tail (Nat.mod_lt _ (by decide)), readTail]
        · congr 2
          omega
        · simp only
          split <;> omega
        · simp only
          split <;> omega
    · next hfour =>
        simp only [List.cons_append, List.nil_append]
        refine read_cons (by omega) (lead?_four (n / 262144) (by omega)) ?_
        rw [readTail_cons (Nat.mod_lt _ (by decide)) ⟨?_, ?_⟩,
          readTail_tail (Nat.mod_lt _ (by decide)), readTail_tail (Nat.mod_lt _ (by decide)),
          readTail]
        · congr 2
          omega
        · simp only
          split <;> omega
        · simp only
          split <;> omega
  rwa [Char.ofNat_toNat] at hread

theorem read_encode (s : List Char) : read (encode s) = s.map some := by
  induction s with
  | nil => rw [encode, List.flatMap_nil, read, List.map_nil]
  | cons c s ih =>
      rw [encode, List.flatMap_cons, read_encodeChar, List.map_cons]
      exact congrArg _ ih

/-- A text is read off its bytes. -/
theorem decodeMarked_encode (s : List Char) : decodeMarked (encode s) = s := by
  simp [decodeMarked, read_encode, Function.comp_def]

theorem encode_injective {s t : List Char} (h : encode s = encode t) : s = t := by
  rw [← decodeMarked_encode s, h, decodeMarked_encode]

theorem length_encodeChar_pos (c : Char) : 0 < (encodeChar c).length := by
  unfold encodeChar
  simp only
  repeat' split
  all_goals simp

theorem length_le_length_encode (s : List Char) : s.length ≤ (encode s).length := by
  induction s with
  | nil => exact Nat.zero_le _
  | cons c s ih =>
      have hpos := length_encodeChar_pos c
      rw [encode, List.flatMap_cons, List.length_append, List.length_cons]
      change s.length + 1 ≤ _ + (encode s).length
      omega

end Utf8

end ItemSearch.Text
