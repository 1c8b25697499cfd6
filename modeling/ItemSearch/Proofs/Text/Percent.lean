import ItemSearch.Proofs.Text.Utf8
import ItemSearch.Text.Percent
import Mathlib.Data.List.TakeWhile

/-!
Percent-encoded texts. `Encodes` says that one text is another one in which some characters are
written byte by byte, whichever these are and in whichever case the hexadecimal digits stand. A text
is read off each of its encodings, every text has one, and it is its own encoding as long as there
is no percent sign in it.
-/

namespace ItemSearch.Text.Percent

/-- What is kept as it is are characters of ASCII, and the percent sign is none of them. -/
def IsPlain (kept : Char → Bool) : Prop :=
  ∀ c, kept c = true → isAscii c = true ∧ c ≠ '%'

/-- The text is written with characters that are kept, and with bytes in hexadecimal digits. -/
inductive IsEncoded (kept : Char → Bool) : List Char → Prop where
  | nil : IsEncoded kept []
  | kept {c : Char} {e : List Char} (hc : kept c = true) (he : IsEncoded kept e) :
      IsEncoded kept (c :: e)
  | byte {high low : Char} {e : List Char} (hhigh : isHex high = true) (hlow : isHex low = true)
      (he : IsEncoded kept e) : IsEncoded kept ('%' :: high :: low :: e)

/-- The second text is so written, and its bytes are those of the first one. -/
structure Encodes (kept : Char → Bool) (s e : List Char) : Prop where
  isEncoded : IsEncoded kept e
  bytes : decodeBytes e = Utf8.encode s

variable {kept : Char → Bool} {s e : List Char}

/-! ### The bytes of an encoded text -/

theorem decodeBytes_cons {c : Char} (hc : c ≠ '%') (e : List Char) :
    decodeBytes (c :: e) = Utf8.encodeChar c ++ decodeBytes e := by
  match e with
  | [] => simp [decodeBytes]
  | [d] => simp [decodeBytes]
  | high :: low :: rest => rw [decodeBytes, if_neg hc]

theorem decodeBytes_byte {high low : Char} {b : UInt8} (h : byteOf? high low = some b)
    (e : List Char) : decodeBytes ('%' :: high :: low :: e) = b :: decodeBytes e := by
  rw [decodeBytes, if_pos rfl, h]

theorem exists_byteOf? {high low : Char} (hhigh : isHex high = true) (hlow : isHex low = true) :
    ∃ b, byteOf? high low = some b := by
  obtain ⟨h, hh⟩ := Option.isSome_iff_exists.mp hhigh
  obtain ⟨l, hl⟩ := Option.isSome_iff_exists.mp hlow
  exact ⟨_, by rw [byteOf?, hh, hl]⟩

theorem isAscii_of_isHex {c : Char} (h : isHex c = true) : isAscii c = true := by
  have hlast : ∀ last : Char, last.toNat < 0x80 → c ≤ last → isAscii c = true := fun last hl hc =>
    decide_eq_true (Nat.lt_of_le_of_lt hc hl)
  unfold isHex hexValue? at h
  split at h
  · next hdigit => exact hlast '9' (by decide) hdigit.2
  split at h
  · next hsmall => exact hlast 'f' (by decide) hsmall.2
  split at h
  · next hcapital => exact hlast 'F' (by decide) hcapital.2
  · simp at h

theorem IsEncoded.mem_cases (h : IsEncoded kept e) {c : Char} (hc : c ∈ e) :
    kept c = true ∨ c = '%' ∨ isHex c = true := by
  induction h with
  | nil => simp at hc
  | kept hkept _ ih =>
      rcases List.mem_cons.mp hc with rfl | hrest
      · exact Or.inl hkept
      · exact ih hrest
  | byte hhigh hlow _ ih =>
      simp only [List.mem_cons] at hc
      rcases hc with rfl | rfl | rfl | hrest
      · exact Or.inr (Or.inl rfl)
      · exact Or.inr (Or.inr hhigh)
      · exact Or.inr (Or.inr hlow)
      · exact ih hrest

theorem IsEncoded.isAscii (hkept : IsPlain kept) (h : IsEncoded kept e) :
    ∀ c ∈ e, isAscii c = true := by
  intro c hc
  rcases h.mem_cases hc with hkeep | rfl | hhex
  · exact (hkept c hkeep).1
  · decide
  · exact isAscii_of_isHex hhex

/-- A byte takes three characters to write. -/
theorem IsEncoded.length_eq (hkept : IsPlain kept) (h : IsEncoded kept e) :
    (decodeBytes e).length + 2 * e.count '%' = e.length := by
  induction h with
  | nil => simp [decodeBytes]
  | @kept c e hc _ ih =>
      obtain ⟨hascii, hne⟩ := hkept c hc
      have hone : (Utf8.encodeChar c).length = 1 := by
        simp [Utf8.encodeChar, of_decide_eq_true hascii]
      rw [decodeBytes_cons hne, List.length_append, hone, List.count_cons_of_ne hne,
        List.length_cons]
      omega
  | @byte high low e hhigh hlow _ ih =>
      obtain ⟨b, hb⟩ := exists_byteOf? hhigh hlow
      have hne : ∀ d, isHex d = true → d ≠ '%' := by
        rintro _ hd rfl
        exact absurd hd (by decide)
      rw [decodeBytes_byte hb, List.count_cons_self, List.count_cons_of_ne (hne high hhigh),
        List.count_cons_of_ne (hne low hlow)]
      simp only [List.length_cons]
      omega

theorem IsEncoded.decodeBytes_eq (hkept : IsPlain kept) (h : IsEncoded kept e) (hnone : '%' ∉ e) :
    decodeBytes e = Utf8.encode e := by
  induction h with
  | nil => simp [decodeBytes, Utf8.encode]
  | @kept c e hc _ ih =>
      rw [List.mem_cons, not_or] at hnone
      rw [decodeBytes_cons (hkept c hc).2, ih hnone.2, Utf8.encode, Utf8.encode,
        List.flatMap_cons]
  | byte => exact absurd (List.mem_cons_self ..) hnone

theorem decodeText_of_isAscii (h : ∀ c ∈ e, isAscii c = true) :
    decodeText e = Utf8.decodeMarked (decodeBytes e) := by
  cases e with
  | nil => simp [decodeText, decodeBytes, Utf8.decodeMarked, Utf8.read]
  | cons c rest =>
      obtain ⟨hc, hrest⟩ := List.forall_mem_cons.mp h
      rw [decodeText, if_pos hc, List.takeWhile_eq_self_iff.mpr hrest,
        List.dropWhile_eq_nil_iff.mpr hrest, decodeText, List.append_nil]

/-! ### Encodings -/

/-- A text is read off its encodings. -/
theorem Encodes.decodeText_eq (hkept : IsPlain kept) (h : Encodes kept s e) :
    decodeText e = s := by
  rw [decodeText_of_isAscii (h.isEncoded.isAscii hkept), h.bytes, Utf8.decodeMarked_encode]

/-- An encoding is the text itself only if nothing is encoded in it. -/
theorem Encodes.eq_iff (hkept : IsPlain kept) (h : Encodes kept s e) : e = s ↔ '%' ∉ e := by
  constructor
  · rintro rfl
    -- the bytes of a text are at least as many as its characters
    have hlength := h.isEncoded.length_eq hkept
    have hbytes := Utf8.length_le_length_encode e
    rw [← h.bytes] at hbytes
    exact List.count_eq_zero.mp (by omega)
  · intro hnone
    apply Utf8.encode_injective
    rw [← h.bytes, h.isEncoded.decodeBytes_eq hkept hnone]

theorem Encodes.ne_nil (h : Encodes kept s e) (hs : s ≠ []) : e ≠ [] := by
  rintro rfl
  have hbytes : Utf8.encode [] = Utf8.encode s := by
    rw [← h.bytes]
    simp [decodeBytes, Utf8.encode]
  exact hs (Utf8.encode_injective hbytes).symm

theorem hexValue?_upper : ∀ n < 16,
    hexValue? (if n < 10 then Char.ofNat (48 + n) else Char.ofNat (55 + n)) = some n := by
  decide

theorem exists_hexByte (b : UInt8) :
    ∃ high low, hexByte b = ['%', high, low] ∧ isHex high = true ∧ isHex low = true ∧
      byteOf? high low = some b := by
  have hb : b.toNat < 256 := b.toNat_lt
  have hhigh := hexValue?_upper (b.toNat / 16) (by omega)
  have hlow := hexValue?_upper (b.toNat % 16) (Nat.mod_lt _ (by decide))
  refine ⟨_, _, rfl, by rw [isHex, hhigh]; rfl, by rw [isHex, hlow]; rfl, ?_⟩
  rw [byteOf?, hhigh, hlow]
  simp only
  rw [Nat.div_add_mod, UInt8.ofNat_toNat]

/-- Bytes that are all written in hexadecimal digits. -/
theorem encoded_bytes (bs : List UInt8) (he : IsEncoded kept e) :
    IsEncoded kept (bs.flatMap hexByte ++ e) ∧
      decodeBytes (bs.flatMap hexByte ++ e) = bs ++ decodeBytes e := by
  induction bs with
  | nil => exact ⟨he, rfl⟩
  | cons b bs ih =>
      obtain ⟨high, low, hwritten, hhigh, hlow, hbyte⟩ := exists_hexByte b
      rw [List.flatMap_cons, List.append_assoc, hwritten]
      refine ⟨.byte hhigh hlow ih.1, ?_⟩
      rw [List.cons_append, List.cons_append, List.cons_append, List.nil_append,
        decodeBytes_byte hbyte, ih.2, List.cons_append]

/-- Every text has an encoding: the one in which just the characters that are not kept are
encoded. -/
theorem encodes_encode (hkept : IsPlain kept) (s : List Char) :
    Encodes kept s (encode kept s) := by
  induction s with
  | nil => exact ⟨.nil, by simp [encode, decodeBytes, Utf8.encode]⟩
  | cons c s ih =>
      obtain ⟨hencoded, hbytes⟩ := ih
      have hcons : Utf8.encode (c :: s) = Utf8.encodeChar c ++ Utf8.encode s := List.flatMap_cons
      by_cases hc : kept c = true
      · have hwritten : encode kept (c :: s) = c :: encode kept s := by
          simp [encode, hc]
        rw [hwritten]
        exact ⟨.kept hc hencoded, by rw [decodeBytes_cons (hkept c hc).2, hbytes, hcons]⟩
      · have hwritten : encode kept (c :: s) =
            (Utf8.encodeChar c).flatMap hexByte ++ encode kept s := by
          simp [encode, hc]
        rw [hwritten]
        obtain ⟨hisEncoded, hdecoded⟩ := encoded_bytes (Utf8.encodeChar c) hencoded
        exact ⟨hisEncoded, by rw [hdecoded, hbytes, hcons]⟩

end ItemSearch.Text.Percent
