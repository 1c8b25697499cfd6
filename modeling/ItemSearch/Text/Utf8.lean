/-!
UTF-8. A byte that begins a character says how many follow it and in which ranges they lie; bytes
that break this off are a bad sequence, which ends where the first wrong byte begins. Reading
keeps bad sequences as `none`, and a text shows a mark in the place of each.
-/

namespace ItemSearch.Text.Utf8

/-- The bytes of a character. -/
def encodeChar (c : Char) : List UInt8 :=
  let n := c.toNat
  if n < 0x80 then [UInt8.ofNat n]
  else if n < 0x800 then [UInt8.ofNat (0xC0 + n / 64), UInt8.ofNat (0x80 + n % 64)]
  else if n < 0x10000 then
    [UInt8.ofNat (0xE0 + n / 4096), UInt8.ofNat (0x80 + n / 64 % 64),
     UInt8.ofNat (0x80 + n % 64)]
  else
    [UInt8.ofNat (0xF0 + n / 262144), UInt8.ofNat (0x80 + n / 4096 % 64),
     UInt8.ofNat (0x80 + n / 64 % 64), UInt8.ofNat (0x80 + n % 64)]

def encode (s : List Char) : List UInt8 := s.flatMap encodeChar

/-- The range of the bytes that continue a character. -/
def tail : Nat × Nat := (0x80, 0xBF)

/-- The bits of a first byte and the ranges of the bytes that follow it. The narrower ranges keep
out long forms of short characters, surrogates, and what lies beyond the last character. -/
def lead? (b : Nat) : Option (Nat × List (Nat × Nat)) :=
  if b < 0x80 then some (b, [])
  else if b < 0xC2 then none
  else if b < 0xE0 then some (b - 0xC0, [tail])
  else if b = 0xE0 then some (0, [(0xA0, 0xBF), tail])
  else if b = 0xED then some (0xD, [(0x80, 0x9F), tail])
  else if b < 0xF0 then some (b - 0xE0, [tail, tail])
  else if b = 0xF0 then some (0, [(0x90, 0xBF), tail, tail])
  else if b < 0xF4 then some (b - 0xF0, [tail, tail, tail])
  else if b = 0xF4 then some (4, [(0x80, 0x8F), tail, tail])
  else none

/-- Takes a byte out of each range. Gives the bits put together, or nothing if a byte is missing,
and in either case the bytes that were not taken. -/
def readTail (bits : Nat) : List (Nat × Nat) → List UInt8 → Option Nat × List UInt8
  | [], rest => (some bits, rest)
  | _ :: _, [] => (none, [])
  | range :: ranges, b :: bs =>
    if range.1 ≤ b.toNat ∧ b.toNat ≤ range.2 then
      readTail (64 * bits + b.toNat % 64) ranges bs
    else (none, b :: bs)

theorem readTail_length (bits : Nat) (ranges : List (Nat × Nat)) (bs : List UInt8) :
    (readTail bits ranges bs).2.length ≤ bs.length := by
  induction ranges generalizing bits bs with
  | nil => simp [readTail]
  | cons r rs ih =>
    cases bs with
    | nil => simp [readTail]
    | cons b bs =>
      simp only [readTail]
      split
      · exact Nat.le_succ_of_le (ih _ bs)
      · simp

/-- The characters of the bytes, with `none` for each bad sequence. -/
def read : List UInt8 → List (Option Char)
  | [] => []
  | b :: bs =>
    match lead? b.toNat with
    | none => none :: read bs
    | some (bits, ranges) =>
      let p := readTail bits ranges bs
      p.1.map Char.ofNat :: read p.2
termination_by bs => bs.length
decreasing_by
  · simp
  · exact Nat.lt_succ_of_le (readTail_length bits ranges bs)

/-- The character that stands for bytes that are none. -/
def replacement : Char := '\ufffd'

/-- The text of the bytes, with a mark for each bad sequence. -/
def decodeMarked (bs : List UInt8) : List Char := (read bs).map fun c? => c?.getD replacement

end ItemSearch.Text.Utf8
