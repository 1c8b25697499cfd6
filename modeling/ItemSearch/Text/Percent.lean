import ItemSearch.Text.Hex
import ItemSearch.Text.Utf8

/-!
Percent-encoding: `%` and two hexadecimal digits stand for a byte. A percent sign without two such
digits stands for itself.
-/

namespace ItemSearch.Text.Percent

/-- The byte that two hexadecimal digits stand for. -/
def byteOf? (high low : Char) : Option UInt8 :=
  match hexValue? high, hexValue? low with
  | some h, some l => some (UInt8.ofNat (16 * h + l))
  | _, _ => none

/-- The bytes of a text: those that it encodes, and those of its other characters. -/
def decodeBytes : List Char → List UInt8
  | [] => []
  | [c] => Utf8.encodeChar c
  | [c, d] => Utf8.encodeChar c ++ Utf8.encodeChar d
  | c :: high :: low :: rest =>
    if c = '%' then
      match byteOf? high low with
      | some b => b :: decodeBytes rest
      | none => Utf8.encodeChar c ++ decodeBytes (high :: low :: rest)
    else Utf8.encodeChar c ++ decodeBytes (high :: low :: rest)
termination_by s => s.length
decreasing_by all_goals simp +arith

def hexByte (b : UInt8) : List Char :=
  let upper (n : Nat) := if n < 10 then Char.ofNat (48 + n) else Char.ofNat (55 + n)
  ['%', upper (b.toNat / 16), upper (b.toNat % 16)]

/-- The text with each character that is not `kept` encoded byte by byte. -/
def encode (kept : Char → Bool) (s : List Char) : List Char :=
  s.flatMap fun c => if kept c then [c] else (Utf8.encodeChar c).flatMap hexByte

def isAscii (c : Char) : Bool := c.toNat < 0x80

/-- The text with its encoded bytes read as UTF-8. Characters beyond ASCII stand for themselves,
and no byte on one side of them goes together with one on the other. -/
def decodeText (s : List Char) : List Char :=
  match s with
  | [] => []
  | c :: rest =>
    if isAscii c then
      Utf8.decodeMarked (decodeBytes (c :: rest.takeWhile isAscii)) ++
        decodeText (rest.dropWhile isAscii)
    else c :: decodeText rest
termination_by s.length
decreasing_by
  · exact Nat.lt_succ_of_le (List.dropWhile_suffix isAscii).length_le
  · simp

end ItemSearch.Text.Percent
