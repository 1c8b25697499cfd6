import ItemSearch.Text.Blank
import ItemSearch.Text.Hex

/-!
Texts between quotation marks, as messages show them. The marks are single ones unless the text
has such and no double ones; what cannot be seen is written as an escape.
-/

namespace ItemSearch.Text

/-- Characters beyond ASCII that leave nothing to see, besides the blanks: those that control the
flow of text, and those for private use. -/
def invisibleRanges : List (Nat × Nat) :=
  [(0x80, 0xA0), (0xAD, 0xAD), (0x600, 0x605), (0x61C, 0x61C), (0x6DD, 0x6DD), (0x70F, 0x70F),
   (0x180E, 0x180E), (0x200B, 0x200F), (0x202A, 0x202E), (0x2060, 0x206F), (0xE000, 0xF8FF),
   (0xFEFF, 0xFEFF), (0xFFF0, 0xFFFB), (0xE0000, 0x10FFFF)]

/-- The number in so many hexadecimal digits. -/
def hexPadded : (digits n : Nat) → List Char
  | 0, _ => []
  | k + 1, n => hexPadded k (n / 16) ++ [hexDigit (n % 16)]

/-- A character between quotation marks of that kind. -/
def shownChar (mark c : Char) : List Char :=
  let n := c.toNat
  if c = mark ∨ c = '\\' then ['\\', c]
  else if c = '\n' then ['\\', 'n']
  else if c = '\r' then ['\\', 'r']
  else if c = '\t' then ['\\', 't']
  else if n < 0x20 ∨ n = 0x7F then '\\' :: 'x' :: hexPadded 2 n
  else if 0x80 ≤ n ∧ (isBlank c ∨ inRanges invisibleRanges n) then
    if n < 0x100 then '\\' :: 'x' :: hexPadded 2 n
    else if n < 0x10000 then '\\' :: 'u' :: hexPadded 4 n
    else '\\' :: 'U' :: hexPadded 8 n
  else [c]

def quoted (s : String) : String :=
  let cs := s.toList
  let mark := if cs.contains '\'' && !cs.contains '"' then '"' else '\''
  String.ofList (mark :: cs.flatMap (shownChar mark) ++ [mark])

end ItemSearch.Text
