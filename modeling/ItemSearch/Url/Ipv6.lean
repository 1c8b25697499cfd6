import ItemSearch.Text.Digit
import ItemSearch.Text.Hex
import ItemSearch.Text.Split

/-!
Addresses of eight groups of up to four hexadecimal digits, with colons between them. One run of
groups may be left out where two colons stand side by side, and the last two groups may be
written as four decimal bytes.
-/

namespace ItemSearch.Url.Ipv6

def isGroup (s : List Char) : Bool := !s.isEmpty && s.length ≤ 4 && s.all Text.isHex

/-- A byte in decimal without zeros in front. -/
def isByte (s : List Char) : Bool :=
  !s.isEmpty && s.length ≤ 3 && s.all Text.isAsciiDigit &&
    (s.length = 1 || s.head? ≠ some '0') && Text.asciiValue s ≤ 255

def isDotted (s : List Char) : Bool :=
  let bytes := Text.splitChars '.' s
  bytes.length = 4 && bytes.all isByte

/-- How many groups the pieces are, if all of them are groups. The last may be four bytes in
decimal where `dotted` allows it. -/
def countGroups? (dotted : Bool) : List (List Char) → Option Nat
  | [] => some 0
  | piece :: rest =>
    if isGroup piece then (countGroups? dotted rest).map (· + 1)
    else if dotted && rest.isEmpty && isDotted piece then some 2
    else none

/-- How many groups a text without an omission is. An empty text is none. -/
def groups? (dotted : Bool) (s : List Char) : Option Nat :=
  if s.isEmpty then some 0 else countGroups? dotted (Text.splitChars ':' s)

/-- What stands before and after the first two colons side by side. -/
def cutOmission? : List Char → Option (List Char × List Char)
  | ':' :: ':' :: rest => some ([], rest)
  | c :: rest => (cutOmission? rest).map fun p => (c :: p.1, p.2)
  | [] => none

/-- Whether the text is an address. An omission stands for one group at least. -/
def isAddress (s : List Char) : Bool :=
  match cutOmission? s with
  | some (left, right) =>
    match groups? false left, groups? true right with
    | some m, some n => m + n ≤ 7
    | _, _ => false
  | none => groups? true s = some 8

end ItemSearch.Url.Ipv6
