import ItemSearch.Schema.Basic
import ItemSearch.Text.Numeral

/-!
Numbers and truth values out of JSON. What plainly means one is taken for it: a truth value for 0
or 1, a float without a fraction for an integer, and texts for what they say.
-/

namespace ItemSearch.Schema

open Text (isAsciiDigit asciiValue)

/-- Blanks around a number: all but the four separators among the control characters. -/
def isOuterBlank (c : Char) : Bool := Text.isBlank c && !(0x1C ≤ c.toNat && c.toNat ≤ 0x1F)

def trimOuter (s : List Char) : List Char :=
  Text.dropRight isOuterBlank (s.dropWhile isOuterBlank)

/-- Runs of digits, with single underscores between them, as one run. -/
def joinedDigits? (s : List Char) : Option (List Char) :=
  let runs := Text.splitChars '_' s
  if runs.all fun run => !run.isEmpty && run.all isAsciiDigit then some runs.flatten else none

/-- The digits of an integer that is written with a point and zeros behind it, or without. -/
def wholeDigits? (s : List Char) : Option (List Char) :=
  match Text.cutChars? '.' s with
  | none => joinedDigits? s
  | some (whole, fraction) => if fraction.all (· = '0') then joinedDigits? whole else none

/-- An integer in ASCII digits. -/
def integerText (s : String) : Reading Int :=
  let (negative, body) := Text.splitSign (trimOuter s.toList)
  match wholeDigits? body with
  | none => .fail .notIntegerText
  | some digits =>
    let digits := digits.dropWhile (· = '0')
    if Text.maxDigits < digits.length then .fail .integerTooLong
    else .ok (if negative then -(asciiValue digits : Int) else asciiValue digits)

/-- The magnitude below which a float without a fraction counts as an integer, and an integer as a
truth value or none: `2 ^ 63`. -/
def smallLimit : Nat := 9223372036854775808

def integer : Json → Reading Int
  | .bool b => .ok (if b then 1 else 0)
  | .int n => .ok n
  | .float x => match x.toInt? with
    | some n => if n.natAbs < smallLimit then .ok n else .fail .integerTooLong
    | none => .fail .fractional
  | .str s => integerText s
  | _ => .fail .notInteger

/-- A number in ASCII digits: with a point, an exponent, and underscores between digits. -/
def numberText (s : String) : Reading Binary64 :=
  let (negative, body) := Text.splitSign (trimOuter s.toList)
  let mantissa := body.takeWhile fun c => c ≠ 'e' && c ≠ 'E'
  let exponent? : Option Int := match body.drop mantissa.length with
    | [] => some 0
    | _ :: power =>
      let (negative, digits) := Text.splitSign power
      (joinedDigits? digits).map fun ds =>
        if negative then -(asciiValue ds : Int) else asciiValue ds
  let digits (part : List Char) := if part.isEmpty then some [] else joinedDigits? part
  let parts? : Option (List Char × List Char) := match Text.cutChars? '.' mantissa with
    | none => (digits mantissa).map fun whole => (whole, [])
    | some (whole, fraction) => do return (← digits whole, ← digits fraction)
  match parts?, exponent? with
  | some ([], []), _ => .fail .notNumberText
  | some (whole, fraction), some exponent =>
    match Binary64.ofDecimal? negative (asciiValue (whole ++ fraction))
        (exponent - fraction.length) with
    | some x => .ok x
    | none => .fail .notNumberText
  | _, _ => .fail .notNumberText

def number : Json → Reading Binary64
  | .bool b => .ok (if b then ⟨false, Binary64.leadingBit, -52⟩ else Binary64.zero false)
  | .float x => .ok x
  | .int n => match Binary64.ofInt? n with
    | some x => .ok x
    | none => .fail .notNumber
  | .str s => numberText s
  | _ => .fail .notNumber

def trueWords : List String := ["1", "on", "t", "true", "y", "yes"]

def falseWords : List String := ["0", "off", "f", "false", "n", "no"]

/-- A truth value in words of ASCII, of either case. -/
def booleanText (s : String) : Reading Bool :=
  let lower := String.ofList (s.toList.map Char.toLower)
  if lower ∈ trueWords then .ok true
  else if lower ∈ falseWords then .ok false
  else .fail .notBooleanWord

def booleanInteger (n : Int) : Reading Bool :=
  if n = 1 then .ok true
  else if n = 0 then .ok false
  else if n.natAbs < smallLimit then .fail .notBooleanWord
  else .fail .notBoolean

def boolean : Json → Reading Bool
  | .bool b => .ok b
  | .int n => booleanInteger n
  | .float x => match x.toInt? with
    | some n => booleanInteger n
    | none => .fail .notBoolean
  | .str s => booleanText s
  | _ => .fail .notBoolean

end ItemSearch.Schema
