import ItemSearch.Text.Decimal

/-!
Finite binary floating-point numbers of double precision, as exact dyadic numbers. Reading a
decimal takes the nearest such number, a tie going to the even one; writing takes the fewest
decimal digits that read back to the number and, of those, the nearest to it.
-/

namespace ItemSearch

/-- The number `± mantissa * 2 ^ exponent`. A mantissa below `2 ^ 52` goes with the least exponent
only, so no number but zero has two forms, and zero has a sign. -/
structure Binary64 where
  negative : Bool
  mantissa : Nat
  exponent : Int
  deriving DecidableEq, Repr

namespace Binary64

/-- The power `2 ^ k`. -/
def twoTo (k : Nat) : Nat := Nat.pow 2 k

/-- The power `10 ^ k`. -/
def tenTo (k : Nat) : Nat := Nat.pow 10 k

/-- The least mantissa that is not tied to the least exponent: `2 ^ 52`. -/
def leadingBit : Nat := 4503599627370496

/-- The exponent of the smallest positive number. -/
def leastExponent : Int := -1074

/-- The exponent of the largest number. -/
def greatestExponent : Int := 971

def zero (negative : Bool) : Binary64 := ⟨negative, 0, leastExponent⟩

/-- The quotient rounded to the nearest integer, a tie going to the even one. -/
def divNearest (num den : Nat) : Nat :=
  let q := num / den
  let r := num % den
  if 2 * r < den then q
  else if den < 2 * r then q + 1
  else if q % 2 = 0 then q else q + 1

/-- The quotient `num / den / 2 ^ e` as a numerator and a denominator. -/
def scaleDown (num den : Nat) (e : Int) : Nat × Nat :=
  if 0 ≤ e then (num, den * twoTo e.toNat) else (num * twoTo (-e).toNat, den)

/-- The exponent for which the quotient has 53 bits before the point, but not less than the least
one. -/
def exponentFor (num den : Nat) : Int :=
  let guess : Int := (Nat.log2 num : Int) - Nat.log2 den - 52
  let (n, d) := scaleDown num den guess
  let exact := if n / d < leadingBit then guess - 1 else guess
  max leastExponent exact

/-- The number nearest to `± num / den`, or `none` where that is too large. -/
def ofRatio? (negative : Bool) (num den : Nat) : Option Binary64 :=
  if num = 0 then some (zero negative)
  else
    let e := exponentFor num den
    let (n, d) := scaleDown num den e
    let m := divNearest n d
    let (m, e) := if m = 2 * leadingBit then (leadingBit, e + 1) else (m, e)
    if greatestExponent < e then none else some ⟨negative, m, e⟩

/-- The number nearest to `± digits * 10 ^ scale`. Scales far outside the range are decided
without computing the power. -/
def ofDecimal? (negative : Bool) (digits : Nat) (scale : Int) : Option Binary64 :=
  if digits = 0 then some (zero negative)
  else
    let size : Int := (Text.decimalDigits digits).length + scale
    if size < -400 then some (zero negative)
    else if 400 < size then none
    else if 0 ≤ scale then ofRatio? negative (digits * tenTo scale.toNat) 1
    else ofRatio? negative digits (tenTo (-scale).toNat)

def ofInt? (n : Int) : Option Binary64 := ofRatio? (decide (n < 0)) n.natAbs 1

/-- The integer that the number is, if it is one. -/
def toInt? (x : Binary64) : Option Int :=
  let magnitude? : Option Nat :=
    if 0 ≤ x.exponent then some (x.mantissa * twoTo x.exponent.toNat)
    else
      let unit := twoTo (-x.exponent).toNat
      if x.mantissa % unit = 0 then some (x.mantissa / unit) else none
  magnitude?.map fun n => if x.negative then -(n : Int) else n

def isZero (x : Binary64) : Bool := x.mantissa = 0

/-! ### Shortest decimals

All positions on the number line are counted in quarters of the number's last binary place, so
the bounds of the interval that reads back to the number are integers too. -/

/-- The last place, divided by four, as a numerator and a denominator. -/
def quarterPlace (x : Binary64) : Nat × Nat :=
  let e := x.exponent - 2
  if 0 ≤ e then (twoTo e.toNat, 1) else (1, twoTo (-e).toNat)

/-- The power `10 ^ k` as a numerator and a denominator. -/
def powerOfTen (k : Int) : Nat × Nat :=
  if 0 ≤ k then (tenTo k.toNat, 1) else (1, tenTo (-k).toNat)

/-- The bounds of the reals that read back to the number, in quarter places. Below a power of two
the places are half as wide. -/
def bounds (x : Binary64) : Nat × Nat :=
  let m := 4 * x.mantissa
  let narrow := x.mantissa = leadingBit ∧ leastExponent < x.exponent
  (if narrow then m - 1 else m - 2, m + 2)

/-- The number of decimal digits before the point of a magnitude `num / den`; for one below `1`,
minus the number of zeros right behind the point. -/
def decimalMagnitude (num den : Nat) : Int :=
  if den ≤ num then (Text.decimalDigits (num / den)).length
  else
    match (List.range 400).find? fun j => decide (den ≤ num * tenTo (j + 1)) with
    | some j => -(j : Int)
    | none => -400

/-- The best multiple of `10 ^ k` that reads back to `x`, counted in that unit: the nearer of the
two neighbours of `x`, and of two equally near the even one. -/
def onGrid? (x : Binary64) (k : Int) : Option Nat :=
  let (p, q) := x.quarterPlace
  let (a, b) := powerOfTen k
  -- `t` units against `y` quarter places: `t * (a * q)` against `y * (p * b)`
  let unit := a * q
  let place := p * b
  let (lo, hi) := x.bounds
  let reads (t : Nat) : Bool :=
    if x.mantissa % 2 = 0 then lo * place ≤ t * unit && t * unit ≤ hi * place
    else lo * place < t * unit && t * unit < hi * place
  let exact := 4 * x.mantissa * place
  let below := exact / unit
  let above := below + 1
  match reads below, reads above with
  | false, false => none
  | true, false => some below
  | false, true => some above
  | true, true =>
    let dBelow := exact - below * unit
    let dAbove := above * unit - exact
    some (if dBelow < dAbove then below
      else if dAbove < dBelow then above
      else if below % 2 = 0 then below else above)

/-- Digits without zeros at the end, and the power of ten of the last one. -/
def dropZeros : Nat → Nat → Int → Nat × Int
  | 0, n, k => (n, k)
  | fuel + 1, n, k => if n % 10 = 0 ∧ n ≠ 0 then dropZeros fuel (n / 10) (k + 1) else (n, k)

/-- The shortest decimal `digits * 10 ^ scale` that reads back to the magnitude of `x`. -/
def shortest (x : Binary64) : Nat × Int :=
  if x.mantissa = 0 then (0, 0)
  else
    let (p, q) := x.quarterPlace
    let size := decimalMagnitude (4 * x.mantissa * p) q
    let found := (List.range 17).findSome? fun (n : Nat) =>
      let k : Int := size - (n : Int) - 1
      (x.onGrid? k).map fun t => (t, k)
    match found with
    | some (t, k) => dropZeros 20 t k
    | none => (0, 0)

/-- The decimal exponents that are written positionally. -/
def positional (e : Int) : Bool := -4 ≤ e && e < 16

def zeros (n : Nat) : List Char := List.replicate n '0'

/-- A floating-point number as text: positional notation from `0.0001` up to below `1e16`, with a
point in any case, and scientific notation with an exponent of at least two digits otherwise. -/
def renderChars (x : Binary64) : List Char :=
  let (digits, scale) := x.shortest
  let ds := Text.natDecimalChars digits
  let e : Int := ds.length + scale - 1
  let body :=
    if positional e then
      if 0 ≤ scale then ds ++ zeros scale.toNat ++ ['.', '0']
      else if 0 ≤ e then
        let whole := (e + 1).toNat
        ds.take whole ++ '.' :: ds.drop whole
      else '0' :: '.' :: zeros (-e - 1).toNat ++ ds
    else
      let mantissa := match ds with
        | [] => []
        | [d] => [d]
        | d :: rest => d :: '.' :: rest
      let power := Text.natDecimalChars e.natAbs
      let power := if power.length < 2 then '0' :: power else power
      mantissa ++ 'e' :: (if e < 0 then '-' else '+') :: power
  if x.negative then '-' :: body else body

def render (x : Binary64) : String := String.ofList x.renderChars

end Binary64

end ItemSearch
