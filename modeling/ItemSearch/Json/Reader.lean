import ItemSearch.Json.Basic
import ItemSearch.Text.Digit
import ItemSearch.Text.Hex

/-!
Reading JSON text. A number with a point or an exponent is a floating-point number, any other an
integer of any size. A repeated member takes its last value.
-/

namespace ItemSearch.Json

/-- Why a text is no JSON. -/
inductive ReadError where
  | unexpectedEnd
  | unexpectedCharacter (c : Char)
  | badEscape
  | badNumber
  | trailingText
  deriving DecidableEq, Repr

def isSpace (c : Char) : Bool := c = ' ' || c = '\t' || c = '\n' || c = '\r'

def skipSpaces (s : List Char) : List Char := s.dropWhile isSpace

/-- Four hexadecimal digits. -/
def readUnit? : List Char → Option (Nat × List Char)
  | a :: b :: c :: d :: rest => do
    let a ← Text.hexValue? a
    let b ← Text.hexValue? b
    let c ← Text.hexValue? c
    let d ← Text.hexValue? d
    return (((a * 16 + b) * 16 + c) * 16 + d, rest)
  | _ => none

/-- The character after `\u`: of one unit, or of a surrogate pair. -/
def readUnicode? (s : List Char) : Option (Char × List Char) := do
  let (n, rest) ← readUnit? s
  if n < 0xD800 ∨ 0xDFFF < n then return (Char.ofNat n, rest)
  else if 0xDBFF < n then none
  else match rest with
    | '\\' :: 'u' :: more =>
      let (m, rest) ← readUnit? more
      if 0xDC00 ≤ m ∧ m ≤ 0xDFFF then
        return (Char.ofNat (0x10000 + (n - 0xD800) * 1024 + (m - 0xDC00)), rest)
      else none
    | _ => none

/-- The rest of a string after its opening quote; `acc` holds what was read, in reverse. -/
def readString : Nat → List Char → List Char → Except ReadError (String × List Char)
  | 0, _, _ => .error .unexpectedEnd
  | _ + 1, _, [] => .error .unexpectedEnd
  | _ + 1, acc, '"' :: rest => .ok (String.ofList acc.reverse, rest)
  | fuel + 1, acc, '\\' :: rest => match rest with
    | '"' :: rest => readString fuel ('"' :: acc) rest
    | '\\' :: rest => readString fuel ('\\' :: acc) rest
    | '/' :: rest => readString fuel ('/' :: acc) rest
    | 'b' :: rest => readString fuel ('\x08' :: acc) rest
    | 'f' :: rest => readString fuel ('\x0c' :: acc) rest
    | 'n' :: rest => readString fuel ('\n' :: acc) rest
    | 'r' :: rest => readString fuel ('\r' :: acc) rest
    | 't' :: rest => readString fuel ('\t' :: acc) rest
    | 'u' :: rest => match readUnicode? rest with
      | some (c, rest) => readString fuel (c :: acc) rest
      | none => .error .badEscape
    | _ => .error .badEscape
  | fuel + 1, acc, c :: rest =>
    if c.toNat < 0x20 then .error (.unexpectedCharacter c) else readString fuel (c :: acc) rest

/-- A number from its parts: sign, digits before the point, digits behind it, and exponent. -/
def numberOf (negative : Bool) (whole : List Char) (fraction? : Option (List Char))
    (exponent? : Option Int) : Except ReadError Json :=
  match fraction?, exponent? with
  | none, none =>
    let n : Int := Text.asciiValue whole
    .ok (.int (if negative then -n else n))
  | _, _ =>
    let fraction := fraction?.getD []
    match Binary64.ofDecimal? negative (Text.asciiValue (whole ++ fraction))
        (exponent?.getD 0 - fraction.length) with
    | some x => .ok (.float x)
    | none => .error .badNumber

/-- A number; the sign is read already. -/
def readNumber (negative : Bool) (s : List Char) : Except ReadError (Json × List Char) := do
  let whole := s.takeWhile Text.isAsciiDigit
  let rest := s.dropWhile Text.isAsciiDigit
  if whole.isEmpty then .error .badNumber
  let (fraction?, rest) := match rest with
    | '.' :: more => (some (more.takeWhile Text.isAsciiDigit), more.dropWhile Text.isAsciiDigit)
    | _ => (none, rest)
  if fraction? = some [] then .error .badNumber
  let (exponent?, rest) ← match rest with
    | c :: more =>
      if c = 'e' ∨ c = 'E' then do
        let (minus, more) := Text.splitSign more
        let ds := more.takeWhile Text.isAsciiDigit
        if ds.isEmpty then .error .badNumber
        let n : Int := Text.asciiValue ds
        pure (some (if minus then -n else n), more.dropWhile Text.isAsciiDigit)
      else pure (none, rest)
    | [] => pure (none, rest)
  let v ← numberOf negative whole fraction? exponent?
  return (v, rest)

mutual
def readValue : Nat → List Char → Except ReadError (Json × List Char)
  | 0, _ => .error .unexpectedEnd
  | fuel + 1, s => match skipSpaces s with
    | [] => .error .unexpectedEnd
    | '"' :: rest => do
      let (t, rest) ← readString fuel [] rest
      return (.str t, rest)
    | '[' :: rest => match skipSpaces rest with
      | ']' :: rest => .ok (.arr [], rest)
      | rest => do
        let (items, rest) ← readItems fuel rest
        return (.arr items, rest)
    | '\x7b' :: rest => match skipSpaces rest with
      | '\x7d' :: rest => .ok (.obj [], rest)
      | rest => do
        let (members, rest) ← readMembers fuel rest
        return (object members, rest)
    | 'n' :: 'u' :: 'l' :: 'l' :: rest => .ok (.null, rest)
    | 't' :: 'r' :: 'u' :: 'e' :: rest => .ok (.bool true, rest)
    | 'f' :: 'a' :: 'l' :: 's' :: 'e' :: rest => .ok (.bool false, rest)
    | '-' :: rest => readNumber true rest
    | c :: rest =>
      if Text.isAsciiDigit c then readNumber false (c :: rest) else .error (.unexpectedCharacter c)

/-- The items of an array up to its end. -/
def readItems : Nat → List Char → Except ReadError (List Json × List Char)
  | 0, _ => .error .unexpectedEnd
  | fuel + 1, s => do
    let (v, rest) ← readValue fuel s
    match skipSpaces rest with
    | ',' :: rest => do
      let (vs, rest) ← readItems fuel rest
      return (v :: vs, rest)
    | ']' :: rest => return ([v], rest)
    | [] => .error .unexpectedEnd
    | c :: _ => .error (.unexpectedCharacter c)

/-- The members of an object up to its end. -/
def readMembers : Nat → List Char → Except ReadError (List (String × Json) × List Char)
  | 0, _ => .error .unexpectedEnd
  | fuel + 1, s => match skipSpaces s with
    | '"' :: rest => do
      let (key, rest) ← readString fuel [] rest
      match skipSpaces rest with
      | ':' :: rest => do
        let (v, rest) ← readValue fuel rest
        match skipSpaces rest with
        | ',' :: rest => do
          let (more, rest) ← readMembers fuel rest
          return ((key, v) :: more, rest)
        | '\x7d' :: rest => return ([(key, v)], rest)
        | [] => .error .unexpectedEnd
        | c :: _ => .error (.unexpectedCharacter c)
      | [] => .error .unexpectedEnd
      | c :: _ => .error (.unexpectedCharacter c)
    | [] => .error .unexpectedEnd
    | c :: _ => .error (.unexpectedCharacter c)
end

/-- The value that a text denotes. At most two steps of the reader fall to a character, so the
length of the text bounds their number. -/
def read (text : String) : Except ReadError Json := do
  let s := text.toList
  let (v, rest) ← readValue (2 * s.length + 2) s
  if (skipSpaces rest).isEmpty then return v else .error .trailingText

end ItemSearch.Json
