import ItemSearch.Registry.Basic
import ItemSearch.Request.Basic
import ItemSearch.Text.Decimal
import ItemSearch.Text.Numeral
import ItemSearch.Text.Split
import ItemSearch.Url.Check

/-!
The rules that values of parameters obey, one function for each. A rule gives the value back, or
says which rule it breaks.
-/

namespace ItemSearch

/-- A rule that a parameter breaks. -/
inductive Violation where
  | textLength (param : String)
  | dateForm (param : String)
  | notUrl (param : String)
  | notBoolean (param : String)
  | notOperator (param : String)
  | notSortOrder (param : String)
  | integerRange (param : String) (least greatest : Int)
  | identifierForm
  | unknownField (name : String)
  | noExactMatch (name : String)
  | filterForm (expression : String)
  | filterField (name : String)
  | listEntry (entry param : String)
  | notSortable (name : String)
  | sortConflict (conflict : SortConflict)
  deriving DecidableEq, Repr

/-- A rule is broken, or there are too many digits to read a numeral or to write a bound. The latter
is no fault that is explained to the caller. -/
inductive Refusal where
  | violation (v : Violation)
  | tooManyDigits (e : Text.TooManyDigits)
  deriving DecidableEq, Repr

def leastTextLength : Nat := 2
def greatestTextLength : Nat := 200
def identifierLength : Nat := 32

namespace Violation

def message : Violation → String
  | .textLength param =>
    param ++ " must be between " ++ Text.decimal leastTextLength ++ " and " ++
      Text.decimal greatestTextLength ++ " characters"
  | .dateForm param => param ++ " must be in the form YYYY or YYYY-MM or YYYY-MM-DD"
  | .notUrl param => param ++ " must be a valid URL"
  | .notBoolean param => param ++ " must be 'true' or 'false'"
  | .notOperator param => param ++ " must be 'AND' or 'OR'"
  | .notSortOrder param => param ++ " must be 'asc' or 'desc'"
  | .integerRange param least greatest =>
    param ++ " must be an integer between " ++ Text.decimal least ++ " and " ++
      Text.decimal greatest
  | .identifierForm =>
    "ID must be a String comprised of letters and numbers, and 32 characters long"
  | .unknownField name => "Unrecognized parameter: " ++ name
  | .noExactMatch name => name ++ " does not support exact_field_match"
  | .filterForm expression => expression ++ " is not a valid filter"
  | .filterField name => name ++ " is not a valid filter field"
  | .listEntry entry param => "'" ++ entry ++ "' is not an allowable value for '" ++ param ++ "'"
  | .notSortable name => "'" ++ name ++ "' is not an allowable value for sort_by"
  | .sortConflict conflict => conflict.message

end Violation

/-- A text that passed, or what it is refused for. -/
abbrev Checked := Except Refusal

def refuse {α : Type} (v : Violation) : Checked α := .error (.violation v)

namespace Rule

/-- Text of 2 to 200 characters. -/
def text (param value : String) : Checked String :=
  let n := value.toList.length
  if leastTextLength ≤ n ∧ n ≤ greatestTextLength then .ok value
  else refuse (.textLength param)

/-- Whether the characters are this many digits, of any script. -/
def areDigits (n : Nat) (s : List Char) : Bool := s.length = n && s.all Text.isDigit

/-- Four digits, or two more behind a dash, or again two more behind a dash. -/
def isDateChars (s : List Char) : Bool :=
  match Text.splitChars '-' s with
  | [y] => areDigits 4 y
  | [y, m] => areDigits 4 y && areDigits 2 m
  | [y, m, d] => areDigits 4 y && areDigits 2 m && areDigits 2 d
  | _ => false

def date (param value : String) : Checked String :=
  if isDateChars value.toList then .ok value else refuse (.dateForm param)

/-- The text between quotation marks, where the text has one at either end. -/
def unquoted (s : List Char) : List Char :=
  match s with
  | '"' :: rest =>
    match rest.reverse with
    | '"' :: inner => inner.reverse
    | _ => s
  | _ => s

/-- A URL. It may stand between quotation marks, which stay in the value. -/
def url (urls : Url.Check) (param value : String) : Checked String :=
  if urls.accepts (unquoted value.toList) then .ok value else refuse (.notUrl param)

def boolean (param value : String) : Checked Bool :=
  if value = "true" then .ok true
  else if value = "false" then .ok false
  else refuse (.notBoolean param)

def operator (param value : String) : Checked Operator :=
  if value = "AND" then .ok .and
  else if value = "OR" then .ok .or
  else refuse (.notOperator param)

def sortOrder (param value : String) : Checked SortOrder :=
  if value = "asc" then .ok .asc
  else if value = "desc" then .ok .desc
  else refuse (.notSortOrder param)

/-- A numeral, in the digits of any script, of an integer within bounds. What is said of a text that
is refused is written first, whatever the text is, and it names the bounds. -/
def integer (least greatest : Int) (param value : String) : Checked Int :=
  if Text.IsWritable least ∧ Text.IsWritable greatest then
    match Text.readNumeral value with
    | .malformed => refuse (.integerRange param least greatest)
    | .tooLong digits => .error (.tooManyDigits (.read digits))
    | .value n =>
      if least ≤ n ∧ n ≤ greatest then .ok n else refuse (.integerRange param least greatest)
  else .error (.tooManyDigits .written)

def isAlphanumeric (c : Char) : Bool :=
  ('a' ≤ c && c ≤ 'z') || ('A' ≤ c && c ≤ 'Z') || ('0' ≤ c && c ≤ '9')

/-- Whether the text is 32 letters and digits of ASCII. -/
def isIdentifier (value : String) : Bool :=
  value.toList.length = identifierLength && value.toList.all isAlphanumeric

def identifier (value : String) : Checked String :=
  if isIdentifier value then .ok value else refuse .identifierForm

/-- Whether the text has the shape of a key: 32 letters, digits and dashes of ASCII. -/
def isApiKey (value : String) : Bool :=
  value.toList.length = identifierLength &&
    value.toList.all fun c => isAlphanumeric c || c = '-'

/-- The rules for the values of fields. -/
inductive ValueRule where
  | text
  | date
  | url
  deriving DecidableEq, Repr

def ValueRule.check (urls : Url.Check) : ValueRule → String → String → Checked String
  | .text => Rule.text
  | .date => Rule.date
  | .url => Rule.url urls

/-- The rule that the values of a type obey. -/
def forType : FieldType → ValueRule
  | .url => .url
  | .date => .date
  | .text | .wildcard | .coordinates => .text

/-- The rule that the values of a field obey. -/
def forField (registry : Registry) (name : String) : Checked ValueRule :=
  match registry.type? name with
  | some type => .ok (forType type)
  | none => refuse (.unknownField name)

end Rule

end ItemSearch
