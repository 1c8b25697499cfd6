import ItemSearch.Text.Blank
import ItemSearch.Text.Digit
import ItemSearch.Text.Split

/-!
The outer parts of a URL: its scheme, the user in front of its host, and what readers of URLs pass
over, which is blanks and control characters at the ends and tabs and line breaks anywhere.
-/

namespace ItemSearch.Url

def isLetter (c : Char) : Bool := ('a' ≤ c && c ≤ 'z') || ('A' ≤ c && c ≤ 'Z')

def isSchemeChar (c : Char) : Bool :=
  isLetter c || Text.isAsciiDigit c || c = '+' || c = '-' || c = '.'

/-- A scheme, in lower case, and what follows its colon. -/
def scheme? (s : List Char) : Option (String × List Char) :=
  match Text.cutChars? ':' s with
  | some (name, rest) =>
    if name.head?.any isLetter && name.all isSchemeChar then
      some (String.ofList (name.map Char.toLower), rest)
    else none
  | none => none

/-- What is passed over at the ends. -/
def isControlOrSpace (c : Char) : Bool := c.toNat ≤ 0x20

def isTabOrBreak (c : Char) : Bool := c = '\t' || c = '\n' || c = '\r'

/-- The text without what is passed over at its ends. -/
def trimmed (s : List Char) : List Char :=
  Text.dropRight isControlOrSpace (s.dropWhile isControlOrSpace)

/-- The user information before the last `@`, if there is one, and what follows it. -/
def cutUser (authority : List Char) : Option (List Char) × List Char :=
  match (Text.cutChars? '@' authority.reverse) with
  | some (after, before) => (some before.reverse, after.reverse)
  | none => (none, authority)

end ItemSearch.Url
