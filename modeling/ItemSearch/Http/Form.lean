import ItemSearch.Request.RawParams
import ItemSearch.Text.Percent

/-!
Query strings in the format of forms: pairs between ampersands, a plus sign for a blank, and
percent-encoded bytes. Of a repeated name the first value counts.
-/

namespace ItemSearch.Http.Form

/-- A name or a value as it was before it was put into the form. -/
def decode (s : List Char) : List Char :=
  Text.Percent.decodeText (s.map fun c => if c = '+' then ' ' else c)

/-- A name and its value. Without an equals sign the value is empty. -/
def pair (s : List Char) : String × String :=
  let (name, value) := (Text.cutChars? '=' s).getD (s, [])
  (String.ofList (decode name), String.ofList (decode value))

/-- All pairs in their order. Nothing between two ampersands is no pair. -/
def pairs (query : String) : List (String × String) :=
  ((Text.splitChars '&' query.toList).filter fun piece => !piece.isEmpty).map pair

/-- The parameters of a request. -/
def rawParams (query : String) : RawParams := Assoc.ofListFirst (pairs query)

end ItemSearch.Http.Form
