import ItemSearch.Json.Basic
import ItemSearch.Text.Split

/-!
Projecting documents onto dotted paths. In the index a single value and a list of one value are
the same, so a list of one item counts as that item; a longer list ends the path, whatever is left
of it.
-/

namespace ItemSearch

/-- What a value counts as: a list of one item as the item, and anything else as itself. Null, or
null or a list as the only item, counts as nothing. -/
def settled? : Json → Option Json
  | .null | .arr [.null] | .arr [.arr _] => none
  | .arr [item] => some item
  | v => some v

/-- The value at a path, if there is one: an object, a scalar, or a list that is not of length
one. -/
def readPath : (path : List String) → Json → Option Json
  | [], _ => none
  | key :: rest, parent =>
    match (parent.member? key).bind settled? with
    | none => none
    | some (.arr items) => some (.arr items)
    | some v => if rest = [] then some v else readPath rest v

/-- The segments of a dotted path. -/
def segments (field : String) : List String := Text.splitOn '.' field

/-- The values of those fields that the document has, under the names of the fields. -/
def project (document : Json) (fields : List String) : Json :=
  .obj (Assoc.ofList (fields.filterMap fun field =>
    (readPath (segments field) document).map fun v => (field, v)))

end ItemSearch
