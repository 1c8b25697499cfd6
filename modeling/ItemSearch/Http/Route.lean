import ItemSearch.Text.Percent
import ItemSearch.Text.Blank

/-!
The paths of the service. Paths are looked up as they are; one that would be known without the
slashes at its end, or with one more, leads there by a redirection.
-/

namespace ItemSearch.Http

inductive Route where
  | health
  | ready
  | search
  /-- items by their identifiers, as they stand in the path -/
  | fetch (ids : String)
  | random
  /-- what the process measures about itself -/
  | metrics
  deriving DecidableEq, Repr

namespace Route

/-- The routes with a path of their own. -/
def fixed : List (String × Route) :=
  [("/v2/health", .health), ("/v2/health/ready", .ready), ("/v2/items", .search),
   ("/v2/random", .random)]

/-- The text without a line break at its end. -/
def dropFinalBreak (s : List Char) : List Char :=
  if s.getLast? = some '\n' then s.dropLast else s

/-- What follows the front of a text. -/
def after? (front : String) (s : List Char) : Option (List Char) :=
  if front.toList.isPrefixOf s then some (s.drop front.toList.length) else none

/-- The identifiers in a path: one segment that is not empty. -/
def ids? (path : List Char) : Option String :=
  match after? "/v2/items/" path with
  | some ids => if ids.isEmpty || ids.contains '/' then none else some (String.ofList ids)
  | none => none

/-- The route of a path. A line break at its end makes no difference to a fixed path. -/
def of? (path : List Char) : Option Route :=
  match fixed.find? fun p => p.1.toList = dropFinalBreak path with
  | some p => some p.2
  | none => match ids? path with
    | some ids => some (.fetch ids)
    | none => match after? "/metrics/" (dropFinalBreak path) with
      | some rest => if rest.contains '\n' then none else some .metrics
      | none => none

/-- The known path that an unknown one leads to. -/
def redirection? (path : List Char) : Option (List Char) :=
  if path = ['/'] then none
  else
    let other :=
      if path.getLast? = some '/' then Text.dropRight (· = '/') path else path ++ ['/']
    if (of? other).isSome then some other else none

end Route

/-- The characters of a URL that are not encoded in a location. -/
def staysInLocation (c : Char) : Bool :=
  ('a' ≤ c && c ≤ 'z') || ('A' ≤ c && c ≤ 'Z') || ('0' ≤ c && c ≤ '9') ||
    "_.-~:/%#?=@[]!$&'()*+,;".toList.contains c

/-- The URL of a path and a query on a host, with all characters encoded that have no place in a
URL. -/
def location (host : String) (path : List Char) (query : String) : String :=
  let query := if query = "" then [] else '?' :: query.toList
  let url := "http://".toList ++ host.toList ++ path ++ query
  String.ofList (Text.Percent.encode staysInLocation url)

end ItemSearch.Http
