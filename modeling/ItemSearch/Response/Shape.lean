import ItemSearch.Schema.Number

/-!
Taking apart the answers of the search backend. They are plain JSON, so each step may find a value
of another shape than it needs; the errors say which.
-/

namespace ItemSearch

/-- How an answer of the backend is not what it has to be. -/
inductive ShapeError where
  /-- an object without a member that it must have -/
  | missingMember (key : String)
  /-- members are looked for in a value that is no object -/
  | noMembers
  /-- a value without parts is taken apart, or a list by name -/
  | noParts
  /-- members that do not fit their types -/
  | misfit (first : Schema.Problem) (others : List Schema.Problem)
  deriving DecidableEq, Repr

abbrev Shaped := Except ShapeError

namespace Shaped

def ofReading {α : Type} : Schema.Reading α → Shaped α
  | .ok a => .ok a
  | .problems p ps => .error (.misfit p ps)

/-- The member that has to be there. -/
def member (key : String) : Json → Shaped Json
  | .obj members => match Assoc.find? key members with
    | some v => .ok v
    | none => .error (.missingMember key)
  | _ => .error .noParts

/-- The member, if it is there. -/
def member? (key : String) : Json → Shaped (Option Json)
  | .obj members => .ok (Assoc.find? key members)
  | _ => .error .noMembers

/-- The parts of a value one after the other: items, characters, or names of members. -/
def parts : Json → Shaped (List Json)
  | .arr items => .ok items
  | .str s => .ok (s.toList.map fun c => .str c.toString)
  | .obj members => .ok (members.map fun m => .str m.1)
  | _ => .error .noParts

/-- How many parts a value has. -/
def size (v : Json) : Shaped Nat := do return (← parts v).length

/-- Whether a value has the key among its parts; a text has it if it occurs in it. -/
def mentions (key : String) : Json → Shaped Bool
  | .obj members => .ok (Assoc.find? key members).isSome
  | .arr items => .ok (items.contains (.str key))
  | .str s => .ok (Text.occurs key.toList s.toList)
  | _ => .error .noParts

end Shaped

end ItemSearch
