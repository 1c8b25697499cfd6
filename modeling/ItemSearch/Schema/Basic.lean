import ItemSearch.Json.Basic
import ItemSearch.Text.Decimal
import ItemSearch.Text.Split

/-!
Reading values of known types out of JSON. A reading either succeeds or lists every place where
the JSON does not fit, in the order of the fields; so readings of several fields go together as
an applicative functor and not as a monad.
-/

namespace ItemSearch.Schema

/-- A step from a value to one inside it. -/
inductive Step where
  | field (name : String)
  | index (n : Nat)
  deriving DecidableEq, Repr

/-- How a value does not fit. -/
inductive Mismatch where
  | missing
  | notText
  | notInteger
  | fractional
  | notIntegerText
  | integerTooLong
  | notNumber
  | notNumberText
  | notBoolean
  | notBooleanWord
  | notList
  | notRecord (name : String)
  /-- none of these words -/
  | notWord (allowed : List String)
  /-- none of these kinds -/
  | notKind (allowed : List String)
  /-- the parts fit, but not together -/
  | conflict (message : String)
  deriving DecidableEq, Repr

/-- Words between quotation marks, the last two joined by `or`. -/
def alternatives : List String → String
  | [] => ""
  | [w] => "'" ++ w ++ "'"
  | [v, w] => "'" ++ v ++ "' or '" ++ w ++ "'"
  | w :: rest => "'" ++ w ++ "', " ++ alternatives rest

/-- What is wrong, in words. -/
def Mismatch.message : Mismatch → String
  | .missing => "Field required"
  | .notText => "Input should be a valid string"
  | .notInteger => "Input should be a valid integer"
  | .fractional => "Input should be a valid integer, got a number with a fractional part"
  | .notIntegerText =>
    "Input should be a valid integer, unable to parse string as an integer"
  | .integerTooLong => "Unable to parse input string as an integer, exceeded maximum size"
  | .notNumber => "Input should be a valid number"
  | .notNumberText => "Input should be a valid number, unable to parse string as a number"
  | .notBoolean => "Input should be a valid boolean"
  | .notBooleanWord => "Input should be a valid boolean, unable to interpret input"
  | .notList => "Input should be a valid list"
  | .notRecord name => "Input should be a valid dictionary or instance of " ++ name
  | .notWord allowed | .notKind allowed => "Input should be " ++ alternatives allowed
  | .conflict message => message

/-- A mismatch and where it is. -/
structure Problem where
  path : List Step
  mismatch : Mismatch
  deriving DecidableEq, Repr

def Problem.under (step : Step) (p : Problem) : Problem := { p with path := step :: p.path }

/-- A value, or all the problems that stand against it. -/
inductive Reading (α : Type) where
  | ok (value : α)
  | problems (first : Problem) (others : List Problem)
  deriving DecidableEq, Repr

namespace Reading

variable {α β : Type}

def fail (m : Mismatch) : Reading α := .problems ⟨[], m⟩ []

def map (f : α → β) : Reading α → Reading β
  | .ok a => .ok (f a)
  | .problems p ps => .problems p ps

/-- Both readings. The problems of the first come first. -/
def ap (f : Reading (α → β)) (x : Reading α) : Reading β :=
  match f, x with
  | .ok f, .ok a => .ok (f a)
  | .ok _, .problems q qs => .problems q qs
  | .problems p ps, .ok _ => .problems p ps
  | .problems p ps, .problems q qs => .problems p (ps ++ q :: qs)

instance : Applicative Reading where
  pure := .ok
  map := map
  seq f x := ap f (x ())

/-- A reading of what stands at a step. -/
def under (step : Step) : Reading α → Reading α
  | .ok a => .ok a
  | .problems p ps => .problems (p.under step) (ps.map (Problem.under step))

/-- A reading and another one that depends on its value. -/
def andThen (x : Reading α) (f : α → Reading β) : Reading β :=
  match x with
  | .ok a => f a
  | .problems p ps => .problems p ps

/-- The readings of items with their places in a list. -/
def collectFrom (n : Nat) (f : Json → Reading α) : List Json → Reading (List α)
  | [] => .ok []
  | v :: vs => List.cons <$> under (.index n) (f v) <*> collectFrom (n + 1) f vs

end Reading

/-! ### Types -/

def text : Json → Reading String
  | .str s => .ok s
  | _ => .fail .notText

def list {α : Type} (f : Json → Reading α) : Json → Reading (List α)
  | .arr items => Reading.collectFrom 0 f items
  | _ => .fail .notList

/-- A value that may be null. -/
def nullable {α : Type} (f : Json → Reading α) : Json → Reading (Option α)
  | .null => .ok none
  | v => some <$> f v

/-- One of several words. -/
def word {α : Type} (wording : List (String × α)) (m : List String → Mismatch) (v : Json) :
    Reading α :=
  let found? := match v with
    | .str s => Assoc.find? s wording
    | _ => none
  match found? with
  | some a => .ok a
  | none => .fail (m (wording.map Prod.fst))

/-- A member that has to be there. -/
def required {α : Type} (members : List (String × Json)) (name : String)
    (f : Json → Reading α) : Reading α :=
  Reading.under (.field name) (match Assoc.find? name members with
    | some v => f v
    | none => .fail .missing)

/-- A member that has a default. -/
def optional {α : Type} (members : List (String × Json)) (name : String)
    (f : Json → Reading α) (default : α) : Reading α :=
  match Assoc.find? name members with
  | some v => Reading.under (.field name) (f v)
  | none => .ok default

/-- The members of a record of that name. -/
def record {α : Type} (name : String) (f : List (String × Json) → Reading α) :
    Json → Reading α
  | .obj members => f members
  | _ => .fail (.notRecord name)

end ItemSearch.Schema
