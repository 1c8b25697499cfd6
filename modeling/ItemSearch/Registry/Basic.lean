/-!
The fields of the public search interface and where the index keeps them. A registry is a list of
fields with distinct names, one of which holds the coordinates of an item and one its identifier;
`Registry.build` checks this, so every registry has it.
-/

namespace ItemSearch

/-- What a field holds; it decides which rule the values of the field obey. -/
inductive FieldType where
  | text
  | url
  | date
  | wildcard
  | coordinates
  deriving DecidableEq, Repr

structure Field where
  name : String
  backendPath : String
  exactMatchPath : Option String := none
  nonAnalyzedPath : Option String := none
  type : FieldType := .text
  searchable : Bool := false
  sortable : Bool := false
  facetable : Bool := false
  retrievable : Bool := true
  deriving DecidableEq, Repr

/-- The path for comparing whole values: the exact-match path, or the non-analyzed path where the
former is missing or empty. -/
def Field.wholeValuePath? (f : Field) : Option String :=
  match f.exactMatchPath with
  | some path => if path = "" then f.nonAnalyzedPath else some path
  | none => f.nonAnalyzedPath

structure Registry where
  fields : List Field
  coordinates : Field
  identifier : Field
  nodup : (fields.map Field.name).Nodup
  coordinates_mem : coordinates ∈ fields
  identifier_mem : identifier ∈ fields

/-- Why a list of fields makes no registry. -/
inductive RegistryError where
  | duplicateName (name : String)
  | missingCoordinates (name : String)
  | missingIdentifier (name : String)
  deriving DecidableEq, Repr

def RegistryError.message : RegistryError → String
  | .duplicateName name => "Duplicate field name in registry: " ++ name
  | .missingCoordinates name => "Coordinates field " ++ name ++ " is not registered"
  | .missingIdentifier name => "Identifier field " ++ name ++ " is not registered"

/-- The first name that stands in `seen` or earlier in the list. -/
def firstRepeated? (seen : List String) : List String → Option String
  | [] => none
  | n :: ns => if n ∈ seen then some n else firstRepeated? (n :: seen) ns

theorem firstRepeated?_eq_none_iff (seen names : List String) :
    firstRepeated? seen names = none ↔ names.Nodup ∧ ∀ n ∈ names, n ∉ seen := by
  induction names generalizing seen with
  | nil => simp [firstRepeated?]
  | cons n ns ih =>
    by_cases h : n ∈ seen
    · simp [firstRepeated?, h]
    · simp only [firstRepeated?, h, if_false, ih, List.nodup_cons, List.mem_cons, not_or]
      constructor
      · rintro ⟨hd, hs⟩
        refine ⟨⟨fun hn => (hs n hn).1 rfl, hd⟩, ?_⟩
        rintro m (rfl | hm)
        · exact h
        · exact (hs m hm).2
      · rintro ⟨⟨hn, hd⟩, hs⟩
        exact ⟨hd, fun m hm => ⟨fun e => hn (e ▸ hm), hs m (Or.inr hm)⟩⟩

namespace Registry

/-- The first field of that name in a list. -/
def fieldIn? (fields : List Field) (name : String) : Option Field :=
  fields.find? fun f => f.name = name

theorem fieldIn?_mem {fields : List Field} {name : String} {f : Field}
    (h : fieldIn? fields name = some f) : f ∈ fields :=
  List.mem_of_find?_eq_some h

/-- The registry of these fields. A repeated name is reported first, then a missing coordinates
field, then a missing identifier. -/
def build (fields : List Field) (coordinates identifier : String) :
    Except RegistryError Registry :=
  match hd : firstRepeated? [] (fields.map Field.name) with
  | some name => .error (.duplicateName name)
  | none =>
    match hc : fieldIn? fields coordinates with
    | none => .error (.missingCoordinates coordinates)
    | some c =>
      match hi : fieldIn? fields identifier with
      | none => .error (.missingIdentifier identifier)
      | some i => .ok
        { fields := fields
          coordinates := c
          identifier := i
          nodup := ((firstRepeated?_eq_none_iff [] _).mp hd).1
          coordinates_mem := fieldIn?_mem hc
          identifier_mem := fieldIn?_mem hi }

variable (r : Registry)

def find? (name : String) : Option Field := fieldIn? r.fields name

def type? (name : String) : Option FieldType := (r.find? name).map Field.type

def backendPath? (name : String) : Option String := (r.find? name).map Field.backendPath

def wholeValuePath? (name : String) : Option String := (r.find? name).bind Field.wholeValuePath?

def nonAnalyzedPath? (name : String) : Option String := (r.find? name).bind Field.nonAnalyzedPath

def contains (name : String) : Bool := (r.find? name).isSome

def isSearchable (name : String) : Bool := (r.find? name).any Field.searchable

def isSortable (name : String) : Bool := (r.find? name).any Field.sortable

def isFacetable (name : String) : Bool := (r.find? name).any Field.facetable

def isRetrievable (name : String) : Bool := (r.find? name).any Field.retrievable

/-- The names of the searchable fields, in the order of the registry. -/
def searchableNames : List String := (r.fields.filter Field.searchable).map Field.name

/-- The names of the date fields, in the order of the registry. -/
def dateNames : List String :=
  (r.fields.filter fun f => decide (f.type = .date)).map Field.name

def size : Nat := r.fields.length

end Registry

end ItemSearch
