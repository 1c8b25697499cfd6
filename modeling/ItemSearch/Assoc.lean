/-!
Association lists that remember when a key first came. Parameters of a request, members of an
object and aggregations by name are such lists: a key written again keeps its place and takes the
new value (`put`), or keeps the old value too (`putNew`).
-/

namespace ItemSearch.Assoc

variable {α : Type}

/-- The value under `key`, if there is one: the first of its entries. -/
def find? (key : String) : List (String × α) → Option α
  | [] => none
  | (k, v) :: rest => if k = key then some v else find? key rest

/-- Writes `value` under `key`: in the place of an entry that is there, else at the end. -/
def put (key : String) (value : α) : List (String × α) → List (String × α)
  | [] => [(key, value)]
  | (k, v) :: rest => if k = key then (k, value) :: rest else (k, v) :: put key value rest

/-- Writes `value` under `key` unless the key is there already. -/
def putNew (key : String) (value : α) (entries : List (String × α)) : List (String × α) :=
  if (find? key entries).isSome then entries else entries ++ [(key, value)]

/-- The list of the last values, each key where it first came. -/
def ofList (entries : List (String × α)) : List (String × α) :=
  entries.foldl (fun acc e => put e.1 e.2 acc) []

/-- The list of the first values, each key where it first came. -/
def ofListFirst (entries : List (String × α)) : List (String × α) :=
  entries.foldl (fun acc e => putNew e.1 e.2 acc) []

@[simp] theorem find?_nil (key : String) : find? key ([] : List (String × α)) = none := rfl

theorem find?_put (key key' : String) (value : α) (entries : List (String × α)) :
    find? key' (put key value entries) =
      if key = key' then some value else find? key' entries := by
  induction entries with
  | nil => simp [put, find?]
  | cons e rest ih =>
    obtain ⟨k, v⟩ := e
    by_cases hk : k = key
    · subst hk
      by_cases h : k = key' <;> simp [put, find?, h]
    · by_cases h : key = key'
      · subst h
        simp [put, find?, hk, ih]
      · by_cases h' : k = key'
        · have h'' : ¬ key' = key := fun e => h e.symm
          simp [put, find?, h', h'', h]
        · simp [put, find?, hk, h', h, ih]

theorem find?_append (key : String) (xs ys : List (String × α)) :
    find? key (xs ++ ys) = (find? key xs).or (find? key ys) := by
  induction xs with
  | nil => simp
  | cons e rest ih =>
    obtain ⟨k, v⟩ := e
    by_cases h : k = key <;> simp [find?, h, ih]

theorem find?_putNew (key key' : String) (value : α) (entries : List (String × α)) :
    find? key' (putNew key value entries) =
      (find? key' entries).or (if key = key' then some value else none) := by
  unfold putNew
  split
  · next h =>
    by_cases hk : key = key'
    · subst hk
      obtain ⟨v, hv⟩ := Option.isSome_iff_exists.mp h
      simp [hv]
    · simp [hk]
  · simp [find?_append, find?]

theorem find?_eq_none_iff (key : String) (entries : List (String × α)) :
    find? key entries = none ↔ key ∉ entries.map Prod.fst := by
  induction entries with
  | nil => simp
  | cons e rest ih =>
    obtain ⟨k, v⟩ := e
    by_cases h : k = key
    · simp [find?, h]
    · have h' : ¬ key = k := fun e => h e.symm
      simp [find?, h, h', ih]

end ItemSearch.Assoc
