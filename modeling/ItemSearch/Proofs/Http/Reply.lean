import ItemSearch.Http.App

/-!
What is sent of a list of items. How values are encoded is up to the framework. `IsEncoder` holds
what is known of it: members with internal names are left out wherever they stand, and everything
else stays. An answer has such names in its documents only: its own members and those of its facets
all stay.
-/

namespace ItemSearch

theorem ItemList.toJson_eq (l : ItemList) :
    l.toJson = .obj (optionalMember "count" Json.int l.count ++
      optionalMember "start" Json.int l.start ++ optionalMember "limit" Json.int l.limit ++
      [("docs", .arr l.items)] ++
      optionalMember "facets" (fun facets => .arr (facets.map Facet.toJson)) l.facets) := by
  obtain ⟨count, start, limit, items, facets⟩ := l
  cases count <;> cases start <;> cases limit <;> cases facets <;> rfl

namespace Http

/-- Members with these names are left out of replies. -/
def IsInternal (key : String) : Prop := "_sa".toList <+: key.toList

instance (key : String) : Decidable (IsInternal key) := inferInstanceAs (Decidable (_ <+: _))

/-- The members that are not internal, encoded. -/
def encodeMembers (encode : Json → Json) (members : List (String × Json)) : List (String × Json) :=
  (members.filter fun m => !decide (IsInternal m.1)).map fun m => (m.1, encode m.2)

/-- Neither an array nor an object. -/
inductive IsPlain : Json → Prop where
  | null : IsPlain .null
  | bool (b : Bool) : IsPlain (.bool b)
  | int (n : Int) : IsPlain (.int n)
  | float (x : Binary64) : IsPlain (.float x)
  | str (s : String) : IsPlain (.str s)

/-- An encoding of values that leaves internal members out and nothing else. -/
structure IsEncoder (encode : Json → Json) : Prop where
  plain {v : Json} (h : IsPlain v) : encode v = v
  arr (items : List Json) : encode (.arr items) = .arr (items.map encode)
  obj (members : List (String × Json)) : encode (.obj members) = .obj (encodeMembers encode members)

mutual
/-- The value without the members that are internal. -/
def withoutInternal : Json → Json
  | .arr items => .arr (itemsWithoutInternal items)
  | .obj members => .obj (membersWithoutInternal members)
  | v => v

def itemsWithoutInternal : List Json → List Json
  | [] => []
  | v :: vs => withoutInternal v :: itemsWithoutInternal vs

def membersWithoutInternal : List (String × Json) → List (String × Json)
  | [] => []
  | (key, v) :: rest =>
    if IsInternal key then membersWithoutInternal rest
    else (key, withoutInternal v) :: membersWithoutInternal rest
end

theorem itemsWithoutInternal_eq_map (items : List Json) :
    itemsWithoutInternal items = items.map withoutInternal := by
  induction items with
  | nil => rfl
  | cons v items ih => rw [itemsWithoutInternal, ih, List.map_cons]

theorem membersWithoutInternal_eq (members : List (String × Json)) :
    membersWithoutInternal members = encodeMembers withoutInternal members := by
  induction members with
  | nil => rfl
  | cons m members ih =>
      obtain ⟨key, v⟩ := m
      rw [membersWithoutInternal, ih]
      by_cases hkey : IsInternal key <;> simp [encodeMembers, hkey]

theorem isEncoder_withoutInternal : IsEncoder withoutInternal where
  plain := by
    rintro _ (_ | _ | _ | _ | _) <;> rfl
  arr items := by rw [withoutInternal, itemsWithoutInternal_eq_map]
  obj members := by rw [withoutInternal, membersWithoutInternal_eq]

section

variable {encode : Json → Json}

/-! ### Members -/

theorem encodeMembers_append (front back : List (String × Json)) :
    encodeMembers encode (front ++ back) =
      encodeMembers encode front ++ encodeMembers encode back := by
  simp [encodeMembers]

theorem encodeMembers_singleton {key : String} (hkey : ¬ IsInternal key) (v : Json) :
    encodeMembers encode [(key, v)] = [(key, encode v)] := by
  simp [encodeMembers, hkey]

/-- Nothing is left out of members that stay as they are themselves. -/
theorem encodeMembers_eq_self {members : List (String × Json)}
    (h : ∀ m ∈ members, ¬ IsInternal m.1 ∧ encode m.2 = m.2) :
    encodeMembers encode members = members := by
  have hall : (members.filter fun m => !decide (IsInternal m.1)) = members :=
    List.filter_eq_self.mpr fun m hm => by simpa using (h m hm).1
  have hsame : members.map (fun m => (m.1, encode m.2)) = members.map id :=
    List.map_congr_left fun m hm => Prod.ext rfl (h m hm).2
  rw [encodeMembers, hall, hsame, List.map_id]

theorem encodeMembers_optionalMember {α : Type} {key : String} (hkey : ¬ IsInternal key)
    {f : α → Json} (h : ∀ a, encode (f a) = f a) (a : Option α) :
    encodeMembers encode (optionalMember key f a) = optionalMember key f a := by
  cases a with
  | none => rfl
  | some a =>
      show encodeMembers encode [(key, f a)] = [(key, f a)]
      rw [encodeMembers_singleton hkey, h]

/-! ### Lists of items -/

variable (hencode : IsEncoder encode)
include hencode

theorem encode_ofOption {α : Type} {f : α → Json} (h : ∀ a, IsPlain (f a)) (a : Option α) :
    encode (Json.ofOption f a) = Json.ofOption f a := by
  cases a with
  | none => exact hencode.plain .null
  | some a => exact hencode.plain (h a)

theorem encode_bucket (b : Bucket) : encode b.toJson = b.toJson := by
  have hkey : ∀ key : BucketKey, IsPlain key.toJson := by
    intro key
    cases key with
    | text s => exact .str s
    | integer n => exact .int n
    | number x => exact .float x
  have hmembers : ∀ m ∈ b.members, ¬ IsInternal m.1 ∧ encode m.2 = m.2 := by
    simp only [Bucket.members, List.forall_mem_cons, List.not_mem_nil, false_implies, implies_true,
      and_true]
    exact ⟨⟨by decide, encode_ofOption hencode hkey _⟩,
      ⟨by decide, encode_ofOption hencode .str _⟩, ⟨by decide, encode_ofOption hencode .int _⟩,
      ⟨by decide, encode_ofOption hencode .float _⟩, ⟨by decide, encode_ofOption hencode .float _⟩⟩
  rw [Bucket.toJson, hencode.obj, encodeMembers_eq_self]
  exact fun m hm => hmembers m (List.mem_filter.mp hm).1

theorem encode_facet (f : Facet) : encode f.toJson = f.toJson := by
  have hbuckets : encode (.arr (f.buckets.map Bucket.toJson)) =
      .arr (f.buckets.map Bucket.toJson) := by
    rw [hencode.arr, List.map_map]
    simp [Function.comp_def, encode_bucket hencode]
  rw [Facet.toJson, Facet.toJsonWith, hencode.obj, encodeMembers_eq_self]
  simp only [List.forall_mem_cons, List.not_mem_nil, false_implies, implies_true, and_true]
  exact ⟨⟨by decide, hencode.plain (.str _)⟩, ⟨by decide, hencode.plain (.str _)⟩,
    ⟨by decide, hbuckets⟩, by decide, hencode.plain (.str _)⟩

/-- The documents are all that something is left out of. -/
theorem encode_toJson (l : ItemList) :
    encode l.toJson = { l with items := l.items.map encode }.toJson := by
  have hnumber : ∀ n : Int, encode (.int n) = .int n := fun n => hencode.plain (.int n)
  have hfacets : ∀ facets : List Facet, encode (.arr (facets.map Facet.toJson)) =
      .arr (facets.map Facet.toJson) := by
    intro facets
    rw [hencode.arr, List.map_map]
    simp [Function.comp_def, encode_facet hencode]
  have hdocs : encodeMembers encode [("docs", .arr l.items)] =
      [("docs", .arr (l.items.map encode))] := by
    rw [encodeMembers_singleton (by decide), hencode.arr]
  rw [ItemList.toJson_eq, ItemList.toJson_eq, hencode.obj]
  simp only [encodeMembers_append, hdocs,
    encodeMembers_optionalMember (show ¬ IsInternal "count" by decide) hnumber,
    encodeMembers_optionalMember (show ¬ IsInternal "start" by decide) hnumber,
    encodeMembers_optionalMember (show ¬ IsInternal "limit" by decide) hnumber,
    encodeMembers_optionalMember (show ¬ IsInternal "facets" by decide) hfacets]

end

end Http

end ItemSearch
