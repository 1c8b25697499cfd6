import ItemSearch.Proofs.Assoc
import ItemSearch.Proofs.Query.Clauses
import ItemSearch.Response.Projection
import Mathlib.Logic.Relation

/-!
What a document is projected onto, and what is fetched for it. A field is projected by its public
name and fetched by its path, so the two have to lead to the same place in every document. In the
item index they do for each field whose path is its name. There is one other field that can be
retrieved, the data provider: fetched is the name of the provider, and projected is the whole
provider, of which the name is only a part.
-/

namespace ItemSearch

/-! ### Reading at a path -/

/-- What is read from a value on. A list stays as it is, whatever is left of the path. -/
def readFrom (rest : List String) : Json → Option Json
  | .arr items => some (.arr items)
  | v => if rest = [] then some v else readPath rest v

@[simp] theorem readFrom_nil (v : Json) : readFrom [] v = some v := by
  cases v <;> rfl

@[simp] theorem readFrom_arr (rest : List String) (items : List Json) :
    readFrom rest (.arr items) = some (.arr items) := rfl

theorem readFrom_eq_readPath {rest : List String} (hrest : rest ≠ []) {v : Json}
    (hv : ∀ items, v ≠ .arr items) : readFrom rest v = readPath rest v := by
  cases v with
  | arr items => exact absurd rfl (hv items)
  | _ => exact if_neg hrest

theorem readPath_cons (key : String) (rest : List String) (parent : Json) :
    readPath (key :: rest) parent =
      ((parent.member? key).bind settled?).bind (readFrom rest) := by
  rw [readPath]
  cases (parent.member? key).bind settled? with
  | none => rfl
  | some v => cases v <;> rfl

theorem readPath_cons_eq_some_iff {key : String} {rest : List String} {parent v : Json} :
    readPath (key :: rest) parent = some v ↔
      ∃ member child, parent.member? key = some member ∧ settled? member = some child ∧
        readFrom rest child = some v := by
  rw [readPath_cons]
  simp only [Option.bind_eq_some_iff]
  constructor
  · rintro ⟨child, ⟨member, hmember, hchild⟩, hv⟩
    exact ⟨member, child, hmember, hchild, hv⟩
  · rintro ⟨member, child, hmember, hchild, hv⟩
    exact ⟨child, ⟨member, hmember, hchild⟩, hv⟩

/-- What is read from a value on is the value, or is read in it. -/
theorem readFrom_eq_some {rest : List String} {v w : Json} (h : readFrom rest v = some w) :
    v = w ∨ readPath rest v = some w := by
  unfold readFrom at h
  split at h
  · exact Or.inl (Option.some.inj h)
  · split at h
    · exact Or.inl (Option.some.inj h)
    · exact Or.inr h

theorem readFrom_append (path rest : List String) (v : Json) :
    readFrom (path ++ rest) v = (readFrom path v).bind (readFrom rest) := by
  induction path generalizing v with
  | nil => simp
  | cons key keys ih =>
      by_cases hv : ∃ items, v = .arr items
      · obtain ⟨items, rfl⟩ := hv
        simp
      · have hne : ∀ items, v ≠ .arr items := fun items heq => hv ⟨items, heq⟩
        rw [List.cons_append, readFrom_eq_readPath (by simp) hne,
          readFrom_eq_readPath (by simp) hne, readPath_cons, readPath_cons, funext ih]
        exact (Option.bind_assoc ..).symm

/-- A path is read in two steps. -/
theorem readPath_append {path : List String} (hpath : path ≠ []) (rest : List String)
    (document : Json) :
    readPath (path ++ rest) document = (readPath path document).bind (readFrom rest) := by
  obtain ⟨key, keys, rfl⟩ := List.exists_cons_of_ne_nil hpath
  rw [List.cons_append, readPath_cons, readPath_cons, funext (readFrom_append keys rest)]
  exact (Option.bind_assoc ..).symm

/-! ### What is read lies inside -/

/-- The value is an item of a list or a member of an object. -/
def Json.IsChild (v : Json) : Json → Prop
  | .arr items => v ∈ items
  | .obj members => v ∈ members.map Prod.snd
  | _ => False

/-- The value stands in the document, at any depth. -/
def Json.Inside : (v document : Json) → Prop := Relation.TransGen Json.IsChild

theorem Json.IsChild.sizeOf_lt {v parent : Json} (h : v.IsChild parent) :
    sizeOf v < sizeOf parent := by
  cases parent with
  | arr items =>
      have hitem : sizeOf v < sizeOf items := List.sizeOf_lt_of_mem h
      rw [Json.arr.sizeOf_spec]
      omega
  | obj members =>
      obtain ⟨⟨key, value⟩, hmem, rfl⟩ := List.mem_map.mp h
      have hmember := List.sizeOf_lt_of_mem hmem
      rw [Prod.mk.sizeOf_spec] at hmember
      rw [Json.obj.sizeOf_spec]
      show sizeOf value < _
      omega
  | _ => exact False.elim h

theorem Json.Inside.sizeOf_lt {v document : Json} (h : v.Inside document) :
    sizeOf v < sizeOf document := by
  induction h with
  | single h => exact h.sizeOf_lt
  | tail _ h ih => exact Nat.lt_trans ih h.sizeOf_lt

theorem isChild_of_member? {key : String} {parent v : Json} (h : parent.member? key = some v) :
    v.IsChild parent := by
  cases parent with
  | obj members => exact Assoc.mem_values_of_find? h
  | _ => simp [Json.member?] at h

/-- A list of one item is taken for the item, and anything else that counts stays as it is. -/
theorem settled?_eq_some {v settled : Json} (h : settled? v = some settled) :
    v = settled ∨ v = .arr [settled] := by
  unfold settled? at h
  split at h
  · simp at h
  · simp at h
  · simp at h
  · exact Or.inr (by rw [Option.some.inj h])
  · exact Or.inl (Option.some.inj h)

/-- The value at a path stands in the document, so it is never the document itself. -/
theorem inside_of_readPath {path : List String} {document v : Json}
    (h : readPath path document = some v) : v.Inside document := by
  induction path generalizing document with
  | nil => simp [readPath] at h
  | cons key rest ih =>
      obtain ⟨member, child, hmember, hsettled, hv⟩ := readPath_cons_eq_some_iff.mp h
      have hinside : child.Inside document := by
        rcases settled?_eq_some hsettled with rfl | rfl
        · exact .single (isChild_of_member? hmember)
        · have hitem : child.IsChild (.arr [child]) := List.mem_singleton_self child
          exact .tail (.single hitem) (isChild_of_member? hmember)
      rcases readFrom_eq_some hv with rfl | hv
      · exact hinside
      · exact (ih hv).trans hinside

/-- Nothing but a list is read from itself on. -/
theorem readFrom_eq_self_iff {rest : List String} (hrest : rest ≠ []) {v : Json} :
    readFrom rest v = some v ↔ ∃ items, v = .arr items := by
  constructor
  · intro h
    by_contra hlist
    rw [readFrom_eq_readPath hrest fun items heq => hlist ⟨items, heq⟩] at h
    exact Nat.lt_irrefl _ (inside_of_readPath h).sizeOf_lt
  · rintro ⟨items, rfl⟩
    rfl

/-! ### Projections -/

/-- A projection has those of the fields that the document has a value for, with this value. -/
theorem member?_project (document : Json) (fields : List String) (field : String) :
    (project document fields).member? field =
      if field ∈ fields then readPath (segments field) document else none := by
  simp only [project, Json.member?]
  induction fields using List.reverseRecOn with
  | nil => rfl
  | append_singleton fields last ih =>
      by_cases hlast : last = field
      · subst hlast
        cases hread : readPath (segments last) document with
        | none =>
            rw [hread, ite_self] at ih
            simp [hread, ih]
        | some v => simp [hread, Assoc.ofList_concat, Assoc.find?_put]
      · have hne : field ≠ last := fun heq => hlast heq.symm
        cases hread : readPath (segments last) document with
        | none => simpa [hread, hne] using ih
        | some v => simpa [hread, Assoc.ofList_concat, Assoc.find?_put, hlast, hne] using ih

theorem member?_project_singleton (document : Json) (field : String) :
    (project document [field]).member? field = readPath (segments field) document := by
  rw [member?_project, if_pos (List.mem_singleton_self field)]

/-! ### The item index -/

namespace Profile

/-- The name of the one field that can be retrieved from a path of another name. -/
def dataProviderName : String := "dataProvider"

theorem segments_dataProvider : segments dataProviderName = ["dataProvider"] := by decide +kernel

/-- A field that can be retrieved is kept under its name, or stands for a pattern of paths, or is
the data provider. -/
theorem retrievable_cases : ∀ f ∈ registry.fields, f.retrievable = true →
    (f.backendPath = f.name ∧ f.name ≠ dataProviderName) ∨ '*' ∈ f.backendPath.toList ∨
      (f.name = dataProviderName ∧
        segments f.backendPath = segments dataProviderName ++ ["name"]) := by
  decide +kernel

/-- Fetched for a field is what stands at its path, and projected is what stands at its name. The
two are the same in a document unless the field is the data provider: then the projection is the
whole provider and not its name, so they are the same only where there is no provider, or a list
that both come to. -/
theorem projected_eq_fetched_iff {f : Field} (hf : f ∈ registry.fields)
    (hretrievable : f.retrievable = true) (hplain : '*' ∉ f.backendPath.toList)
    (keywordFields : List String) (document : Json) :
    Compiler.source ⟨registry, keywordFields⟩ (some [f.name]) = .ok [f.backendPath] ∧
      (project document [f.name]).member? f.name = readPath (segments f.name) document ∧
      ((project document [f.name]).member? f.name =
          readPath (segments f.backendPath) document ↔
        f.name = dataProviderName → ∀ v, readPath (segments f.name) document = some v →
          ∃ items, v = .arr items) := by
  have hsource : Compiler.source ⟨registry, keywordFields⟩ (some [f.name]) =
      .ok [f.backendPath] := by
    have hpath : registry.backendPath? f.name = some f.backendPath := by
      rw [Registry.backendPath?, Registry.find?_name hf, Option.map_some]
    refine mapM_eq_ok_iff_forall₂.mpr (.cons ?_ .nil)
    exact Compiler.resolve_eq_ok_iff.mpr hpath
  refine ⟨hsource, member?_project_singleton document f.name, ?_⟩
  rw [member?_project_singleton]
  rcases retrievable_cases f hf hretrievable with ⟨hpath, hname⟩ | hpattern | ⟨hname, hpath⟩
  · simp [hpath, hname]
  · exact absurd hpattern hplain
  · rw [hpath, hname, segments_dataProvider, readPath_append (by simp)]
    cases readPath ["dataProvider"] document with
    | none => simp
    | some v =>
        rw [Option.bind_some, eq_comm, readFrom_eq_self_iff (by simp)]
        simp

/-- A title that is the only item of a list is projected as it is fetched. -/
theorem projected_title :
    let f := sortableText "sourceResource.title"
    let document : Json := .obj [("sourceResource", .obj [("title", .arr [.str "Map of Boston"])])]
    f ∈ registry.fields ∧ f.retrievable = true ∧ '*' ∉ f.backendPath.toList ∧
      (project document [f.name]).member? f.name = readPath (segments f.backendPath) document ∧
      readPath (segments f.backendPath) document = some (.str "Map of Boston") := by
  intro f document
  have hf : f ∈ registry.fields := by decide +kernel
  have hplain : '*' ∉ f.backendPath.toList := by decide
  have hname : f.name ≠ dataProviderName := by decide
  obtain ⟨-, -, hsame⟩ := projected_eq_fetched_iff hf rfl hplain [] document
  exact ⟨hf, rfl, hplain, hsame.mpr fun heq => absurd heq hname, by decide +kernel⟩

/-- Of a data provider the name is fetched, and the projection is the provider around it. -/
theorem projected_dataProvider :
    let f := textAt "dataProvider.name" dataProviderName true true
    let document : Json :=
      .obj [("dataProvider", .obj [("name", .str "Boston Public Library")])]
    f ∈ registry.fields ∧ f.retrievable = true ∧ '*' ∉ f.backendPath.toList ∧
      readPath (segments f.backendPath) document = some (.str "Boston Public Library") ∧
      (project document [f.name]).member? f.name =
        some (.obj [("name", .str "Boston Public Library")]) ∧
      (project document [f.name]).member? f.name ≠
        readPath (segments f.backendPath) document := by
  decide +kernel

end Profile

end ItemSearch
