import ItemSearch.Proofs.Response.Projection

/-!
How reading at a path depends on the path and on the document. A longer path is read from what a
shorter one leads to: from an object on it is read in the object, a list is what it comes to, and
behind anything else there is nothing. A value may be put into a list of its own without changing
what is read, unless it is a list itself: a list in a list counts for nothing, so what was read of
it is lost.
-/

namespace ItemSearch

/-! ### Longer paths -/

/-- Texts, numbers and truth values. -/
def Json.IsScalar : Json → Prop
  | .bool _ | .int _ | .float _ | .str _ => True
  | .null | .arr _ | .obj _ => False

/-- What a path may lead to: an object, a scalar, or a list that is not of length one. -/
def Json.Counts (v : Json) : Prop :=
  (∃ members, v = .obj members) ∨ v.IsScalar ∨ ∃ items, v = .arr items ∧ items.length ≠ 1

theorem counts_of_settled? {v settled : Json} (h : settled? v = some settled) :
    settled.Counts := by
  unfold settled? at h
  split at h
  · simp at h
  · simp at h
  · simp at h
  · next item hnull harr =>
      rw [← Option.some.inj h]
      cases item with
      | null => exact absurd rfl hnull
      | arr items => exact absurd rfl (harr items)
      | obj members => exact Or.inl ⟨members, rfl⟩
      | _ => exact Or.inr (Or.inl trivial)
  · next hnull _ _ hitem =>
      rw [← Option.some.inj h]
      cases v with
      | null => exact absurd rfl hnull
      | arr items =>
          refine Or.inr (Or.inr ⟨items, rfl, fun hlength => ?_⟩)
          obtain ⟨item, rfl⟩ := List.length_eq_one_iff.mp hlength
          exact hitem item rfl
      | obj members => exact Or.inl ⟨members, rfl⟩
      | _ => exact Or.inr (Or.inl trivial)

theorem counts_of_readPath {path : List String} {document v : Json}
    (h : readPath path document = some v) : v.Counts := by
  induction path generalizing document with
  | nil => simp [readPath] at h
  | cons key rest ih =>
      obtain ⟨member, child, -, hsettled, hv⟩ := readPath_cons_eq_some_iff.mp h
      rcases readFrom_eq_some hv with rfl | hv
      · exact counts_of_settled? hsettled
      · exact ih hv

theorem readPath_of_isScalar {v : Json} (hv : v.IsScalar) (path : List String) :
    readPath path v = none := by
  cases path with
  | nil => rfl
  | cons key rest =>
      rw [readPath_cons]
      cases v with
      | null | arr _ | obj _ => exact False.elim hv
      | _ => rfl

/-- What a path leads to settles what every longer path leads to, and it is never null, never made
up and never a list of one item. -/
theorem readPath_through {path rest : List String} (hpath : path ≠ []) (hrest : rest ≠ [])
    (document : Json) :
    (∀ members, readPath path document = some (.obj members) →
        readPath (path ++ rest) document = readPath rest (.obj members)) ∧
      (∀ items, readPath path document = some (.arr items) →
        readPath (path ++ rest) document = some (.arr items)) ∧
      (∀ v, readPath path document = some v → v.IsScalar →
        readPath (path ++ rest) document = none) ∧
      (readPath path document = none → readPath (path ++ rest) document = none) ∧
      ∀ v, readPath path document = some v → v.Inside document ∧ v.Counts := by
  rw [readPath_append hpath]
  refine ⟨?_, ?_, ?_, ?_, ?_⟩
  · intro members h
    rw [h, Option.bind_some, readFrom_eq_readPath hrest (by simp)]
  · intro items h
    rw [h, Option.bind_some, readFrom_arr]
  · intro v h hv
    have hne : ∀ items, v ≠ .arr items := by
      rintro items rfl
      exact hv
    rw [h, Option.bind_some, readFrom_eq_readPath hrest hne, readPath_of_isScalar hv]
  · intro h
    rw [h, Option.bind_none]
  · intro v h
    exact ⟨inside_of_readPath h, counts_of_readPath h⟩

/-- The creator of a resource, read through the resource and at once. -/
theorem readPath_through_resource :
    let resource : List (String × Json) := [("creator", .arr [.str "Homer", .str "Eastman"])]
    let document : Json := .obj [("sourceResource", .arr [.obj resource])]
    ["sourceResource"] ≠ [] ∧ ["creator"] ≠ [] ∧
      readPath ["sourceResource", "creator"] document = readPath ["creator"] (.obj resource) ∧
      readPath ["sourceResource", "creator", "name"] document =
        some (.arr [.str "Homer", .str "Eastman"]) := by
  intro resource document
  have hresource : readPath ["sourceResource"] document = some (.obj resource) := by decide
  have hcreator : readPath ["sourceResource", "creator"] document =
      some (.arr [.str "Homer", .str "Eastman"]) := by decide
  have hone : ["sourceResource"] ≠ [] := by decide
  have htwo : ["sourceResource", "creator"] ≠ [] := by decide
  exact ⟨hone, by decide, (readPath_through hone (by decide) document).1 _ hresource,
    (readPath_through htwo (by decide) document).2.1 _ hcreator⟩

/-! ### Lists of one item -/

/-- The value that a path leads to through objects alone. -/
def Json.at? : (document : Json) → (path : List String) → Option Json
  | v, [] => some v
  | parent, key :: rest => (parent.member? key).bind fun child => child.at? rest

/-- The document with another value where a path leads through objects alone. -/
def Json.replaceAt : (document : Json) → (path : List String) → (new : Json) → Json
  | _, [], new => new
  | .obj members, key :: rest, new =>
    match Assoc.find? key members with
    | some child => .obj (Assoc.put key (child.replaceAt rest new) members)
    | none => .obj members
  | v, _ :: _, _ => v

theorem member?_replaceAt {key : String} {parent child : Json}
    (h : parent.member? key = some child) (rest : List String) (new : Json) :
    (parent.replaceAt (key :: rest) new).member? key = some (child.replaceAt rest new) := by
  cases parent with
  | obj members =>
      have hfind : Assoc.find? key members = some child := h
      rw [Json.replaceAt, hfind]
      show Assoc.find? key (Assoc.put key _ members) = _
      rw [Assoc.find?_put, if_pos rfl]
  | _ => simp [Json.member?] at h

theorem at?_replaceAt {document v : Json} {path : List String} (h : document.at? path = some v)
    (new : Json) : (document.replaceAt path new).at? path = some new := by
  induction path generalizing document with
  | nil => rfl
  | cons key rest ih =>
      rw [Json.at?, Option.bind_eq_some_iff] at h
      obtain ⟨child, hchild, hv⟩ := h
      rw [Json.at?, member?_replaceAt hchild, Option.bind_some]
      exact ih hv

/-- A path is read from where its beginning leads through objects. -/
theorem readPath_of_at? {document v : Json} {path : List String} (hpath : path ≠ [])
    (h : document.at? path = some v) (rest : List String) :
    readPath (path ++ rest) document = (settled? v).bind (readFrom rest) := by
  induction path generalizing document with
  | nil => exact absurd rfl hpath
  | cons key keys ih =>
      rw [Json.at?, Option.bind_eq_some_iff] at h
      obtain ⟨child, hchild, hv⟩ := h
      rw [List.cons_append, readPath_cons, hchild, Option.bind_some]
      cases keys with
      | nil => rw [← Option.some.inj hv, List.nil_append]
      | cons next keys =>
          -- the path goes on, so the child is an object
          cases child with
          | obj members =>
              have hobject : settled? (.obj members) = some (.obj members) := rfl
              rw [hobject, Option.bind_some, readFrom_eq_readPath (by simp) (by simp),
                ih (by simp) hv]
          | _ => simp [Json.at?, Json.member?] at hv

/-- A list of one value counts as the value, if this is not a list. -/
theorem settled?_singleton {v : Json} (hv : ∀ items, v ≠ .arr items) :
    settled? (.arr [v]) = settled? v := by
  cases v with
  | arr items => exact absurd rfl (hv items)
  | _ => rfl

/-- A value is put into a list of its own, somewhere on the path of a field. What is projected for
the field stays the same, unless the value is a list that something was read of: then nothing is
read any more. -/
theorem projected_in_list_iff {document v : Json} {path rest fields : List String}
    {field : String} (hfield : field ∈ fields) (hsegments : segments field = path ++ rest)
    (hpath : path ≠ []) (hv : document.at? path = some v) :
    let changed := document.replaceAt path (.arr [v])
    ((project changed fields).member? field = (project document fields).member? field ↔
        ((∃ items, v = .arr items) → readPath (segments field) document = none)) ∧
      ((∃ items, v = .arr items) → (project changed fields).member? field = none) := by
  intro changed
  have hread : readPath (segments field) document = (settled? v).bind (readFrom rest) := by
    rw [hsegments, readPath_of_at? hpath hv]
  have hchanged : readPath (segments field) changed =
      (settled? (.arr [v])).bind (readFrom rest) := by
    rw [hsegments, readPath_of_at? hpath (at?_replaceAt hv _)]
  rw [member?_project, member?_project, if_pos hfield, if_pos hfield]
  by_cases hlist : ∃ items, v = .arr items
  · have hnone : readPath (segments field) changed = none := by
      obtain ⟨items, rfl⟩ := hlist
      rw [hchanged]
      rfl
    rw [hnone]
    exact ⟨⟨fun h _ => h.symm, fun h => (h hlist).symm⟩, fun _ => rfl⟩
  · have hsame : readPath (segments field) changed = readPath (segments field) document := by
      rw [hchanged, hread, settled?_singleton fun items heq => hlist ⟨items, heq⟩]
    exact ⟨⟨fun _ h => absurd h hlist, fun _ => hsame⟩, fun h => absurd h hlist⟩

/-- A resource in a list of its own still has its title. -/
theorem projected_title_in_list :
    let resource : Json := .obj [("title", .arr [.str "Atlas", .str "Map of Boston"])]
    let document : Json := .obj [("sourceResource", resource)]
    let title := "sourceResource.title"
    title ∈ [title] ∧ segments title = ["sourceResource"] ++ ["title"] ∧
      ["sourceResource"] ≠ [] ∧ document.at? ["sourceResource"] = some resource ∧
      (project (.obj [("sourceResource", .arr [resource])]) [title]).member? title =
        (project document [title]).member? title := by
  intro resource document title
  have hsegments : segments title = ["sourceResource"] ++ ["title"] := by decide +kernel
  have hv : document.at? ["sourceResource"] = some resource := rfl
  have hresource : ¬ ∃ items, resource = .arr items := by simp [resource]
  obtain ⟨hiff, -⟩ :=
    projected_in_list_iff (List.mem_singleton_self title) hsegments (by decide) hv
  exact ⟨List.mem_singleton_self title, hsegments, by decide, hv,
    hiff.mpr fun h => absurd h hresource⟩

/-- Two titles in a list of their own are lost. -/
theorem projected_titles_in_list :
    let titles : Json := .arr [.str "Atlas", .str "Map of Boston"]
    let document : Json := .obj [("sourceResource", .obj [("title", titles)])]
    let changed := document.replaceAt ["sourceResource", "title"] (.arr [titles])
    let title := "sourceResource.title"
    document.at? ["sourceResource", "title"] = some titles ∧
      changed = .obj [("sourceResource", .obj [("title", .arr [titles])])] ∧
      (project document [title]).member? title = some titles ∧
      (project changed [title]).member? title = none ∧
      (project changed [title]).member? title ≠ (project document [title]).member? title := by
  decide +kernel

end ItemSearch
