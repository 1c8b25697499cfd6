import ItemSearch.Backend.Call
import ItemSearch.Proofs.Assoc
import ItemSearch.Query.Syntax

/-!
What the backend is called with. The members of a body have keys of their own, and so have the
arguments that they go to. So each member of a body arrives as it was compiled, in one argument.
-/

namespace ItemSearch

theorem keys_optionalMember {α : Type} (key : String) (f : α → Json) (a : Option α) :
    ((optionalMember key f a).map Prod.fst).Sublist [key] := by
  cases a with
  | none => exact List.nil_sublist _
  | some a => exact List.Sublist.refl _

namespace Body

/-- The keys that members of a body may have. -/
def keys : List String := ["from", "size", "query", "aggs", "sort", "_source", "track_total_hits"]

variable (b : Body)

theorem keys_members : (b.members.map Prod.fst).Sublist keys := by
  have hcounts : ((if b.countsAllHits then [("track_total_hits", Json.bool true)] else []).map
      Prod.fst).Sublist ["track_total_hits"] := by
    split
    · exact List.Sublist.refl _
    · exact List.nil_sublist _
  simp only [members, List.map_append]
  exact (((((keys_optionalMember "from" _ _).append (List.Sublist.refl ["size", "query"])).append
    (keys_optionalMember "aggs" _ _)).append (keys_optionalMember "sort" _ _)).append
    (keys_optionalMember "_source" _ _)).append hcounts

theorem toJson_eq : b.toJson = .obj b.members := by
  have hnodup : (b.members.map Prod.fst).Nodup := b.keys_members.nodup (by decide)
  rw [toJson, Json.object, Assoc.ofList_of_nodup hnodup]

end Body

namespace Call

variable (index : String) (b : Body)

theorem keys_arguments :
    ((b.members.map fun m => (argument m.1, m.2)).map Prod.fst).Sublist
      (Body.keys.map argument) := by
  have hkeys := b.keys_members.map argument
  rwa [List.map_map] at hkeys ⊢

/-- No argument takes the place of another. -/
theorem search_members :
    search index b.members =
      ("index", .str index) :: b.members.map fun m => (argument m.1, m.2) := by
  rw [search, arguments, Assoc.ofList_of_nodup ((keys_arguments b).nodup (by decide))]

theorem nodup_keys_search : ((search index b.members).map Prod.fst).Nodup := by
  have hkeys := (keys_arguments b).cons_cons "index"
  rw [search_members]
  exact hkeys.nodup (by decide)

/-- Each member is found under its argument. -/
theorem find?_search {index : String} {b : Body} {key : String} {v : Json}
    (h : (key, v) ∈ b.members) :
    Assoc.find? (argument key) (search index b.members) = some v := by
  rw [Assoc.find?_eq_some_iff_mem (nodup_keys_search index b), search_members]
  exact List.mem_cons_of_mem _ (List.mem_map.mpr ⟨_, h, rfl⟩)

end Call

end ItemSearch
