import ItemSearch.Proofs.Service.Replies
import ItemSearch.Proofs.Validation.PageBound
import ItemSearch.Proofs.Validation.Pages
import Mathlib.Tactic.Choose

/-!
Paging through a search. Searches that differ in the page alone send bodies that differ in the start
alone, and a backend that keeps the order of its hits answers them with one slice after the other.
So the pages from the first one on are the hits from the first one on: each hit comes on one page,
in its place, as long as there are pages.
-/

namespace ItemSearch

/-- The backend keeps its hits in an order. Which hits these are depends on the query, the order and
the parts of documents that are asked for, and the start and the size say which of them are sent. -/
def Backend.Ranks (backend : Backend) (index : String)
    (rank : Query → Option (List SortKey) → Option (List String) → List Json) : Prop :=
  ∀ (body : Body) (start size : Nat), body.start = some (start : Int) → body.size = size →
    ∃ response, backend.answer (Call.search index body.members) = .response response ∧
      IsAnswer body response (((rank body.query body.sort body.source).drop start).take size)

/-- The backend that has these hits for every search. -/
def Backend.ofHits (hits : List Json) : Backend where
  answer call := match Assoc.find? "from_" call, Assoc.find? "size" call with
    | some (.int start), some (.int size) => .response (.obj
        [("hits", .obj [("hits", .arr ((hits.drop start.toNat).take size.toNat))])])
    | _, _ => .failure
  isUp := true

theorem Backend.ranks_ofHits {hits : List Json}
    (hobjects : ∀ hit ∈ hits, ∃ members, hit = .obj members) (index : String) :
    (Backend.ofHits hits).Ranks index fun _ _ _ => hits := by
  intro body start size hstart hsize
  have hmembers : ("from", .int start) ∈ body.members ∧ ("size", .int size) ∈ body.members := by
    rw [Body.members, hstart, hsize]
    simp [optionalMember]
  have hfrom : Assoc.find? "from_" (Call.search index body.members) = some (.int start) :=
    Call.find?_search hmembers.1
  have hsize : Assoc.find? "size" (Call.search index body.members) = some (.int size) :=
    Call.find?_search hmembers.2
  have hanswer : (ofHits hits).answer (Call.search index body.members) = .response (.obj
      [("hits", .obj [("hits", .arr ((hits.drop start).take size))])]) := by
    simp only [ofHits, hfrom, hsize, Int.toNat_natCast]
  refine ⟨_, hanswer, ⟨_, rfl, rfl, _, .unsaid rfl⟩, ?_, ?_⟩
  · exact fun hit hhit => hobjects hit (List.mem_of_mem_drop (List.mem_of_mem_take hhit))
  · intro sent hsent
    simp [Json.member?, Assoc.find?] at hsent

namespace Compiler

variable {c : Compiler} {p : SearchRequest} {body : Body}

/-- Nothing but the start depends on the page. -/
theorem searchBody_withPage (h : c.searchBody p = .ok body) (page : Int) :
    c.searchBody { p with page := page } =
      .ok { body with start := some (pageStart page p.pageSize) } := by
  obtain ⟨query, aggregations, sort, source, hquery, haggregations, hsort, hsource, rfl⟩ :=
    searchBody_eq_ok_iff.mp h
  exact searchBody_eq_ok_iff.mpr
    ⟨query, aggregations, sort, source, hquery, haggregations, hsort, hsource, rfl⟩

end Compiler

namespace ItemList

/-- The list is a page of the hits; pages are counted from zero. -/
structure IsPage (fields : Option (List String)) (hits : List Json) (size i : Nat)
    (l : ItemList) : Prop where
  items : l.items = projected fields (((hits.drop (i * size)).take size).map documentOf)
  count : l.count = some (l.items.length : Int)
  start : l.start = some (i * size + 1 : Int)
  limit : l.limit = some (size : Int)

/-- One page after the other, the items are those of the hits. -/
theorem IsPage.flatMap_items {fields : Option (List String)} {hits : List Json} {size k : Nat}
    {pages : Nat → ItemList} (h : ∀ i < k, IsPage fields hits size i (pages i)) :
    (List.range k).flatMap (fun i => (pages i).items) =
      projected fields ((hits.take (k * size)).map documentOf) := by
  obtain ⟨view, hview⟩ := exists_projected_eq_map fields
  induction k with
  | zero => simp [hview]
  | succ k ih =>
      have hlast := (h k (Nat.lt_succ_self k)).items
      rw [List.range_succ, List.flatMap_append, ih fun i hi => h i (Nat.lt_succ_of_lt hi),
        List.flatMap_singleton, hlast, Nat.succ_mul, List.take_add]
      simp only [hview, List.map_append]

end ItemList

theorem Profile.page_not_searchable : "page" ∉ Profile.registry.searchableNames := by
  decide +kernel

namespace Service

variable {maxPageSize : Int} {urls : Url.Check} {index : String} {backend : Backend}
  {rank : Query → Option (List SortKey) → Option (List String) → List Json}

/-- A backend that ranks its hits answers the search for a page with this page of them. -/
theorem exists_page (hranks : backend.Ranks index rank) {raw : RawParams} {p : SearchRequest}
    {body : Body} {i size : Nat} (hpage : p.page = i + 1) (hsize : p.pageSize = size)
    (hp : Validator.search ⟨Profile.registry, maxPageSize, urls⟩ raw = .ok p)
    (hbody : (Compiler.of Profile.registry).searchBody p = .ok body) :
    ∃ page, ((of Profile.registry maxPageSize urls index).search backend raw).result = .ok page ∧
      page.IsPage p.fields (rank body.query body.sort body.source) size i := by
  have hstart : (p.page - 1) * p.pageSize = ((i * size : Nat) : Int) := by
    rw [hpage, hsize, Int.add_sub_cancel, Int.natCast_mul]
  have hslice : body.start = some ((i * size : Nat) : Int) ∧ body.size = size := by
    obtain ⟨_, _, _, _, -, -, -, -, rfl⟩ := Compiler.searchBody_eq_ok_iff.mp hbody
    exact ⟨congrArg some hstart, hsize⟩
  obtain ⟨response, hresponse, hanswer⟩ := hranks body (i * size) size hslice.1 hslice.2
  have hreads := (Validator.search_eq_ok_iff.mp hp).2
  obtain ⟨facets, hlist⟩ := hreads.ofSearch_eq_ok Validator.plain_names hbody hanswer
  rw [hstart, hsize, Int.natCast_mul] at hlist
  refine ⟨_, search_result hp hbody hresponse hlist, rfl, ?_, rfl, rfl⟩
  rw [ItemList.length_projected, List.length_map]

/-- From the search for one page to that for another: where they agree otherwise, the other one has
the same size and the same body from another start, and comes to another page of the same hits. -/
theorem exists_other_page (hranks : backend.Ranks index rank) {raw raw' : RawParams}
    {p p' : SearchRequest} {body : Body} {i size : Nat} (hsize : p.pageSize = size)
    (hp : Validator.search ⟨Profile.registry, maxPageSize, urls⟩ raw = .ok p)
    (hbody : (Compiler.of Profile.registry).searchBody p = .ok body)
    (hagree : raw.AgreeExcept "page" raw') (hpage : p'.page = i + 1)
    (hp' : Validator.search ⟨Profile.registry, maxPageSize, urls⟩ raw' = .ok p') :
    p'.pageSize = size ∧
      (Compiler.of Profile.registry).searchBody p' =
        .ok { body with start := some (i * size : Int) } ∧
      ∃ page, ((of Profile.registry maxPageSize urls index).search backend raw').result = .ok page ∧
        page.IsPage p.fields (rank body.query body.sort body.source) size i := by
  -- all that sets the requests apart is the page
  have hsame : p' = { p with page := i + 1 } := by
    rw [← hpage]
    exact Validator.eq_withPage Profile.page_not_searchable hagree hp hp'
  have hsize' : p'.pageSize = size := by rw [hsame, hsize]
  have hstart : Compiler.pageStart (i + 1) p.pageSize = i * size := by
    rw [Compiler.pageStart, hsize, Int.add_sub_cancel]
  have hbody' : (Compiler.of Profile.registry).searchBody p' =
      .ok { body with start := some (i * size : Int) } := by
    rw [hsame, ← hstart]
    exact Compiler.searchBody_withPage hbody (i + 1)
  obtain ⟨page, hresult, hpage'⟩ := exists_page hranks hpage hsize' hp' hbody'
  refine ⟨hsize', hbody', page, hresult, ?_⟩
  rwa [hsame] at hpage'

/-- Searches for the pages from the first to the last that differ in nothing else send one body from
different starts, and what they come to are the pages of the first hits in their order. -/
theorem pages_are_first_hits (maxPageSize : Int) (urls : Url.Check) (index : String)
    (backend : Backend)
    (rank : Query → Option (List SortKey) → Option (List String) → List Json)
    (hranks : backend.Ranks index rank) (k : Nat) (raw : Nat → RawParams)
    (p : Nat → SearchRequest)
    (haccepted : ∀ i < k,
      Validator.search ⟨Profile.registry, maxPageSize, urls⟩ (raw i) = .ok (p i))
    (hagree : ∀ i < k, (raw 0).AgreeExcept "page" (raw i))
    (hpage : ∀ i < k, (p i).page = i + 1) :
    ∃ (size : Nat) (body : Body) (pages : Nat → ItemList), body.size = size ∧
      (∀ i < k, (p i).pageSize = size ∧
        (Compiler.of Profile.registry).searchBody (p i) =
          .ok { body with start := some (i * size : Int) } ∧
        ((of Profile.registry maxPageSize urls index).search backend (raw i)).result =
          .ok (pages i) ∧
        (pages i).limit = some (size : Int) ∧ (pages i).start = some (i * size + 1 : Int) ∧
        (pages i).count = some ((pages i).items.length : Int)) ∧
      (List.range k).flatMap (fun i => (pages i).items) =
        ItemList.projected (p 0).fields
          (((rank body.query body.sort body.source).take (k * size)).map documentOf) := by
  cases k with
  | zero =>
      obtain ⟨view, hview⟩ := ItemList.exists_projected_eq_map (p 0).fields
      exact ⟨0, { size := 0, query := .matchAll }, fun _ => {}, rfl, by simp, by simp [hview]⟩
  | succ k =>
      have hfirst := haccepted 0 (Nat.succ_pos k)
      obtain ⟨body, hbody⟩ :=
        Validator.exists_searchBody_of_accepted Compiler.itemKeywordFields hfirst
      obtain ⟨size, hsize⟩ : ∃ size : Nat, (p 0).pageSize = size := by
        rcases (Validator.search_eq_ok_iff.mp hfirst).2.pageSize_cases with ⟨-, hle, -⟩ | ⟨-, hten⟩
        · exact Int.eq_ofNat_of_zero_le hle
        · exact ⟨10, hten⟩
      have hbodySize : body.size = size := by
        obtain ⟨_, _, _, _, -, -, -, -, rfl⟩ := Compiler.searchBody_eq_ok_iff.mp hbody
        exact hsize
      have heach := fun i hi => exists_other_page hranks hsize hfirst hbody (hagree i hi)
        (hpage i hi) (haccepted i hi)
      have : Nonempty ItemList := ⟨{}⟩
      choose! hsizes hbodies pages hresults hpages using heach
      refine ⟨size, body, pages, hbodySize, fun i hi => ?_, ?_⟩
      · exact ⟨hsizes i hi, hbodies i hi, hresults i hi, (hpages i hi).limit, (hpages i hi).start,
          (hpages i hi).count⟩
      · exact ItemList.IsPage.flatMap_items hpages

/-- Two pages of two, of three hits. -/
theorem pages_are_three_hits :
    let hits : List Json := ["a", "b", "c"].map fun id =>
      .obj [("_source", .obj [("id", .str id)])]
    let raw : Nat → RawParams := fun i => [("page_size", "2"), ("page", Text.decimal (i + 1))]
    ∃ pages : Nat → ItemList,
      (∀ i < 2,
        ((of Profile.registry 500 .sample "items").search (Backend.ofHits hits) (raw i)).result =
          .ok (pages i)) ∧
      (pages 0).items ++ (pages 1).items =
        [.obj [("id", .str "a")], .obj [("id", .str "b")], .obj [("id", .str "c")]] := by
  intro hits raw
  have hranks : (Backend.ofHits hits).Ranks "items" fun _ _ _ => hits :=
    Backend.ranks_ofHits (by simp [hits]) "items"
  have haccepted : ∀ i < 2, Validator.search ⟨Profile.registry, 500, .sample⟩ (raw i) =
      .ok { pageSize := 2, page := i + 1 } := by
    intro i hi
    obtain rfl | rfl : i = 0 ∨ i = 1 := by omega
    · exact toOption_eq_some_iff.mp (by decide +kernel)
    · exact toOption_eq_some_iff.mp (by decide +kernel)
  have hagree : ∀ i < 2, (raw 0).AgreeExcept "page" (raw i) := by
    intro i _ other hother
    simp [raw, RawParams.value?, Assoc.find?, hother.symm]
  obtain ⟨size, body, pages, -, hpages, hitems⟩ :=
    pages_are_first_hits 500 .sample "items" (Backend.ofHits hits) _ hranks 2 raw _ haccepted hagree
      (fun _ _ => rfl)
  refine ⟨pages, fun i hi => (hpages i hi).2.2.1, ?_⟩
  obtain rfl : 2 = size := Int.ofNat.inj (hpages 0 (by decide)).1
  have hfirst : ItemList.projected none ((hits.take (2 * 2)).map documentOf) =
      [.obj [("id", .str "a")], .obj [("id", .str "b")], .obj [("id", .str "c")]] := by
    decide +kernel
  rw [← hfirst, ← hitems]
  simp [List.range_succ]

end Service

end ItemSearch
