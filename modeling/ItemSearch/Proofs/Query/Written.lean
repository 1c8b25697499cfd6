import ItemSearch.Proofs.Query.Paths

/-!
What a body is written with. In the body as it is sent there are the words of the backend, which are
the same for all requests, the paths of the fields that the request names, and what it asks for.
Words and paths may be keys, and what a request asks for may not; only its facets are keys, as the
names of their aggregations.
-/

namespace ItemSearch

/-- The keys that the backend knows. -/
def Body.keyWords : List String :=
  ["from", "size", "query", "aggs", "sort", "_source", "track_total_hits",
   "match_all", "bool", "must", "should", "minimum_should_match", "filter",
   "query_string", "fields", "analyze_wildcard", "default_operator", "lenient",
   "term", "range", "lte", "gte", "function_score", "random_score", "boost_mode",
   "terms", "field", "facet", "date_histogram", "calendar_interval", "format", "min_doc_count",
   "order", "_key", "geo_distance", "origin", "unit", "ranges", "to", "_geo_distance"]

/-- The texts that the backend knows. -/
def Body.textWords : List String :=
  ["AND", "sum", "now", "now-416y", "now-2000y", "month", "year", "yyyy-MM", "yyyy", "mi",
   "asc", "desc", "_score", "_doc", "*"]

/-- The keys of the value are words of the backend or paths, and its texts are words of the backend,
paths or values. -/
inductive Json.WrittenWith (paths values : String → Prop) : Json → Prop where
  | bool (b : Bool) : WrittenWith paths values (.bool b)
  | int (n : Int) : WrittenWith paths values (.int n)
  | str {s : String} (h : s ∈ Body.textWords ∨ paths s ∨ values s) :
      WrittenWith paths values (.str s)
  | arr {items : List Json} (h : ∀ item ∈ items, WrittenWith paths values item) :
      WrittenWith paths values (.arr items)
  | obj {members : List (String × Json)} (hkeys : ∀ m ∈ members, m.1 ∈ Body.keyWords ∨ paths m.1)
      (hvalues : ∀ m ∈ members, WrittenWith paths values m.2) :
      WrittenWith paths values (.obj members)

/-- The body is written with these paths and values, but for the names of its aggregations. -/
structure Body.WrittenWith (paths values : String → Prop) (body : Body) : Prop where
  outside : Json.WrittenWith paths values { body with aggregations := none }.toJson
  aggregations : ∀ e ∈ body.aggregations.getD [], e.2.toJson.WrittenWith paths values

namespace Json.WrittenWith

variable {paths values : String → Prop}

theorem word {s : String} (h : s ∈ Body.textWords) : (Json.str s).WrittenWith paths values :=
  .str (Or.inl h)

theorem path {s : String} (h : paths s) : (Json.str s).WrittenWith paths values :=
  .str (Or.inr (Or.inl h))

theorem value {s : String} (h : values s) : (Json.str s).WrittenWith paths values :=
  .str (Or.inr (Or.inr h))

theorem strings {texts : List String}
    (h : ∀ s ∈ texts, s ∈ Body.textWords ∨ paths s ∨ values s) :
    (Json.strings texts).WrittenWith paths values :=
  .arr (List.forall_mem_map.mpr fun s hs => .str (h s hs))

theorem array {α : Type} {f : α → Json} {l : List α}
    (h : ∀ a ∈ l, (f a).WrittenWith paths values) :
    (Json.arr (l.map f)).WrittenWith paths values :=
  .arr (List.forall_mem_map.mpr h)

variable (paths values) in
/-- What an object may have for members. -/
def Members (members : List (String × Json)) : Prop :=
  ∀ m ∈ members, (m.1 ∈ Body.keyWords ∨ paths m.1) ∧ m.2.WrittenWith paths values

namespace Members

theorem nil : Members paths values [] := List.forall_mem_nil _

theorem cons {key : String} {v : Json} {rest : List (String × Json)} (hkey : key ∈ Body.keyWords)
    (hv : v.WrittenWith paths values) (hrest : Members paths values rest) :
    Members paths values ((key, v) :: rest) :=
  List.forall_mem_cons.mpr ⟨⟨Or.inl hkey, hv⟩, hrest⟩

theorem atPath {path : String} {v : Json} {rest : List (String × Json)} (hpath : paths path)
    (hv : v.WrittenWith paths values) (hrest : Members paths values rest) :
    Members paths values ((path, v) :: rest) :=
  List.forall_mem_cons.mpr ⟨⟨Or.inr hpath, hv⟩, hrest⟩

theorem append {members members' : List (String × Json)} (h : Members paths values members)
    (h' : Members paths values members') : Members paths values (members ++ members') :=
  List.forall_mem_append.mpr ⟨h, h'⟩

theorem optional {α : Type} {key : String} {f : α → Json} {o : Option α}
    (hkey : key ∈ Body.keyWords) (h : ∀ a, o = some a → (f a).WrittenWith paths values) :
    Members paths values (optionalMember key f o) := by
  cases o with
  | none => exact nil
  | some a => exact cons hkey (h a rfl) nil

end Members

/-- Where a key is repeated, the member that is kept is one of those that were given. -/
theorem object {members : List (String × Json)} (h : Members paths values members) :
    (Json.object members).WrittenWith paths values :=
  .obj (fun m hm => (h m (Assoc.mem_of_mem_ofList hm)).1)
    (fun m hm => (h m (Assoc.mem_of_mem_ofList hm)).2)

theorem member {key : String} {v : Json} (hkey : key ∈ Body.keyWords)
    (hv : v.WrittenWith paths values) : (Json.object [(key, v)]).WrittenWith paths values :=
  object (.cons hkey hv .nil)

/-! #### Clauses and queries -/

theorem keywords {fields : List String} {text : String} (hfields : ∀ f ∈ fields, paths f ∨ values f)
    (htext : values text) : (Clause.keywords fields text).toJson.WrittenWith paths values := by
  refine member (by decide) (object ?_)
  refine .cons (by decide) (strings fun f hf => Or.inr (hfields f hf)) ?_
  refine .cons (by decide) (value htext) ?_
  refine .cons (by decide) (.bool true) ?_
  refine .cons (by decide) (word (by decide)) ?_
  exact .cons (by decide) (.bool true) .nil

theorem term {path text : String} (hpath : paths path) (htext : values text) :
    (Clause.term path text).toJson.WrittenWith paths values :=
  member (by decide) (object (.atPath hpath (value htext) .nil))

theorem range {path text : String} {bound : Bound} (hpath : paths path)
    (hbound : bound.key ∈ Body.keyWords) (htext : values text) :
    (Clause.range path bound text).toJson.WrittenWith paths values :=
  member (by decide) (object (.atPath hpath (member hbound (value htext)) .nil))

theorem clauses {l : List Clause} (h : ∀ clause ∈ l, clause.toJson.WrittenWith paths values) :
    (Clause.allToJson l).WrittenWith paths values :=
  member (by decide) (member (by decide) (array h))

theorem boolQuery {b : BoolQuery}
    (hmust : ∀ clause ∈ b.must.getD [], clause.toJson.WrittenWith paths values)
    (hshould : ∀ clause ∈ b.should.getD [], clause.toJson.WrittenWith paths values)
    (hfilter : ∀ clause ∈ b.filter.getD [], clause.toJson.WrittenWith paths values) :
    b.toJson.WrittenWith paths values := by
  refine object (.append (.append (.append ?_ ?_) ?_) ?_)
  · exact .optional (by decide) fun l hl => array (by simpa [hl] using hmust)
  · exact .optional (by decide) fun l hl => array (by simpa [hl] using hshould)
  · exact .optional (by decide) fun n _ => .int n
  · exact .optional (by decide) fun l hl => clauses (by simpa [hl] using hfilter)

theorem query {query : Query} (hterms : ∀ path ids, query ≠ .terms path ids)
    (hscoring : ∀ clause ∈ query.scoring, clause.toJson.WrittenWith paths values)
    (hfiltering : ∀ clause ∈ query.filtering, clause.toJson.WrittenWith paths values) :
    query.toJson.WrittenWith paths values := by
  cases query with
  | matchAll => exact member (by decide) (object .nil)
  | terms path ids => exact absurd rfl (hterms path ids)
  | bool b =>
      obtain ⟨hmust, hshould⟩ := List.forall_mem_append.mp hscoring
      exact member (by decide) (boolQuery hmust hshould hfiltering)
  | random filter =>
      refine member (by decide) (object (.append ?_ ?_))
      · exact .cons (by decide) (object .nil) (.cons (by decide) (word (by decide)) .nil)
      · refine .optional (by decide) fun l hl => member (by decide) (member (by decide) ?_)
        exact clauses (by simpa [Query.filtering, hl] using hfiltering)

/-! #### Aggregations and sort keys -/

theorem distances {path origin : String} {ranges : List DistanceRange} (hpath : paths path)
    (horigin : values origin) :
    (Aggregation.distances path origin ranges).toJson.WrittenWith paths values := by
  refine member (by decide) (object ?_)
  refine .cons (by decide) (.path hpath) (.cons (by decide) (value horigin) ?_)
  refine .cons (by decide) (word (by decide)) (.cons (by decide) (array fun r _ => ?_) .nil)
  exact object (.append (.cons (by decide) (.int _) .nil) (.optional (by decide) fun n _ => .int n))

theorem dates {path : String} (hpath : paths path) (interval : Interval) :
    (Aggregation.dates path interval).toJson.WrittenWith paths values := by
  refine object (.cons (by decide) ?_ (.cons (by decide) ?_ .nil))
  · refine member (by decide) (object (.atPath hpath (object ?_) .nil))
    exact .cons (by decide) (word (by cases interval <;> decide))
      (.cons (by decide) (word (by decide)) .nil)
  · refine member (by decide) (member (by decide) (object ?_))
    refine .cons (by decide) (.path hpath) ?_
    refine .cons (by decide) (word (by cases interval <;> decide)) ?_
    refine .cons (by decide) (word (by cases interval <;> decide)) ?_
    refine .cons (by decide) (.int 1) ?_
    exact .cons (by decide) (member (by decide) (word (by decide))) .nil

theorem terms {path : String} (hpath : paths path) (size : Int) :
    (Aggregation.terms path size).toJson.WrittenWith paths values :=
  member (by decide) (object (.cons (by decide) (.path hpath) (.cons (by decide) (.int size) .nil)))

theorem sortField {path : String} (hpath : paths path) (order : SortOrder) :
    (SortKey.field path order).toJson.WrittenWith paths values :=
  object (.atPath hpath (member (by decide) (word (by cases order <;> decide))) .nil)

/-- A setting may stand in the place of a path that is named like it. -/
theorem sortDistance {path pin : String} (hpath : paths path) (hpin : values pin) :
    (SortKey.distance path pin).toJson.WrittenWith paths values := by
  refine member (by decide) (object (.atPath hpath (value hpin) ?_))
  exact .cons (by decide) (word (by decide)) (.cons (by decide) (word (by decide)) .nil)

end Json.WrittenWith

/-! ### Names and values of a request -/

namespace SearchRequest

/-- The request names a field by this text. Before the first colon of a facet stands the name of a
field, and so may all of its text. -/
inductive IsName (p : SearchRequest) : String → Prop where
  | condition {condition : Condition} (h : condition ∈ p.fieldQueries) : IsName p condition.field
  | filter {condition : Condition} (h : condition ∈ p.filter.getD []) : IsName p condition.field
  | facet {facet : String} (h : facet ∈ p.facets.getD []) : IsName p facet
  | measured {facet : String} (h : facet ∈ p.facets.getD []) : IsName p (Text.before ':' facet)
  | sortBy {name : String} (h : p.sortBy = some name) : IsName p name
  | field {name : String} (h : name ∈ p.fields.getD []) : IsName p name

/-- The request asks for this text: for words, for the value of a condition or a term of it, or for
a place. -/
inductive IsValue (p : SearchRequest) : String → Prop where
  | words {q : String} (h : p.q = some q) : IsValue p q
  | condition {condition : Condition} (h : condition ∈ p.fieldQueries) : IsValue p condition.value
  | term {condition : Condition} (h : condition ∈ p.fieldQueries) {t : String}
      (ht : t ∈ Query.splitTerms condition.value) : IsValue p t
  | filter {condition : Condition} (h : condition ∈ p.filter.getD []) : IsValue p condition.value
  | pin {pin : String} (h : p.sortByPin = some pin) : IsValue p pin
  | origin {facet : String} (h : facet ∈ p.facets.getD []) :
      IsValue p (Compiler.placeOf (Text.after ':' facet))

end SearchRequest

namespace Compiler

variable (c : Compiler) (p : SearchRequest)

/-- The registry keeps a field that the request names under the path. -/
def NamedPath (path : String) : Prop := ∃ name, p.IsName name ∧ c.registry.IsPathOf name path

/-- The text is asked for by the request, or it is one of the fields that its words are looked for
in. -/
def GivenText (text : String) : Prop := p.IsValue text ∨ p.q ≠ none ∧ text ∈ c.keywordFields

variable {c p} {body : Body}

theorem writtenWith_of_clauseOf {condition : Condition} (hcondition : condition ∈ p.fieldQueries)
    {clause : Clause} (h : c.registry.ClauseOf condition clause) :
    clause.toJson.WrittenWith (c.NamedPath p) (c.GivenText p) := by
  cases h with
  | keywords hpath =>
      refine .keywords ?_ (Or.inl (.condition hcondition))
      exact List.forall_mem_singleton.mpr (Or.inl ⟨_, .condition hcondition, hpath⟩)
  | term hpath hterm =>
      exact .term ⟨_, .condition hcondition, hpath⟩ (Or.inl (.term hcondition hterm))
  | range hpath hbound =>
      refine .range ⟨_, .condition hcondition, hpath⟩ ?_ (Or.inl (.condition hcondition))
      cases hbound <;> decide

theorem writtenWith_of_aggregationOf {facet : String} (hfacet : facet ∈ p.facets.getD [])
    {a : Aggregation} (h : c.registry.AggregationOf facet a) :
    a.toJson.WrittenWith (c.NamedPath p) (c.GivenText p) := by
  cases h with
  | distances hname =>
      refine .distances ⟨_, .measured hfacet, ?_⟩ (Or.inl (.origin hfacet))
      exact ⟨_, c.registry.coordinates_mem, hname.symm, List.mem_cons_self ..⟩
  | dates hpath interval => exact .dates ⟨_, .facet hfacet, hpath⟩ interval
  | terms hpath size => exact .terms ⟨_, .facet hfacet, hpath⟩ size

theorem writtenWith_of_sortKeyOf {key : SortKey} (h : c.registry.SortKeyOf p key) :
    key.toJson.WrittenWith (c.NamedPath p) (c.GivenText p) := by
  cases h with
  | field hsort hpath => exact .sortField ⟨_, .sortBy hsort, hpath⟩ p.sortOrder
  | distance hsort hpath hpin => exact .sortDistance ⟨_, .sortBy hsort, hpath⟩ (Or.inl (.pin hpin))
  | score => exact .word (by decide)
  | storage => exact .word (by decide)

/-- What can be traced is all that a body is written with. -/
theorem Traced.writtenWith (h : c.Traced p body) :
    body.WrittenWith (c.NamedPath p) (c.GivenText p) := by
  have hscoring : ∀ clause ∈ body.query.scoring,
      clause.toJson.WrittenWith (c.NamedPath p) (c.GivenText p) := by
    intro clause hclause
    obtain ⟨q, hq, rfl⟩ | ⟨condition, hcondition, hstands⟩ := h.scoring clause hclause
    · refine .keywords (fun f hf => Or.inr (Or.inr ⟨?_, hf⟩)) (Or.inl (.words hq))
      simp [hq]
    · exact writtenWith_of_clauseOf hcondition hstands
  have hfiltering : ∀ clause ∈ body.query.filtering,
      clause.toJson.WrittenWith (c.NamedPath p) (c.GivenText p) := by
    intro clause hclause
    obtain ⟨condition, hcondition, path, hpath, rfl⟩ := h.filtering clause hclause
    exact .term ⟨_, .filter hcondition, hpath⟩ (Or.inl (.filter hcondition))
  refine ⟨.object ?_, fun e he => ?_⟩
  -- one case for each member, in the order of `Body.members`; the aggregations are left out there
  · refine .append (.append (.append (.append (.append ?_ ?_) ?_) ?_) ?_) ?_
    · exact .optional (by decide) fun n _ => .int n
    · exact .cons (by decide) (.int _)
        (.cons (by decide) (.query h.noTerms hscoring hfiltering) .nil)
    · exact .nil
    · refine .optional (by decide) fun keys hkeys => .array fun key hkey => ?_
      have hsort : body.sort.getD [] = keys := congrArg (Option.getD · []) hkeys
      exact writtenWith_of_sortKeyOf (h.sort key (hsort ▸ hkey))
    · refine .optional (by decide) fun paths hpaths => .strings fun path hpath => ?_
      have hsource : body.source.getD [] = paths := congrArg (Option.getD · []) hpaths
      rcases h.source path (hsource ▸ hpath) with rfl | ⟨name, hname, hkept⟩
      · exact Or.inl (by decide)
      · exact Or.inr (Or.inl ⟨name, .field hname, hkept⟩)
    · cases body.countsAllHits with
      | false => exact .nil
      | true => exact .cons (by decide) (.bool true) .nil
  · obtain ⟨hfacet, hstands⟩ := h.aggregations e he
    exact writtenWith_of_aggregationOf hfacet hstands

/-- Whatever compiles, all its paths are kept by the registry for the fields that the request names.
What the request asks for stands in the places of values, and what it calls its facets names their
aggregations. -/
theorem paths_of_registry (c : Compiler) :
    (∀ p body, c.searchBody p = .ok body →
      c.Traced p body ∧ body.WrittenWith (c.NamedPath p) (c.GivenText p)) ∧
    ∀ (p : RandomRequest) body, c.randomBody p = .ok body →
      c.Traced { filter := p.filter } body ∧
        body.WrittenWith (c.NamedPath { filter := p.filter })
          (c.GivenText { filter := p.filter }) := by
  constructor
  · intro p body hbody
    have htraced := searchBody_traced hbody
    exact ⟨htraced, htraced.writtenWith⟩
  · intro p body hbody
    have htraced := randomBody_traced hbody
    exact ⟨htraced, htraced.writtenWith⟩

/-- A request whose values are all names or paths of fields. -/
theorem paths_of_pathlike_values :
    ∃ p body, searchBody ⟨Profile.registry, ["sourceResource.title^2"]⟩ p = .ok body ∧
      .term "provider.name.not_analyzed" "sourceResource.title" ∈ body.query.scoring ∧
      body.sort =
        some [.distance "sourceResource.spatial.coordinates" "order", .score, .storage] ∧
      Traced ⟨Profile.registry, ["sourceResource.title^2"]⟩ p body ∧
      body.WrittenWith (NamedPath ⟨Profile.registry, ["sourceResource.title^2"]⟩ p)
        (GivenText ⟨Profile.registry, ["sourceResource.title^2"]⟩ p) ∧
    ∃ (p' : RandomRequest) (body' : Body), randomBody ⟨Profile.registry, []⟩ p' = .ok body' ∧
      .term "dataProvider.name" "rights" ∈ body'.query.filtering ∧
      Traced ⟨Profile.registry, []⟩ { filter := p'.filter } body' ∧
      body'.WrittenWith (NamedPath ⟨Profile.registry, []⟩ { filter := p'.filter })
        (GivenText ⟨Profile.registry, []⟩ { filter := p'.filter }) := by
  have hsearch : searchBody ⟨Profile.registry, ["sourceResource.title^2"]⟩
      { exactFieldMatch := true
        q := some "id"
        fieldQueries := [⟨"provider.name", "sourceResource.title"⟩]
        filter := some [⟨"dataProvider", "rights"⟩]
        facets := some ["sourceResource.spatial.coordinates:42:-71"]
        fields := some ["dataProvider"]
        sortBy := some "sourceResource.spatial.coordinates"
        sortByPin := some "order" } = .ok
        { start := some 0
          size := 10
          query := .bool
            { must := some [.keywords ["sourceResource.title^2"] "id",
                .term "provider.name.not_analyzed" "sourceResource.title"]
              filter := some [.term "dataProvider.name" "rights"] }
          aggregations := some
            [("sourceResource.spatial.coordinates:42:-71",
              .distances "sourceResource.spatial.coordinates" "42,-71" distanceRanges)]
          sort := some [.distance "sourceResource.spatial.coordinates" "order", .score, .storage]
          source := some ["dataProvider.name"]
          countsAllHits := true } :=
    toOption_eq_some_iff.mp (by decide +kernel)
  have hrandom : randomBody ⟨Profile.registry, []⟩ { filter := some [⟨"dataProvider", "rights"⟩] } =
      .ok { size := 1, query := .random (some [.term "dataProvider.name" "rights"]) } :=
    toOption_eq_some_iff.mp (by decide +kernel)
  obtain ⟨htraced, hwritten⟩ := (paths_of_registry _).1 _ _ hsearch
  obtain ⟨htraced', hwritten'⟩ := (paths_of_registry _).2 _ _ hrandom
  exact ⟨_, _, hsearch, by simp [Query.scoring], rfl, htraced, hwritten,
    _, _, hrandom, by simp [Query.filtering], htraced', hwritten'⟩

end Compiler

end ItemSearch
