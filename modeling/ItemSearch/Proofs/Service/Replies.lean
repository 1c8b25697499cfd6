import ItemSearch.Proofs.Backend.Call
import ItemSearch.Proofs.Http.Reply
import ItemSearch.Proofs.Response.Answer
import ItemSearch.Proofs.Validation.ClientError

/-!
From requests to replies. Requests of all kinds are handled alike: one with a fault is explained
without a call of the backend, and any other is compiled and sent once. What the compiler refuses
and what the reader refuses does not come up, for accepted requests compile and answers can be read.
-/

namespace ItemSearch

open Http (Reply)

/-- What a run comes to, given what comes of validating its request. An answer is sent if all of its
integers can be written. -/
inductive Service.Handles {α : Type} (s : Service) (backend : Backend) (encode : Json → Json)
    (validated : Except Rejection α) (compile : α → Except UnknownField Body)
    (map : α → Json → Shaped ItemList) (run : Run ItemList) : Prop where
  | refused {fault : Fault} (hvalidated : validated = .error (.fault fault))
      (hcalls : run.calls = [])
      (hreply : Reply.ofResult encode run.result =
        { status := 400
          content := .json (.obj [("message", .str fault.apiError.message), ("code", .int 400)]) })
  | asked {request : α} {body : Body} {call : Call} (hvalidated : validated = .ok request)
      (hbody : compile request = .ok body) (hcalls : run.calls = [call])
      (hcall : call = ("index", .str s.index) ::
        body.members.map fun m => (Call.argument m.1, m.2))
      (hdistinct : (call.map Prod.fst).Nodup)
      (hfailure : backend.answer call = .failure → Reply.ofResult encode run.result =
        { status := 500
          content := .json (.obj [("message", .str "Internal error"), ("code", .int 500)]) })
      (hanswer : ∀ response hits, backend.answer call = .response response →
        IsAnswer body response hits → ∃ list shown, map request response = .ok list ∧
          shown = { list with items := list.items.map encode } ∧
          (shown.toJson.isWritable = true →
            Reply.ofResult encode run.result = { status := 200, content := .json shown.toJson }))

theorem Fault.status_apiError (fault : Fault) : fault.apiError.status = 400 := by
  cases fault <;> rfl

namespace Service

variable {s : Service} {backend : Backend} {encode : Json → Json}

/-- Whatever the kind of the request: it is handled if it is refused with an explanation only,
compiles when it is accepted, and can have its answer read. -/
theorem handles_of_run (hencode : Http.IsEncoder encode) {α : Type} {validated : Except Rejection α}
    {compile : α → Except UnknownField Body} {map : α → Json → Shaped ItemList}
    {run : Run ItemList}
    (hexplained : ∀ e, validated ≠ .error (.tooManyDigits e))
    (hcompiles : ∀ request, validated = .ok request → Succeeds (compile request))
    (hreads : ∀ request body, validated = .ok request → compile request = .ok body →
      ∀ response hits, IsAnswer body response hits → Succeeds (map request response))
    (herror : ∀ e, validated = .error e → run = ⟨[], .error (.ofRejection e)⟩)
    (hok : ∀ request body, validated = .ok request → compile request = .ok body →
      run = s.run backend (.ok body) (map request)) :
    s.Handles backend encode validated compile map run := by
  cases hvalidated : validated with
  | error rejection =>
      cases rejection with
      | tooManyDigits e => exact absurd hvalidated (hexplained e)
      | fault fault =>
          rw [herror _ hvalidated]
          refine .refused rfl rfl ?_
          show Reply.ofError fault.apiError = _
          rw [Reply.ofError, fault.status_apiError]
          rfl
  | ok request =>
      obtain ⟨body, hbody⟩ := hcompiles request hvalidated
      rw [hok request body hvalidated hbody]
      refine .asked rfl hbody rfl (Call.search_members s.index body)
        (Call.nodup_keys_search s.index body) ?_ ?_
      · intro hfailure
        simp only [Service.run, hfailure]
        rfl
      · intro response hits hresponse hanswer
        obtain ⟨list, hlist⟩ := hreads request body hvalidated hbody response hits hanswer
        refine ⟨list, _, hlist, rfl, fun hwritable => ?_⟩
        simp only [Service.run, hresponse, hlist]
        show Reply.ok encode list.toJson = _
        rw [Reply.ok, Http.encode_toJson hencode, if_pos hwritable]

/-- A search that is accepted and compiled is sent. -/
theorem search_eq_run {raw : RawParams} {p : SearchRequest} {body : Body}
    (hp : s.validator.search raw = .ok p) (hbody : s.compiler.searchBody p = .ok body) :
    s.search backend raw = s.run backend (.ok body) (ItemList.ofSearch p) := by
  have hprepare : s.prepareSearch raw = .ok (p, body) := by
    rw [prepareSearch, hp]
    show (do let body ← (s.compiler.searchBody p).mapError Failure.ofUnknownField; _) = _
    rw [hbody]
    rfl
  rw [search, hprepare]

theorem search_result {raw : RawParams} {p : SearchRequest} {body : Body} {response : Json}
    {list : ItemList} (hp : s.validator.search raw = .ok p)
    (hbody : s.compiler.searchBody p = .ok body)
    (hresponse : backend.answer (Call.search s.index body.members) = .response response)
    (hlist : ItemList.ofSearch p response = .ok list) :
    (s.search backend raw).result = .ok list := by
  rw [search_eq_run hp hbody]
  simp only [run, hresponse, hlist]
  rfl

/-- Every request is handled, unless a search has a numeral that is too long. The bound of page
sizes is one that can be written. -/
theorem handles_every_request (maxPageSize : Int) (hmax : Text.IsWritable maxPageSize)
    (urls : Url.Check) (index : String) (backend : Backend) (encode : Json → Json)
    (hencode : Http.IsEncoder encode) (raw : RawParams) (path : String) :
    let s := Service.of Profile.registry maxPageSize urls index
    (Validator.HasShortNumerals raw →
      s.Handles backend encode (s.validator.search raw) s.compiler.searchBody ItemList.ofSearch
        (s.search backend raw)) ∧
    s.Handles backend encode (s.validator.identifiers path raw)
      (fun ids => .ok (s.compiler.fetchBody ids)) (fun _ => ItemList.ofFetch)
      (s.fetch backend path raw) ∧
    s.Handles backend encode (s.validator.random raw) s.compiler.randomBody
      (fun _ => ItemList.ofFetch) (s.random backend raw) := by
  intro s
  refine ⟨fun hshort => ?_, ?_, ?_⟩
  · refine handles_of_run hencode (Validator.search_ne_tooManyDigits hshort hmax)
      (fun p hp => Validator.exists_searchBody_of_accepted _ hp) ?_ ?_ ?_
    · intro p body hp hbody response hits hanswer
      have hreads := (Validator.search_eq_ok_iff.mp hp).2
      obtain ⟨facets, hlist⟩ := hreads.ofSearch_eq_ok Validator.plain_names hbody hanswer
      exact ⟨_, hlist⟩
    · intro e he
      have hprepare : s.prepareSearch raw = .error (.ofRejection e) := by
        rw [prepareSearch, he]
        rfl
      rw [search, hprepare]
    · exact fun p body hp hbody => search_eq_run hp hbody
  · refine handles_of_run hencode (Validator.identifiers_ne_tooManyDigits hmax path)
      (fun ids _ => succeeds_ok _) ?_ ?_ ?_
    · intro _ body _ _ response hits hanswer
      obtain ⟨n, hlist⟩ := hanswer.ofFetch_eq_ok
      exact ⟨_, hlist⟩
    · intro e he
      rw [fetch, he]
      rfl
    · intro ids body hids hbody
      rw [fetch, hids, ← Except.ok.inj hbody]
      rfl
  · refine handles_of_run hencode Validator.random_ne_tooManyDigits
      (fun p hp => Validator.exists_randomBody_of_accepted _ hp) ?_ ?_ ?_
    · intro _ body _ _ response hits hanswer
      obtain ⟨n, hlist⟩ := hanswer.ofFetch_eq_ok
      exact ⟨_, hlist⟩
    · intro e he
      rw [random, he]
      rfl
    · intro p body hp hbody
      rw [random, hp]
      show s.run backend ((s.compiler.randomBody p).mapError Failure.ofUnknownField) _ = _
      rw [hbody]
      rfl

/-! ### A search without parameters -/

theorem search_nil : Validator.search ⟨Profile.registry, 500, .sample⟩ [] = .ok {} :=
  toOption_eq_some_iff.mp (by decide +kernel)

/-- It is sent although the backend is down, and the caller learns nothing of that. -/
theorem handles_search_of_everything :
    let run := (of Profile.registry 500 .sample "dpla_alias").search ⟨fun _ => .failure, false⟩ []
    Text.IsWritable 500 ∧ Http.IsEncoder Http.withoutInternal ∧ Validator.HasShortNumerals [] ∧
      run.calls.length = 1 ∧ Reply.ofResult Http.withoutInternal run.result =
        { status := 500
          content := .json (.obj [("message", .str "Internal error"), ("code", .int 500)]) } := by
  intro run
  have hmax : Text.IsWritable 500 := by decide
  have hshort : Validator.HasShortNumerals [] := by
    rintro name - digits ⟨_, hvalue, -⟩
    simp [RawParams.value?] at hvalue
  refine ⟨hmax, Http.isEncoder_withoutInternal, hshort, ?_⟩
  cases (handles_every_request 500 hmax .sample "dpla_alias" ⟨fun _ => .failure, false⟩ _
    Http.isEncoder_withoutInternal [] "").1 hshort with
  | refused hvalidated => simp [of, search_nil] at hvalidated
  | asked _ _ hcalls _ _ hfailure => exact ⟨congrArg List.length hcalls, hfailure rfl⟩

theorem ofSearch_of_internal :
    ItemList.ofSearch {} (.obj [("hits", .obj [("total", .obj [("value", .int 1)]),
      ("hits", .arr [.obj [("_source", .obj [("_sa_x", .int 1)])]])])]) = .ok
        { count := some 1, start := some 1, limit := some 10,
          items := [.obj [("_sa_x", .int 1)]] } :=
  toOption_eq_some_iff.mp (by decide +kernel)

/-- The only hit has a member with an internal name, and its document comes back without it. Where
an integer of a document has too many digits, nothing comes back; and where the bound of page sizes
has, a page size is not explained. -/
theorem not_sent_as_answered :
    let hit : Json := .obj [("_source", .obj [("_sa_x", .int 1)])]
    let response : Json := .obj [("hits", .obj
      [("total", .obj [("value", .int 1)]), ("hits", .arr [hit])])]
    let long : Int := Int.ofNat (Nat.pow 10 4300)
    let longHit : Json := .obj [("_source", .obj [("n", .int long)])]
    let longResponse : Json := .obj [("hits", .obj [("hits", .arr [longHit])])]
    let s := of Profile.registry 500 .sample "dpla_alias"
    let reply (maxPageSize : Int) (response : Json) (raw : RawParams) :=
      Reply.ofResult Http.withoutInternal ((of Profile.registry maxPageSize .sample
        "dpla_alias").search ⟨fun _ => .response response, true⟩ raw).result
    let unexplained : Reply :=
      { status := 500
        content := .text "Internal Server Error"
        failure := some (.tooManyDigits .written) }
    (∃ body list, s.validator.search [] = .ok {} ∧ s.compiler.searchBody {} = .ok body ∧
      IsAnswer body response [hit] ∧ ItemList.ofSearch {} response = .ok list ∧
      list.items = [.obj [("_sa_x", .int 1)]] ∧
      reply 500 response [] =
        { status := 200, content := .json { list with items := [.obj []] }.toJson } ∧
      reply 500 response [] ≠ { status := 200, content := .json list.toJson }) ∧
    (ItemList.ofSearch {} longResponse = .ok
        { count := some 1, start := some 1, limit := some 10,
          items := [.obj [("n", .int long)]] } ∧
      reply 500 longResponse [] = unexplained) ∧
    reply long response [("page_size", "5")] = unexplained := by
  intro hit response long longHit longResponse s reply unexplained
  refine ⟨?internal, ?answer, ?bound⟩
  case internal =>
    have hp : s.validator.search [] = .ok {} := search_nil
    obtain ⟨body, hbody⟩ : ∃ body, s.compiler.searchBody {} = .ok body :=
      Validator.exists_searchBody_of_accepted Compiler.itemKeywordFields hp
    have hlist := ofSearch_of_internal
    have haggregations : ∀ sent, response.member? "aggregations" ≠ some sent := by
      simp [response, Json.member?, Assoc.find?]
    have hreply : reply 500 response [] = Reply.ok Http.withoutInternal (ItemList.toJson
        { count := some 1
          start := some 1
          limit := some 10
          items := [.obj [("_sa_x", .int 1)]] }) := by
      show Reply.ofResult _ (s.search ⟨fun _ => .response response, true⟩ []).result = _
      rw [search_result hp hbody rfl hlist]
      rfl
    refine ⟨body, _, hp, hbody, ⟨⟨_, rfl, rfl, 1, .value rfl rfl⟩, ?_, ?_⟩, hlist, rfl, ?_, ?_⟩
    · intro h hh
      rw [List.mem_singleton.mp hh]
      exact ⟨_, rfl⟩
    · exact fun sent hsent => absurd hsent (haggregations sent)
    · rw [hreply]
      decide +kernel
    · rw [hreply]
      decide +kernel
  case answer => exact ⟨toOption_eq_some_iff.mp (by decide +kernel), by decide +kernel⟩
  case bound => decide +kernel

end Service

end ItemSearch
