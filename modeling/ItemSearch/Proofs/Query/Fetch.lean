import ItemSearch.Proofs.Query.Meaning
import Mathlib.Data.List.Perm.Subperm

/-!
Items that are asked for by their identifiers. A path is its segments with commas between them, and
it is accepted where no parameter comes with it, the segments are not too many, and each has the
form of an identifier; they are looked at in this order. What is accepted is asked for as it stands,
and the page has room for as many items as identifiers have been given. Where an identifier belongs
to one item at most, as many are never found, so that none is left out for want of room.
-/

namespace ItemSearch

namespace Rule

/-- A letter or a digit of ASCII. -/
def IsAlphanumeric (c : Char) : Prop :=
  ('a' ≤ c ∧ c ≤ 'z') ∨ ('A' ≤ c ∧ c ≤ 'Z') ∨ ('0' ≤ c ∧ c ≤ '9')

/-- The form of an identifier. -/
structure IsIdentifier (s : String) : Prop where
  length_eq : s.toList.length = 32
  alphanumeric : ∀ c ∈ s.toList, IsAlphanumeric c

theorem isAlphanumeric_iff {c : Char} : isAlphanumeric c = true ↔ IsAlphanumeric c := by
  simp [isAlphanumeric, IsAlphanumeric, or_assoc]

theorem isIdentifier_iff {s : String} : isIdentifier s = true ↔ IsIdentifier s := by
  rw [isIdentifier, Bool.and_eq_true, decide_eq_true_iff, List.all_eq_true]
  simp only [isAlphanumeric_iff]
  exact ⟨fun h => ⟨h.1, h.2⟩, fun h => ⟨h.length_eq, h.alphanumeric⟩⟩

/-- One segment that is no identifier is enough to refuse them, and it does not matter which. -/
theorem mapM_identifier_eq_error {segments : List String}
    (h : ∃ s ∈ segments, ¬ IsIdentifier s) :
    segments.mapM identifier = .error (.violation .identifierForm) := by
  obtain ⟨s, hs, hform⟩ := h
  have hbad : identifier s = .error (.violation .identifierForm) :=
    if_neg (isIdentifier_iff.not.mpr hform)
  cases hmap : segments.mapM identifier with
  | ok ids =>
      obtain ⟨_, hok⟩ := succeeds_mapM_iff.mp ⟨ids, hmap⟩ s hs
      rw [hbad] at hok
      simp at hok
  | error e =>
      obtain ⟨t, -, ht⟩ := exists_of_mapM_eq_error hmap
      unfold identifier at ht
      split at ht
      · simp at ht
      · exact congrArg _ (Except.error.inj ht).symm

end Rule

namespace Body

/-- The body asks for the items with these identifiers, from the first one on, and for as many as
there are identifiers. -/
structure Fetches (body : Body) (path : String) (ids : List String) : Prop where
  query : body.query = .terms path ids
  start : body.start = some 0
  size : body.size = ids.length

variable {body : Body} {path : String} {ids : List String} {Doc : Type}
  {satisfies : Doc → Clause → Prop} {docs found : List Doc}

/-- A document is asked for if it has one of the identifiers. -/
theorem Fetches.holds_iff (h : body.Fetches path ids) {d : Doc} :
    body.query.Holds (satisfies d) ↔ ∃ id ∈ ids, satisfies d (.term path id) := by
  rw [h.query]
  rfl

/-- Documents that share no identifier are no more than the page has room for. -/
theorem Fetches.length_le_size (h : body.Fetches path ids)
    (hone : docs.Pairwise fun d e => ∀ id, satisfies d (.term path id) →
      ¬ satisfies e (.term path id))
    (hfound : found.Sublist docs) (hholds : ∀ d ∈ found, body.query.Holds (satisfies d)) :
    (found.length : Int) ≤ body.size := by
  simp only [h.holds_iff] at hholds
  -- of the identifiers that a document has, one is chosen, and no other document has it
  choose! idOf hmem hsatisfies using hholds
  have hpairwise : found.Pairwise fun d e => idOf d ≠ idOf e := by
    have hdistinct := (hone.sublist hfound).imp_of_mem (S := fun d e => idOf d ≠ idOf e)
    apply hdistinct
    intro d e hd he hde heq
    exact hde (idOf d) (hsatisfies d hd) (heq ▸ hsatisfies e he)
  have hnodup : (found.map idOf).Nodup := List.pairwise_map.mpr hpairwise
  have hsubset : found.map idOf ⊆ ids := by
    intro id hid
    obtain ⟨d, hd, rfl⟩ := List.mem_map.mp hid
    exact hmem d hd
  have hlength := hnodup.length_le_of_subset hsubset
  rw [List.length_map] at hlength
  rw [h.size]
  exact Int.ofNat_le.mpr hlength

end Body

namespace Validator

/-- The identifiers in the path are refused with this error. -/
def RefusesIdentifiers (v : Validator) (path : String) (raw : RawParams) (e : ApiError) : Prop :=
  ∃ fault, v.identifiers path raw = .error (.fault fault) ∧ fault.apiError = e

variable {v : Validator} {path : String} {raw : RawParams} {ids : List String}

theorem identifiers_eq_ok_iff_arePieces :
    v.identifiers path raw = .ok ids ↔ raw = [] ∧ Text.ArePieces ',' path ids ∧
      ids.length ≤ v.maxPageSize ∧ ∀ id ∈ ids, Rule.IsIdentifier id := by
  rw [identifiers_eq_ok_iff, eq_comm (a := ids), Text.splitOn_eq_iff]
  simp only [Rule.isIdentifier_iff]

/-- That there are too many segments is not said where the limit cannot be written. -/
theorem identifiers_of_not_isWritable {segments : List String}
    (hsegments : Text.ArePieces ',' path segments) (hmany : v.maxPageSize < segments.length)
    (hlimit : ¬ Text.IsWritable v.maxPageSize) :
    v.identifiers path [] = .error (.tooManyDigits .written) := by
  obtain rfl := Text.splitOn_eq_iff.mpr hsegments
  simp [identifiers, hmany, hlimit]

/-- A path of identifiers that no parameter comes with is accepted if its segments are not too many
and each is an identifier, and they are the identifiers. If it is refused, it is for the parameters
before the number of the segments, and for their number before their form; the number is explained
where the limit can be written, as that of settings always can
(`Settings.isWritable_of_ofVariables`). The body for accepted identifiers asks for each of them, and
for as many items as match where no two items share an identifier. -/
theorem fetch_by_identifiers (v : Validator) (keywordFields : List String) (path : String)
    (raw : RawParams) :
    (∃! segments, Text.ArePieces ',' path segments) ∧
      (∀ ids, v.identifiers path raw = .ok ids ↔ raw = [] ∧ Text.ArePieces ',' path ids ∧
        ids.length ≤ v.maxPageSize ∧ ∀ id ∈ ids, Rule.IsIdentifier id) ∧
      (raw ≠ [] → v.RefusesIdentifiers path raw
        ⟨.unrecognizedParameters, Text.join ", " (raw.map Prod.fst)⟩) ∧
      (∀ segments, Text.ArePieces ',' path segments → raw = [] →
        v.maxPageSize < segments.length → Text.IsWritable v.maxPageSize →
          v.RefusesIdentifiers path raw
            ⟨.tooManyIdentifiers,
              "The number of ids cannot exceed " ++ Text.decimal v.maxPageSize⟩) ∧
      (∀ segments, Text.ArePieces ',' path segments → raw = [] →
        segments.length ≤ v.maxPageSize → (∃ s ∈ segments, ¬ Rule.IsIdentifier s) →
          v.RefusesIdentifiers path raw
            ⟨.invalidParameter,
              "ID must be a String comprised of letters and numbers, and 32 characters long"⟩) ∧
      ∀ ids, v.identifiers path raw = .ok ids →
        (Compiler.fetchBody ⟨v.registry, keywordFields⟩ ids).Fetches
          v.registry.identifier.backendPath ids ∧
        ∀ (Doc : Type) (satisfies : Doc → Clause → Prop) (docs found : List Doc),
          (docs.Pairwise fun d e => ∀ id,
            satisfies d (.term v.registry.identifier.backendPath id) →
              ¬ satisfies e (.term v.registry.identifier.backendPath id)) →
          found.Sublist docs →
          (∀ d ∈ found,
            (Compiler.fetchBody ⟨v.registry, keywordFields⟩ ids).query.Holds (satisfies d)) →
          (found.length : Int) ≤ (Compiler.fetchBody ⟨v.registry, keywordFields⟩ ids).size := by
  refine ⟨⟨Text.splitOn ',' path, Text.splitOn_eq_iff.mp rfl, ?_⟩,
    fun ids => identifiers_eq_ok_iff_arePieces, ?_, ?_, ?_, ?_⟩
  · exact fun segments h => (Text.splitOn_eq_iff.mpr h).symm
  · intro hraw
    exact ⟨_, if_pos hraw, rfl⟩
  · rintro segments hsegments rfl hmany hlimit
    obtain rfl := Text.splitOn_eq_iff.mpr hsegments
    refine ⟨.tooManyIdentifiers v.maxPageSize, ?_, rfl⟩
    simp [identifiers, hmany, hlimit]
  · rintro segments hsegments rfl hfew hform
    obtain rfl := Text.splitOn_eq_iff.mpr hsegments
    refine ⟨.invalid .identifierForm, ?_, rfl⟩
    simp only [identifiers, ne_eq, not_true_eq_false, if_false, Int.not_lt.mpr hfew,
      Rule.mapM_identifier_eq_error hform]
    rfl
  · intro ids _
    have hfetches : (Compiler.fetchBody ⟨v.registry, keywordFields⟩ ids).Fetches
        v.registry.identifier.backendPath ids := ⟨rfl, rfl, rfl⟩
    exact ⟨hfetches, fun _ _ _ _ hone hfound hholds =>
      hfetches.length_le_size hone hfound hholds⟩

/-- Where two identifiers may be given, one that is given twice, of which one item is found. Three
segments are refused though one of them is empty, a digit beyond ASCII is refused, and parameters
are refused before anything else. -/
theorem fetch_by_repeated_identifier :
    identifiers ⟨Profile.registry, 2, .sample⟩
        "0123456789abcdef0123456789ABCDEF,0123456789abcdef0123456789ABCDEF" [] =
      .ok ["0123456789abcdef0123456789ABCDEF", "0123456789abcdef0123456789ABCDEF"] ∧
    (Compiler.fetchBody (Compiler.of Profile.registry)
        ["0123456789abcdef0123456789ABCDEF", "0123456789abcdef0123456789ABCDEF"]).Fetches "id"
      ["0123456789abcdef0123456789ABCDEF", "0123456789abcdef0123456789ABCDEF"] ∧
    ((["0123456789abcdef0123456789ABCDEF"].length : Nat) : Int) ≤
      (Compiler.fetchBody (Compiler.of Profile.registry)
        ["0123456789abcdef0123456789ABCDEF", "0123456789abcdef0123456789ABCDEF"]).size ∧
    RefusesIdentifiers ⟨Profile.registry, 2, .sample⟩ "0123456789abcdef0123456789ABCDEF,,a" []
      ⟨.tooManyIdentifiers, "The number of ids cannot exceed " ++ Text.decimal 2⟩ ∧
    RefusesIdentifiers ⟨Profile.registry, 2, .sample⟩ "٣123456789abcdef0123456789ABCDEF" []
      ⟨.invalidParameter,
        "ID must be a String comprised of letters and numbers, and 32 characters long"⟩ ∧
    RefusesIdentifiers ⟨Profile.registry, 2, .sample⟩ ",," [("fields", "id"), ("page", "1")]
      ⟨.unrecognizedParameters, Text.join ", " ["fields", "page"]⟩ := by
  have hpieces : ∀ {path segments}, Text.splitOn ',' path = segments →
      Text.ArePieces ',' path segments := Text.splitOn_eq_iff.mp
  obtain ⟨-, haccepts, -, -, -, hbody⟩ := fetch_by_identifiers ⟨Profile.registry, 2, .sample⟩
    Compiler.itemKeywordFields
    "0123456789abcdef0123456789ABCDEF,0123456789abcdef0123456789ABCDEF" []
  obtain ⟨-, -, -, hmany, -⟩ := fetch_by_identifiers ⟨Profile.registry, 2, .sample⟩
    Compiler.itemKeywordFields "0123456789abcdef0123456789ABCDEF,,a" []
  obtain ⟨-, -, -, -, hform, -⟩ := fetch_by_identifiers ⟨Profile.registry, 2, .sample⟩
    Compiler.itemKeywordFields "٣123456789abcdef0123456789ABCDEF" []
  obtain ⟨-, -, hparams, -⟩ := fetch_by_identifiers ⟨Profile.registry, 2, .sample⟩
    Compiler.itemKeywordFields ",," [("fields", "id"), ("page", "1")]
  have hid : Rule.IsIdentifier "0123456789abcdef0123456789ABCDEF" :=
    Rule.isIdentifier_iff.mp (by decide)
  have hok := (haccepts ["0123456789abcdef0123456789ABCDEF",
    "0123456789abcdef0123456789ABCDEF"]).mpr
      ⟨rfl, hpieces (by decide), by decide, by simp [hid]⟩
  obtain ⟨hfetches, hroom⟩ := hbody _ hok
  have hdigit : ¬ Rule.IsIdentifier "٣123456789abcdef0123456789ABCDEF" :=
    Rule.isIdentifier_iff.not.mp (by decide)
  -- an item is here its identifier, and the index has another one
  have hfound := hroom String (fun d clause => clause = .term "id" d)
    ["0123456789abcdef0123456789ABCDEF", "a"] ["0123456789abcdef0123456789ABCDEF"] (by
      rw [List.pairwise_pair]
      intro id hd he
      have heq := hd.symm.trans he
      simp at heq) (by simp) (by
      intro d hd
      rw [List.mem_singleton.mp hd]
      exact ⟨_, List.mem_cons_self .., rfl⟩)
  exact ⟨hok, hfetches, hfound,
    hmany _ (hpieces rfl) rfl (by decide) (by decide),
    hform _ (hpieces rfl) rfl (by decide)
      ⟨"٣123456789abcdef0123456789ABCDEF", by decide, hdigit⟩,
    hparams (List.cons_ne_nil _ _)⟩

end Validator

end ItemSearch
