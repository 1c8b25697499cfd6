import ItemSearch.Proofs.Query.Ranges
import ItemSearch.Proofs.Validation.Acceptance

/-!
Which dates the bounds of ranges are. The names that ask for a range are names of date fields, and
the value that is given for one becomes the bound as it is, so a bound has the form that the rule
for dates lets through. This form is four digits, and behind dashes two more for the month and two
more for the day, but the digits may be those of any script. So a bound is a date that is written
in ASCII only if the value is, and every date in other digits is the bound of some range.
-/

namespace ItemSearch

instance : DecidablePred IsRangeName := fun name =>
  inferInstanceAs (Decidable (".before".toList <:+ name.toList ∨ ".after".toList <:+ name.toList))

namespace Text

/-- Of the digits of all scripts, those of ASCII are the ones from zero to nine. -/
theorem isAsciiDigit_iff {c : Char} :
    isAsciiDigit c = true ↔ isDigit c = true ∧ c.toNat < 0x80 := by
  have hbelow : ∀ n < 0x80, isAsciiDigit (Char.ofNat n) = isDigit (Char.ofNat n) := by
    decide +kernel
  have hsame : c.toNat < 0x80 → isAsciiDigit c = isDigit c := by
    intro hascii
    have hc := hbelow c.toNat hascii
    rwa [Char.ofNat_toNat] at hc
  constructor
  · intro h
    have hrange : '0' ≤ c ∧ c ≤ '9' := by simpa [isAsciiDigit] using h
    have hascii : c.toNat < 0x80 := Nat.lt_of_le_of_lt hrange.2 (by decide)
    exact ⟨hsame hascii ▸ h, hascii⟩
  · rintro ⟨hdigit, hascii⟩
    rwa [hsame hascii]

end Text

namespace Rule

/-- The text with a zero for each digit of ASCII. -/
def dateForm (s : List Char) : List Char := s.map fun c => if Text.isAsciiDigit c then '0' else c

/-- A date in digits of ASCII: a year, a month of a year, or a day of a month. -/
def IsPlainDate (s : List Char) : Prop :=
  dateForm s ∈ ["0000".toList, "0000-00".toList, "0000-00-00".toList]

instance : DecidablePred IsPlainDate := fun s =>
  inferInstanceAs (Decidable (dateForm s ∈ ["0000".toList, "0000-00".toList, "0000-00-00".toList]))

theorem dateForm_eq_replicate_iff {n : Nat} {s : List Char} :
    dateForm s = List.replicate n '0' ↔ Digits n s ∧ ∀ c ∈ s, c.toNat < 0x80 := by
  have hzero : ∀ c : Char, (if Text.isAsciiDigit c then '0' else c) = '0' ↔
      Text.isDigit c = true ∧ c.toNat < 0x80 := by
    intro c
    rw [← Text.isAsciiDigit_iff]
    split
    · next hdigit => simp [hdigit]
    · next hdigit =>
        refine ⟨?_, fun h => absurd h hdigit⟩
        rintro rfl
        exact absurd (by decide) hdigit
  rw [dateForm, List.eq_replicate_iff, List.length_map, List.forall_mem_map, Digits, and_assoc]
  simp only [hzero, forall_and]

theorem dateForm_dash_iff {s form rest : List Char} :
    dateForm s = form ++ '-' :: rest ↔
      ∃ a b, s = a ++ '-' :: b ∧ dateForm a = form ∧ dateForm b = rest := by
  have hdash : ∀ c : Char, (if Text.isAsciiDigit c then '0' else c) = '-' ↔ c = '-' := by
    intro c
    split
    · next hdigit =>
        refine ⟨fun h => absurd h (by decide), ?_⟩
        rintro rfl
        exact absurd hdigit (by decide)
    · rfl
  simp only [dateForm, List.map_eq_append_iff, List.map_eq_cons_iff, hdash]
  constructor
  · rintro ⟨a, _, rfl, ha, c, b, rfl, rfl, hb⟩
    exact ⟨a, b, rfl, ha, hb⟩
  · rintro ⟨a, b, rfl, ha, hb⟩
    exact ⟨a, _, rfl, ha, '-', b, rfl, rfl, hb⟩

/-- The rule for dates goes by digits of any script, and these are all that sets it apart. -/
theorem isPlainDate_iff {s : List Char} :
    IsPlainDate s ↔ IsDate s ∧ ∀ c ∈ s, c.toNat < 0x80 := by
  have hyear : "0000".toList = List.replicate 4 '0' := rfl
  have hmonth : "0000-00".toList = List.replicate 4 '0' ++ '-' :: List.replicate 2 '0' := rfl
  have hday : "0000-00-00".toList =
      List.replicate 4 '0' ++ '-' :: (List.replicate 2 '0' ++ '-' :: List.replicate 2 '0') := rfl
  have hjoined : ∀ {a b : List Char}, (∀ c ∈ a ++ '-' :: b, c.toNat < 0x80) ↔
      (∀ c ∈ a, c.toNat < 0x80) ∧ ∀ c ∈ b, c.toNat < 0x80 := by
    intro a b
    rw [List.forall_mem_append, List.forall_mem_cons, and_iff_right (by decide : '-'.toNat < 0x80)]
  simp only [IsPlainDate, hyear, hmonth, hday, List.mem_cons, List.not_mem_nil, or_false,
    dateForm_dash_iff, dateForm_eq_replicate_iff]
  constructor
  · rintro (⟨hy, hascii⟩ | ⟨y, m, rfl, ⟨hy, hyascii⟩, hm, hmascii⟩ |
      ⟨y, _, rfl, ⟨hy, hyascii⟩, m, d, rfl, ⟨hm, hmascii⟩, hd, hdascii⟩)
    · exact ⟨.year hy, hascii⟩
    · exact ⟨.month hy hm, hjoined.mpr ⟨hyascii, hmascii⟩⟩
    · exact ⟨.day hy hm hd, hjoined.mpr ⟨hyascii, hjoined.mpr ⟨hmascii, hdascii⟩⟩⟩
  · rintro ⟨hy | ⟨hy, hm⟩ | ⟨hy, hm, hd⟩, hascii⟩
    · exact Or.inl ⟨hy, hascii⟩
    · obtain ⟨hyascii, hmascii⟩ := hjoined.mp hascii
      exact Or.inr (Or.inl ⟨_, _, rfl, ⟨hy, hyascii⟩, hm, hmascii⟩)
    · obtain ⟨hyascii, hrest⟩ := hjoined.mp hascii
      obtain ⟨hmascii, hdascii⟩ := hjoined.mp hrest
      exact Or.inr (Or.inr ⟨_, _, rfl, ⟨hy, hyascii⟩, _, _, rfl, ⟨hm, hmascii⟩, hd, hdascii⟩)

end Rule

/-! ### Ranges and the conditions they come from -/

namespace Compiler

variable {c : Compiler} {p : SearchRequest}

/-- The ranges among the clauses that count for the ranking come from the conditions on names that
ask for one. -/
theorem ScoringClauses.range_mem_iff {clauses : List Clause} (h : c.ScoringClauses p clauses)
    {path : String} {bound : Bound} {value : String} :
    .range path bound value ∈ clauses ↔ ∃ condition ∈ p.fieldQueries,
      AsksFor condition.field bound ∧ c.registry.backendPath? condition.field = some path ∧
        condition.value = value := by
  rw [h.mem_iff]
  constructor
  · rintro (hword | ⟨condition, hcondition, part, hstands, hrange⟩)
    · simp [mem_wordClauses_iff] at hword
    · cases hstands with
      | range hbound hpath =>
          obtain ⟨rfl, rfl, rfl⟩ := Clause.range.inj (List.mem_singleton.mp hrange)
          exact ⟨condition, hcondition, boundOf?_eq_some_iff.mp hbound, hpath, rfl⟩
      | terms _ _ _ => simp at hrange
      | keywords _ _ _ => simp at hrange
  · rintro ⟨condition, hcondition, hasks, hpath, rfl⟩
    exact Or.inr ⟨condition, hcondition, _, .range (boundOf?_eq_some_iff.mpr hasks) hpath,
      List.mem_singleton_self _⟩

end Compiler

/-- The names that ask for a range are names of date fields. -/
theorem Profile.date_of_isRangeName :
    ∀ f ∈ registry.fields, IsRangeName f.name → f.type = .date := by
  decide +kernel

namespace Validator

variable {maxPageSize : Int} {urls : Url.Check} {keywordFields : List String} {raw : RawParams}
  {p : SearchRequest}
  {body : Body} {path value : String} {bound : Bound}

/-- The ranges of an accepted search are those that its parameters ask for. -/
theorem range_mem_scoring_iff (hp : search ⟨Profile.registry, maxPageSize, urls⟩ raw = .ok p)
    (hbody : Compiler.searchBody ⟨Profile.registry, keywordFields⟩ p = .ok body) :
    .range path bound value ∈ body.query.scoring ↔
      ∃ name ∈ Profile.registry.searchableNames, AsksFor name bound ∧
        Profile.registry.backendPath? name = some path ∧ raw.value? name = some value := by
  obtain ⟨query, _, _, _, hquery, -, -, -, rfl⟩ := Compiler.searchBody_eq_ok_iff.mp hbody
  rw [(Compiler.query_clauses hquery).1.range_mem_iff, (search_eq_ok_iff.mp hp).2.fieldQueries]
  simp only [mem_givenConditions_iff]
  constructor
  · rintro ⟨condition, ⟨hname, hvalue⟩, hasks, hpath, rfl⟩
    exact ⟨condition.field, hname, hasks, hpath, hvalue⟩
  · rintro ⟨name, hname, hasks, hpath, hvalue⟩
    exact ⟨⟨name, value⟩, ⟨hname, hvalue⟩, hasks, hpath, rfl⟩

theorem isDate_of_range_mem (hp : search ⟨Profile.registry, maxPageSize, urls⟩ raw = .ok p)
    (hbody : Compiler.searchBody ⟨Profile.registry, keywordFields⟩ p = .ok body)
    (hmem : .range path bound value ∈ body.query.scoring) : Rule.IsDate value.toList := by
  obtain ⟨name, hname, hasks, -, hvalue⟩ := (range_mem_scoring_iff hp hbody).mp hmem
  obtain ⟨f, hf, rfl, hflag⟩ := Registry.mem_searchableNames_iff.mp hname
  have hfits := (search_eq_ok_iff.mp hp).2.valuesFit f hf hflag value hvalue
  rwa [Profile.date_of_isRangeName f hf (isRangeName_iff_asksFor.mpr ⟨bound, hasks⟩)] at hfits

/-- Every date in digits of any script is the bound of a range. -/
theorem exists_range_of_isDate (hdate : Rule.IsDate value.toList) :
    ∃ p body,
      search ⟨Profile.registry, maxPageSize, urls⟩ [("sourceResource.date.after", value)] = .ok p ∧
      Compiler.searchBody ⟨Profile.registry, keywordFields⟩ p = .ok body ∧
      .range "sourceResource.date.end" .atLeast value ∈ body.query.scoring := by
  obtain ⟨f, hf, hname, hflag, htype⟩ : ∃ f ∈ Profile.registry.fields,
      f.name = "sourceResource.date.after" ∧ f.searchable = true ∧ f.type = .date := by
    decide +kernel
  have haccepts : Accepts ⟨Profile.registry, maxPageSize, urls⟩ [(f.name, value)] :=
    accepts_singleton hf hflag (by rw [hname]; decide) (by rwa [htype])
  rw [hname] at haccepts
  obtain ⟨p, hreads⟩ := haccepts.exists_reads
  have hp := search_eq_ok_iff.mpr ⟨haccepts.knows, hreads⟩
  obtain ⟨body, hbody⟩ := exists_searchBody_of_accepted keywordFields hp
  have hvalue : RawParams.value? [("sourceResource.date.after", value)]
      "sourceResource.date.after" = some value := by
    refine RawParams.value?_eq_some_iff.mpr ⟨by simp [Assoc.find?], ?_⟩
    rintro rfl
    exact absurd (Rule.isDateChars_iff.mpr hdate) (by decide)
  refine ⟨p, body, hp, hbody, (range_mem_scoring_iff hp hbody).mpr ⟨_, ?_, ?_, ?_, hvalue⟩⟩
  · exact Registry.mem_searchableNames_iff.mpr ⟨f, hf, hname, hflag⟩
  · exact .after (by decide)
  · decide +kernel

/-- The bound of a range is a date in digits of some script, and a date in digits of ASCII if it has
no characters beyond ASCII. There are no other restrictions: each such date is a bound. -/
theorem range_values_of_accepted (maxPageSize : Int) (urls : Url.Check)
    (keywordFields : List String) :
    (∀ raw p, search ⟨Profile.registry, maxPageSize, urls⟩ raw = .ok p →
      ∃ body, Compiler.searchBody ⟨Profile.registry, keywordFields⟩ p = .ok body ∧
        ∀ path bound value, .range path bound value ∈ body.query.scoring →
          Rule.IsDate value.toList ∧
            (Rule.IsPlainDate value.toList ↔ ∀ c ∈ value.toList, c.toNat < 0x80)) ∧
    ∀ value : String, Rule.IsDate value.toList → ∃ p body,
      search ⟨Profile.registry, maxPageSize, urls⟩ [("sourceResource.date.after", value)] = .ok p ∧
      Compiler.searchBody ⟨Profile.registry, keywordFields⟩ p = .ok body ∧
      .range "sourceResource.date.end" .atLeast value ∈ body.query.scoring := by
  refine ⟨?_, fun value hdate => exists_range_of_isDate hdate⟩
  intro raw p hp
  obtain ⟨body, hbody⟩ := exists_searchBody_of_accepted keywordFields hp
  refine ⟨body, hbody, fun path bound value hmem => ?_⟩
  have hdate := isDate_of_range_mem hp hbody hmem
  exact ⟨hdate, Rule.isPlainDate_iff.trans (and_iff_right hdate)⟩

/-- A month in digits of ASCII, and a year in Devanagari digits. -/
theorem range_values_of_month_and_year :
    (∃ p body,
      search ⟨Profile.registry, 500, .sample⟩ [("sourceResource.date.after", "1990-05")] = .ok p ∧
      Compiler.searchBody ⟨Profile.registry, []⟩ p = .ok body ∧
      .range "sourceResource.date.end" .atLeast "1990-05" ∈ body.query.scoring ∧
      Rule.IsDate "1990-05".toList ∧ Rule.IsPlainDate "1990-05".toList) ∧
    Rule.IsDate "१९९०".toList ∧
    ∃ p body,
      search ⟨Profile.registry, 500, .sample⟩ [("sourceResource.date.after", "१९९०")] = .ok p ∧
      Compiler.searchBody ⟨Profile.registry, []⟩ p = .ok body ∧
      .range "sourceResource.date.end" .atLeast "१९९०" ∈ body.query.scoring := by
  have hmonth : Rule.IsDate "1990-05".toList := Rule.isDateChars_iff.mp (by decide +kernel)
  have hyear : Rule.IsDate "१९९०".toList := Rule.isDateChars_iff.mp (by decide +kernel)
  obtain ⟨p, body, hp, hbody, hmem⟩ := exists_range_of_isDate hmonth
  obtain ⟨body', hbody', hbounds⟩ := (range_values_of_accepted 500 .sample []).1 _ p hp
  obtain rfl := Except.ok.inj (hbody.symm.trans hbody')
  obtain ⟨hdate, hplain⟩ := hbounds _ _ _ hmem
  have hascii : ∀ c ∈ "1990-05".toList, c.toNat < 0x80 := Text.forall_mem_of_all (by decide)
  exact ⟨⟨p, body, hp, hbody, hmem, hdate, hplain.mpr hascii⟩, hyear,
    (range_values_of_accepted 500 .sample []).2 _ hyear⟩

/-- A year in fullwidth digits is accepted and becomes the bound of a range. -/
theorem fullwidth_year_is_bound :
    ¬ Rule.IsPlainDate "１９００".toList ∧ ∃ p body,
      search ⟨Profile.registry, 500, .sample⟩ [("sourceResource.date.after", "１９００")] = .ok p ∧
      Compiler.searchBody (Compiler.of Profile.registry) p = .ok body ∧
      .range "sourceResource.date.end" .atLeast "１９００" ∈ body.query.scoring := by
  have hyear : Rule.IsDate "１９００".toList := Rule.isDateChars_iff.mp (by decide +kernel)
  exact ⟨by decide +kernel, exists_range_of_isDate hyear⟩

end Validator

end ItemSearch
