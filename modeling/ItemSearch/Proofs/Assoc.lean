import ItemSearch.Assoc
import Mathlib.Data.List.Induction

/-!
Association lists without repeated keys. Such a list is its own list of last values, and what is
found under a key is exactly what stands beside it. The list of last values of any list has its keys
once each, in the order in which they first come; so has the list of first values, and in it the
same is found as in the list.
-/

namespace ItemSearch.Assoc

variable {α : Type}

theorem put_of_not_mem {key : String} {entries : List (String × α)}
    (h : key ∉ entries.map Prod.fst) (value : α) :
    put key value entries = entries ++ [(key, value)] := by
  induction entries with
  | nil => rfl
  | cons e rest ih =>
      obtain ⟨k, v⟩ := e
      simp only [List.map_cons, List.mem_cons, not_or] at h
      have hk : k ≠ key := fun heq => h.1 heq.symm
      simp [put, hk, ih h.2]

/-- Entries with new keys are added at the end, one after the other. -/
theorem foldl_put_of_nodup {written entries : List (String × α)}
    (h : ((written ++ entries).map Prod.fst).Nodup) :
    entries.foldl (fun acc e => put e.1 e.2 acc) written = written ++ entries := by
  induction entries generalizing written with
  | nil => simp
  | cons e rest ih =>
      have hnew : e.1 ∉ written.map Prod.fst := by
        intro hmem
        rw [List.map_append, List.nodup_append] at h
        exact h.2.2 e.1 hmem e.1 (List.mem_map_of_mem (List.mem_cons_self ..)) rfl
      rw [List.foldl_cons, put_of_not_mem hnew]
      rw [show written ++ e :: rest = written ++ [e] ++ rest by simp] at h ⊢
      exact ih h

theorem ofList_of_nodup {entries : List (String × α)} (h : (entries.map Prod.fst).Nodup) :
    ofList entries = entries :=
  foldl_put_of_nodup h

theorem mem_values_of_find? {key : String} {entries : List (String × α)} {value : α}
    (h : find? key entries = some value) : value ∈ entries.map Prod.snd := by
  induction entries with
  | nil => simp at h
  | cons e rest ih =>
      obtain ⟨k, v⟩ := e
      by_cases hk : k = key
      · simp only [find?, hk, if_true, Option.some.injEq] at h
        simp [h]
      · simp only [find?, hk, if_false] at h
        exact List.mem_cons_of_mem _ (ih h)

theorem find?_eq_some_iff_mem {entries : List (String × α)} (h : (entries.map Prod.fst).Nodup)
    {key : String} {value : α} : find? key entries = some value ↔ (key, value) ∈ entries := by
  induction entries with
  | nil => simp
  | cons e rest ih =>
      obtain ⟨k, v⟩ := e
      rw [List.map_cons, List.nodup_cons] at h
      by_cases hk : k = key
      · subst hk
        simp only [find?, if_true, Option.some.injEq, List.mem_cons, Prod.mk.injEq, true_and]
        constructor
        · exact fun hv => Or.inl hv.symm
        · rintro (rfl | hmem)
          · rfl
          · exact absurd (List.mem_map_of_mem hmem) h.1
      · have hk' : key ≠ k := fun heq => hk heq.symm
        simp [find?, hk, hk', ih h.2]

/-! ### Lists of last values -/

theorem keys_put (key : String) (value : α) (entries : List (String × α)) :
    (put key value entries).map Prod.fst =
      if key ∈ entries.map Prod.fst then entries.map Prod.fst
      else entries.map Prod.fst ++ [key] := by
  induction entries with
  | nil => simp [put]
  | cons e rest ih =>
      obtain ⟨k, v⟩ := e
      by_cases hk : k = key
      · simp [put, hk]
      · have hk' : ¬ key = k := fun heq => hk heq.symm
        simp only [put, hk, if_false, List.map_cons, ih, List.mem_cons, hk', false_or]
        split <;> simp

theorem mem_of_mem_put {key : String} {value : α} {entries : List (String × α)} {e : String × α}
    (h : e ∈ put key value entries) : e = (key, value) ∨ e ∈ entries := by
  induction entries with
  | nil => exact Or.inl (List.mem_singleton.mp h)
  | cons first rest ih =>
      obtain ⟨k, v⟩ := first
      by_cases hk : k = key
      · simp only [put, hk, if_true, List.mem_cons] at h
        exact h.imp_right fun hrest => List.mem_cons_of_mem _ hrest
      · simp only [put, hk, if_false, List.mem_cons] at h
        rcases h with rfl | h
        · exact Or.inr (List.mem_cons_self ..)
        · exact (ih h).imp_right fun hrest => List.mem_cons_of_mem _ hrest

theorem ofList_concat (entries : List (String × α)) (e : String × α) :
    ofList (entries ++ [e]) = put e.1 e.2 (ofList entries) := by
  simp [ofList, List.foldl_append]

/-- Each key comes once, where it first came. -/
theorem keys_ofList (entries : List (String × α)) :
    (ofList entries).map Prod.fst = (entries.map Prod.fst).eraseDups := by
  induction entries using List.reverseRecOn with
  | nil => rfl
  | append_singleton entries e ih =>
      rw [ofList_concat, keys_put, ih, List.map_append, List.eraseDups_append]
      by_cases hmem : e.1 ∈ entries.map Prod.fst
      · simp [List.mem_eraseDups, hmem, List.removeAll]
      · simp [List.mem_eraseDups, hmem, List.removeAll, List.eraseDups_cons]

theorem nodup_keys_ofList (entries : List (String × α)) :
    ((ofList entries).map Prod.fst).Nodup := by
  induction entries using List.reverseRecOn with
  | nil => exact List.nodup_nil
  | append_singleton entries e ih =>
      rw [ofList_concat, keys_put]
      split
      · exact ih
      · next hnew =>
          exact (List.perm_append_singleton _ _).nodup_iff.mpr (List.nodup_cons.mpr ⟨hnew, ih⟩)

theorem mem_of_mem_ofList {entries : List (String × α)} {e : String × α}
    (h : e ∈ ofList entries) : e ∈ entries := by
  induction entries using List.reverseRecOn with
  | nil => simp [ofList] at h
  | append_singleton entries last ih =>
      rw [ofList_concat] at h
      rcases mem_of_mem_put h with rfl | h
      · simp
      · exact List.mem_append_left _ (ih h)

/-! ### Lists of first values -/

theorem ofListFirst_concat (entries : List (String × α)) (e : String × α) :
    ofListFirst (entries ++ [e]) = putNew e.1 e.2 (ofListFirst entries) := by
  simp [ofListFirst, List.foldl_append]

theorem find?_ofListFirst (key : String) (entries : List (String × α)) :
    find? key (ofListFirst entries) = find? key entries := by
  induction entries using List.reverseRecOn with
  | nil => rfl
  | append_singleton entries e ih =>
      rw [ofListFirst_concat, find?_putNew, find?_append, ih]
      rfl

theorem mem_keys_ofListFirst_iff {key : String} {entries : List (String × α)} :
    key ∈ (ofListFirst entries).map Prod.fst ↔ key ∈ entries.map Prod.fst := by
  rw [← not_iff_not, ← find?_eq_none_iff, find?_ofListFirst, find?_eq_none_iff]

theorem nodup_keys_ofListFirst (entries : List (String × α)) :
    ((ofListFirst entries).map Prod.fst).Nodup := by
  induction entries using List.reverseRecOn with
  | nil => exact List.nodup_nil
  | append_singleton entries e ih =>
      rw [ofListFirst_concat, putNew]
      split
      · exact ih
      · next hnew =>
          rw [Option.not_isSome_iff_eq_none, find?_eq_none_iff] at hnew
          rw [List.map_append, List.map_singleton]
          exact (List.perm_append_singleton _ _).nodup_iff.mpr (List.nodup_cons.mpr ⟨hnew, ih⟩)

end ItemSearch.Assoc
