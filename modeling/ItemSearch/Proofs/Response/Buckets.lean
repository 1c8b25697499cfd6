import ItemSearch.Proofs.Number.Binary64
import ItemSearch.Response.Facet
import Mathlib.Data.List.Forall2

/-!
Buckets as the backend sends them and as they are shown. Each member of a bucket is shown under a
name of its own, in a fixed order, and a member that is missing or null is not shown at all. The
values are those that were sent. Only a bound may change its form, from an integer to a
floating-point number.
-/

namespace ItemSearch

open Schema

namespace Bucket

/-- The member is missing or null, or it has this form. -/
def Part (members : List (String × Json)) (key : String) (form : Json → Prop) : Prop :=
  ∀ v, Assoc.find? key members = some v → v = .null ∨ form v

/-- The value is a floating-point number, or an integer that is one. -/
def IsDistance (v : Json) : Prop :=
  (∃ x, v = .float x) ∨ ∃ n x, v = .int n ∧ Binary64.ofInt? n = some x

/-- The members of a bucket as the backend sends it. -/
structure IsSent (members : List (String × Json)) : Prop where
  key : Part members "key" fun v => (∃ s, v = .str s) ∨ (∃ n, v = .int n) ∨ ∃ x, v = .float x
  keyAsString : Part members "key_as_string" fun v => ∃ s, v = .str s
  count : Part members "doc_count" fun v => ∃ n, v = .int n
  lower : Part members "from" IsDistance
  upper : Part members "to" IsDistance

/-! ### What is shown -/

/-- The members of a bucket that are shown, each with the name that it has then. -/
def shownNames : List (String × String) :=
  [("key", "key"), ("key_as_string", "keyAsString"), ("doc_count", "docCount"), ("from", "from"),
   ("to", "to")]

/-- The value of a member, null where there is none. -/
def valueAt (members : List (String × Json)) (key : String) : Json :=
  (Assoc.find? key members).getD .null

/-- The value is shown as it is. An integer as a bound is shown as the floating-point number that is
nearest to it, which is the same number where it can be held. -/
def ShowsValue (key : String) (v shown : Json) : Prop :=
  shown = v ∨ (key = "from" ∨ key = "to") ∧ ∃ n x, v = .int n ∧ shown = .float x ∧
    Binary64.ofInt? n = some x ∧ (Binary64.CanBeHeld n → x.toInt? = some n)

/-- The members that are there and not null are shown, in order, and nothing else is. -/
def IsShownAs (members : List (String × Json)) (shown : Json) : Prop :=
  ∃ parts, shown = .obj parts ∧
    List.Forall₂ (fun names part =>
        part.1 = names.2 ∧ ShowsValue names.1 (valueAt members names.1) part.2)
      (shownNames.filter fun names => valueAt members names.1 ≠ .null) parts

theorem nullable_of_ne_null {α : Type} {f : Json → Reading α} {v : Json} (hv : v ≠ .null) {a : α}
    (h : f v = .ok a) : nullable f v = .ok (some a) := by
  rw [nullable, h]
  · rfl
  · exact hv

/-- A member that is null or of its form is read, and what is read is shown. -/
theorem Part.exists_reading {α : Type} {members : List (String × Json)} {key : String}
    {form : Json → Prop} (h : Part members key form) {f : Json → Reading α} {write : α → Json}
    (hf : ∀ v, form v → ∃ a, f v = .ok a ∧ write a ≠ .null ∧ ShowsValue key v (write a))
    (name : String) :
    ∃ a, Reading.under (.field name) (nullable f (valueAt members key)) = .ok a ∧
      (valueAt members key ≠ .null ↔ Json.ofOption write a ≠ .null) ∧
      ShowsValue key (valueAt members key) (Json.ofOption write a) := by
  by_cases hnull : valueAt members key = .null
  · rw [hnull]
    exact ⟨none, rfl, Iff.rfl, Or.inl rfl⟩
  · have hform : form (valueAt members key) := by
      cases hfind : Assoc.find? key members with
      | none => exact absurd (by rw [valueAt, hfind]; rfl) hnull
      | some v =>
          have hv : valueAt members key = v := by rw [valueAt, hfind]; rfl
          rw [hv] at hnull ⊢
          exact (h v hfind).resolve_left hnull
    obtain ⟨a, hread, hwrite, hshown⟩ := hf _ hform
    refine ⟨some a, ?_, iff_of_true hnull hwrite, hshown⟩
    rw [nullable_of_ne_null hnull hread]
    rfl

theorem IsDistance.exists_number {v : Json} (h : IsDistance v) {key : String}
    (hkey : key = "from" ∨ key = "to") :
    ∃ x, number v = .ok x ∧ Json.float x ≠ .null ∧ ShowsValue key v (.float x) := by
  rcases h with ⟨x, rfl⟩ | ⟨n, x, rfl, hx⟩
  · exact ⟨x, rfl, by simp, Or.inl rfl⟩
  · exact ⟨x, by simp [number, hx], by simp, Or.inr
      ⟨hkey, n, x, rfl, rfl, hx, Binary64.toInt?_of_ofInt? hx⟩⟩

/-- A bucket that is sent is read, and what is read of it is shown as it was sent. -/
theorem exists_ofJson {members : List (String × Json)} (h : IsSent members) :
    ∃ b, Bucket.ofJson (.obj members) = .ok b ∧ IsShownAs members b.toJson := by
  have hkeys : ∀ v, ((∃ s, v = .str s) ∨ (∃ n, v = .int n) ∨ ∃ x, v = .float x) →
      ∃ k, BucketKey.ofJson v = .ok k ∧ k.toJson ≠ .null ∧ ShowsValue "key" v k.toJson := by
    rintro _ (⟨s, rfl⟩ | ⟨n, rfl⟩ | ⟨x, rfl⟩)
    · exact ⟨.text s, rfl, by simp [BucketKey.toJson], Or.inl rfl⟩
    · exact ⟨.integer n, rfl, by simp [BucketKey.toJson], Or.inl rfl⟩
    · exact ⟨.number x, rfl, by simp [BucketKey.toJson], Or.inl rfl⟩
  have htexts : ∀ v, (∃ s, v = .str s) → ∃ s, text v = .ok s ∧ Json.str s ≠ .null ∧
      ShowsValue "key_as_string" v (.str s) := by
    rintro _ ⟨s, rfl⟩
    exact ⟨s, rfl, by simp, Or.inl rfl⟩
  have hcounts : ∀ v, (∃ n, v = .int n) → ∃ n, integer v = .ok n ∧ Json.int n ≠ .null ∧
      ShowsValue "doc_count" v (.int n) := by
    rintro _ ⟨n, rfl⟩
    exact ⟨n, rfl, by simp, Or.inl rfl⟩
  obtain ⟨key, hkey, hkeySent, hkeyShown⟩ := h.key.exists_reading hkeys "key"
  obtain ⟨word, hword, hwordSent, hwordShown⟩ :=
    h.keyAsString.exists_reading htexts "key_as_string"
  obtain ⟨count, hcount, hcountSent, hcountShown⟩ := h.count.exists_reading hcounts "doc_count"
  obtain ⟨lower, hlower, hlowerSent, hlowerShown⟩ :=
    h.lower.exists_reading (fun _ hv => hv.exists_number (Or.inl rfl)) "from_"
  obtain ⟨upper, hupper, hupperSent, hupperShown⟩ :=
    h.upper.exists_reading (fun _ hv => hv.exists_number (Or.inr rfl)) "to"
  refine ⟨⟨key, word, count, lower, upper⟩, ?_, _, rfl, ?_⟩
  · simp only [valueAt] at hkey hword hcount hlower hupper
    simp only [Bucket.ofJson, Bucket.ofMembers, hkey, hword, hcount, hlower, hupper]
    rfl
  · -- null is left out on both sides alike
    have hall : List.Forall₂ (fun names part => part.1 = names.2 ∧
        (valueAt members names.1 ≠ .null ↔ part.2 ≠ .null) ∧
        ShowsValue names.1 (valueAt members names.1) part.2)
        shownNames (Bucket.members ⟨key, word, count, lower, upper⟩) :=
      .cons ⟨rfl, hkeySent, hkeyShown⟩ (.cons ⟨rfl, hwordSent, hwordShown⟩
        (.cons ⟨rfl, hcountSent, hcountShown⟩ (.cons ⟨rfl, hlowerSent, hlowerShown⟩
          (.cons ⟨rfl, hupperSent, hupperShown⟩ .nil))))
    have hkept := List.rel_filter (p := fun names => valueAt members names.1 ≠ .null)
      (q := fun part => part.2 ≠ .null) (fun _ _ hpart => by simpa using hpart.2.1) hall
    exact hkept.imp fun _ _ hpart => ⟨hpart.1, hpart.2.2⟩

end Bucket

end ItemSearch
