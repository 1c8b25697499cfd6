import ItemSearch.Proofs.Text.Numeral
import ItemSearch.Settings.Basic

/-!
The integers among the settings. Variables are texts, and a text is taken for an integer only if it
has no more digits than an integer may be written in, zeros in front left out. So each integer that
settings are read from can be named again, the bound of page sizes before all, which the rule for
page sizes names whatever it is given.
-/

namespace ItemSearch

namespace Text

/-- A number has no more digits than it is denoted by. -/
theorem asciiValue_lt {s : List Char} (h : ∀ c ∈ s, isAsciiDigit c = true) :
    asciiValue s < 10 ^ s.length := by
  induction s using List.reverseRecOn with
  | nil => simp [asciiValue]
  | append_singleton s c ih =>
      have hlast : c.toNat - 48 < 10 := by
        have hc := h c (by simp)
        simp only [isAsciiDigit, Bool.and_eq_true, decide_eq_true_eq, Char.le_def,
          UInt32.le_iff_toNat_le] at hc
        have hnine : c.toNat ≤ 57 := hc.2
        omega
      have hfirst := ih fun d hd => h d (by simp [hd])
      have hvalue : asciiValue (s ++ [c]) = 10 * asciiValue s + (c.toNat - 48) := by
        simp [asciiValue]
      rw [hvalue, List.length_append, List.length_singleton, Nat.pow_succ]
      omega

end Text

namespace Schema

open Text (isAsciiDigit asciiValue IsWritable)

theorem Reading.map_eq_ok_iff {α β : Type} {f : α → β} {x : Reading α} {b : β} :
    f <$> x = .ok b ↔ ∃ a, x = .ok a ∧ f a = b := by
  cases x with
  | ok a => simp [Functor.map, Reading.map]
  | problems first others => simp [Functor.map, Reading.map]

theorem Reading.seq_eq_ok_iff {α β : Type} {f : Reading (α → β)} {x : Reading α} {b : β} :
    f <*> x = .ok b ↔ ∃ g a, f = .ok g ∧ x = .ok a ∧ g a = b := by
  cases f <;> cases x <;> simp [Seq.seq, Reading.ap]

theorem Reading.under_eq_ok_iff {α : Type} {step : Step} {x : Reading α} {a : α} :
    Reading.under step x = .ok a ↔ x = .ok a := by
  cases x <;> simp [Reading.under]

theorem isAsciiDigit_of_joinedDigits? {s digits : List Char} (h : joinedDigits? s = some digits) :
    ∀ c ∈ digits, isAsciiDigit c = true := by
  simp only [joinedDigits?, Option.ite_none_right_eq_some, Option.some.injEq] at h
  obtain ⟨hruns, rfl⟩ := h
  intro c hc
  obtain ⟨run, hrun, hc⟩ := List.mem_flatten.mp hc
  have hall := List.all_eq_true.mp hruns run hrun
  rw [Bool.and_eq_true, List.all_eq_true] at hall
  exact hall.2 c hc

theorem isAsciiDigit_of_wholeDigits? {s digits : List Char} (h : wholeDigits? s = some digits) :
    ∀ c ∈ digits, isAsciiDigit c = true := by
  unfold wholeDigits? at h
  split at h
  · exact isAsciiDigit_of_joinedDigits? h
  · rw [Option.ite_none_right_eq_some] at h
    exact isAsciiDigit_of_joinedDigits? h.2

/-- An integer that is read off a text can be written again. -/
theorem isWritable_of_integerText {s : String} {n : Int} (h : integerText s = .ok n) :
    IsWritable n := by
  unfold integerText at h
  simp only at h
  split at h
  · exact nomatch h
  · next digits hdigits =>
      split at h
      · exact nomatch h
      · next hlength =>
          have hvalue : asciiValue (digits.dropWhile (· = '0')) < 10 ^ Text.maxDigits := by
            refine Nat.lt_of_lt_of_le (Text.asciiValue_lt fun c hc => ?_)
              (Nat.pow_le_pow_right (by decide) (Nat.le_of_not_lt hlength))
            exact isAsciiDigit_of_wholeDigits? hdigits c ((List.dropWhile_sublist _).mem hc)
          rw [Text.isWritable_iff, ← Reading.ok.inj h]
          split
          · rwa [Int.natAbs_neg, Int.natAbs_natCast]
          · rwa [Int.natAbs_natCast]

end Schema

namespace Settings

open Schema
open Text (IsWritable)

theorem setting_isWritable {value? : Option String} {name : String} {default n : Int}
    (hdefault : IsWritable default)
    (h : (match value? with
      | some s => Reading.under (.field name) (integerText s)
      | none => .ok default) = .ok n) : IsWritable n := by
  cases value? with
  | some s => exact isWritable_of_integerText (Reading.under_eq_ok_iff.mp h)
  | none => exact Reading.ok.inj h ▸ hdefault

/-- Whatever the variables are, the integers of settings that are read from them can be written. -/
theorem isWritable_of_ofVariables {environment file : Variables} {s : Settings}
    (h : ofVariables environment file = .ok s) :
    IsWritable s.requestTimeout ∧ IsWritable s.maxRetries ∧ IsWritable s.maxPageSize := by
  unfold ofVariables at h
  simp only [Reading.seq_eq_ok_iff, Reading.map_eq_ok_iff] at h
  -- the readings of the nine settings, the last one outermost
  obtain ⟨_, _, ⟨_, _, ⟨_, _, ⟨_, _, ⟨_, _, ⟨_, _, ⟨_, _, ⟨_, _, ⟨_, -, rfl⟩, -, rfl⟩, -, rfl⟩,
    -, rfl⟩, -, rfl⟩, htimeout, rfl⟩, hretries, rfl⟩, -, rfl⟩, hmax, rfl⟩ := h
  exact ⟨setting_isWritable (by decide) htimeout, setting_isWritable (by decide) hretries,
    setting_isWritable (by decide) hmax⟩

end Settings

end ItemSearch
