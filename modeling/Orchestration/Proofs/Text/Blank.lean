import Mathlib.Data.List.Basic
import Mathlib.Data.List.TakeWhile
import Orchestration.Text.Blank
import Orchestration.Text.DecimalDigit

/-!
# Blanks around a text

Where a run of characters ends, what is left of a text without the blanks at its ends, and that no
blank is a digit.
-/

namespace Orchestration.Text

/-! ## Where a run of characters ends -/

section

variable {p : Char → Bool} {run rest : List Char} (hrun : ∀ c ∈ run, p c = true)
  (hrest : ∀ c ∈ rest.head?, p c = false)

include hrun hrest

theorem dropWhile_append_of_head? : (run ++ rest).dropWhile p = rest := by
  rw [List.dropWhile_append_of_pos hrun]
  cases rest with
  | nil => rfl
  | cons c others =>
    apply List.dropWhile_cons_of_neg
    simp [hrest c rfl]

theorem takeWhile_append_of_head? : (run ++ rest).takeWhile p = run := by
  have hwhole := List.takeWhile_append_dropWhile (p := p) (l := run ++ rest)
  rw [dropWhile_append_of_head? hrun hrest] at hwhole
  exact List.append_cancel_right hwhole

end

/-! ## Blanks around a text -/

/-- A text is what is left of it without the blanks at its ends, and these. -/
theorem exists_eq_append_trim (text : List Char) :
    ∃ before after, (∀ c ∈ before ++ after, isBlank c = true) ∧
      text = before ++ trim text ++ after := by
  let rest := (trimLeft text).reverse
  refine ⟨text.takeWhile isBlank, (rest.takeWhile isBlank).reverse, ?_, ?_⟩
  · intro c hmem
    rcases List.mem_append.mp hmem with hbefore | hafter
    · exact List.mem_takeWhile_imp hbefore
    · exact List.mem_takeWhile_imp (List.mem_reverse.mp hafter)
  · have hrest : trim text ++ (rest.takeWhile isBlank).reverse = trimLeft text := by
      rw [trim, trimRight, ← List.reverse_append, List.takeWhile_append_dropWhile,
        List.reverse_reverse]
    rw [List.append_assoc, hrest, trimLeft, List.takeWhile_append_dropWhile]

/-- Blanks at the ends of a text do not matter. -/
theorem trim_append {before core after : List Char} (hbefore : ∀ c ∈ before, isBlank c = true)
    (hafter : ∀ c ∈ after, isBlank c = true) (hne : core ≠ [])
    (hfirst : ∀ c ∈ core.head?, isBlank c = false)
    (hlast : ∀ c ∈ core.getLast?, isBlank c = false) : trim (before ++ core ++ after) = core := by
  have hleft : trimLeft (before ++ core ++ after) = core ++ after := by
    rw [trimLeft, List.append_assoc]
    refine dropWhile_append_of_head? hbefore fun c hc => hfirst c ?_
    rwa [List.head?_append_of_ne_nil _ hne] at hc
  rw [trim, hleft, trimRight, List.reverse_append, dropWhile_append_of_head?, List.reverse_reverse]
  · intro c hc
    exact hafter c (List.mem_reverse.mp hc)
  · intro c hc
    rw [List.head?_reverse] at hc
    exact hlast c hc

/-! ## Blanks are no digits -/

theorem Ranges.find?_eq_none_of_contains {ranges others : Ranges}
    (h : ∀ range ∈ ranges, ∀ other ∈ others, range.2 < other.1 ∨ other.2 < range.1) {code : Nat}
    (hcode : ranges.contains code = true) : others.find? code = none := by
  obtain ⟨range, hrange, hin⟩ := List.any_eq_true.mp hcode
  refine List.find?_eq_none.mpr fun other hother hin' => ?_
  have hapart := h range hrange other hother
  simp only [Bool.and_eq_true, decide_eq_true_eq] at hin hin'
  omega

theorem isDecimalDigit_of_isBlank {c : Char} (h : isBlank c = true) :
    isDecimalDigit c = false := by
  have hnone : digitRanges.find? c.toNat = none :=
    Ranges.find?_eq_none_of_contains (by decide +kernel) h
  rw [isDecimalDigit, digitValue?, hnone]
  rfl

theorem isBlank_of_isDecimalDigit {c : Char} (h : isDecimalDigit c = true) : isBlank c = false := by
  apply eq_false_of_ne_true
  intro hblank
  rw [isDecimalDigit_of_isBlank hblank] at h
  cases h

end Orchestration.Text
