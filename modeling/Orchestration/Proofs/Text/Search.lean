import Orchestration.Text.Quoted
import Orchestration.Text.Search

/-!
# Texts that contain others

A text contains another one if its characters stand in it in a row (`occursIn_iff`). A text that is
put together from parts contains each of them, and a quotation contains what it quotes unless
quoting changes a character of it.
-/

namespace Orchestration.Text

/-- A text is found in another one exactly if it stands in it in a row. -/
theorem occursIn_iff {pattern text : List Char} :
    occursIn pattern text = true ↔ pattern <:+: text := by
  induction text with
  | nil => simp [occursIn]
  | cons c rest ih =>
    rw [occursIn, Bool.or_eq_true, ih, List.isPrefixOf_iff_prefix, List.infix_cons_iff]

/-- A text contains each of the parts that it is put together from. -/
theorem contains_of_eq_append {text part : String} (before after : String)
    (h : text = before ++ part ++ after) : contains text part = true := by
  rw [contains, occursIn_iff, h]
  exact ⟨before.toList, after.toList, by simp⟩

/-- A text that is shown as it is occurs in its quotation. -/
theorem contains_quoted {text : String}
    (h : ∀ c ∈ text.toList, quoteChar (quoteMark text.toList) c = [c]) :
    contains (quoted text) text = true := by
  have hshown : text.toList.flatMap (quoteChar (quoteMark text.toList)) = text.toList := by
    rw [List.flatMap_def, List.map_congr_left h, ← List.flatMap_def, List.flatMap_singleton']
  rw [contains, occursIn_iff, quoted, quoteChars, hshown, String.toList_ofList]
  exact ⟨[quoteMark text.toList], [quoteMark text.toList], rfl⟩

/-- What a part of a text contains, the text contains. -/
theorem contains_trans {text part inner : String} (h : contains text part = true)
    (h' : contains part inner = true) : contains text inner = true := by
  rw [contains, occursIn_iff] at *
  exact h'.trans h

/-- The text has a name in it: in quotes, and just as it is unless quoting changes it. -/
structure Names (text name : String) : Prop where
  quoted : contains text (quoted name) = true
  plain : (∀ c ∈ name.toList, quoteChar (quoteMark name.toList) c = [c]) →
    contains text name = true

/-- A text that quotes a name has the name in it. -/
theorem names_of_contains_quoted {text name : String}
    (h : contains text (quoted name) = true) : Names text name :=
  ⟨h, fun hshown => contains_trans h (contains_quoted hshown)⟩

end Orchestration.Text
