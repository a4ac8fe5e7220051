/-!
# Pieces of a text

A text is cut at every occurrence of a separator; without one, all of it is the only piece. The
separator occurs in none of the pieces (`unbroken_of_mem_pieces`), and put between them it makes
them up to the text again (`intercalate_pieces`). No other parts of the text are like that
(`pieces_intercalate`).
-/

namespace Orchestration.Text

/-- The pieces of a text between the occurrences of a separator. -/
def pieces (separator : Char) (text : String) : List String :=
  (text.toList.splitOn separator).map String.ofList

/-- The separator does not occur in the text. -/
def Unbroken (separator : Char) (text : String) : Prop :=
  separator ∉ text.toList

instance (separator : Char) (text : String) : Decidable (Unbroken separator text) :=
  inferInstanceAs (Decidable (separator ∉ text.toList))

theorem pieces_ne_nil (separator : Char) (text : String) : pieces separator text ≠ [] := by
  simp [pieces]

theorem not_mem_of_mem_splitOn {separator : Char} {text piece : List Char}
    (h : piece ∈ text.splitOn separator) : separator ∉ piece := by
  induction text generalizing piece with
  | nil =>
    rw [List.splitOn_nil, List.mem_singleton] at h
    simp [h]
  | cons c rest ih =>
    rw [List.splitOn_cons_eq_if_modifyHead] at h
    split at h
    next hc =>
      rcases List.mem_cons.mp h with rfl | hrest
      · exact List.not_mem_nil
      · exact ih hrest
    next hc =>
      -- The character joins the first piece of the rest.
      obtain ⟨first, others, hpieces⟩ := List.exists_cons_of_ne_nil
        (List.splitOn_ne_nil separator rest)
      rw [hpieces, List.modifyHead_cons] at h
      rcases List.mem_cons.mp h with rfl | hothers
      · have hfirst : separator ∉ first := ih (hpieces ▸ List.mem_cons_self)
        simpa [hfirst] using fun heq : separator = c => hc (beq_iff_eq.mpr heq.symm)
      · exact ih (hpieces ▸ List.mem_cons_of_mem _ hothers)

/-- The separator does not occur in a piece. -/
theorem unbroken_of_mem_pieces {separator : Char} {text piece : String}
    (h : piece ∈ pieces separator text) : Unbroken separator piece := by
  obtain ⟨chars, hchars, rfl⟩ := List.mem_map.mp h
  rw [Unbroken, String.toList_ofList]
  exact not_mem_of_mem_splitOn hchars

/-- The pieces with the separator between them are the text. -/
theorem intercalate_pieces (separator : Char) (text : String) :
    (String.singleton separator).intercalate (pieces separator text) = text := by
  rw [← String.toList_inj, String.toList_intercalate, String.toList_singleton, pieces, List.map_map]
  have hid : String.toList ∘ String.ofList = id := by
    funext chars
    exact String.toList_ofList
  rw [hid, List.map_id, List.intercalate_splitOn]

/-- Parts in which the separator does not occur are the pieces of what they make up. -/
theorem pieces_intercalate {separator : Char} {parts : List String} (hparts : parts ≠ [])
    (hunbroken : ∀ part ∈ parts, Unbroken separator part) :
    pieces separator ((String.singleton separator).intercalate parts) = parts := by
  have hchars : ∀ chars ∈ parts.map String.toList, separator ∉ chars := by
    intro chars hmem
    obtain ⟨part, hpart, rfl⟩ := List.mem_map.mp hmem
    exact hunbroken part hpart
  rw [pieces, String.toList_intercalate, String.toList_singleton,
    List.splitOn_intercalate separator hchars (by simpa using hparts), List.map_map]
  have hid : String.ofList ∘ String.toList = id := by
    funext part
    exact String.ofList_toList
  rw [hid, List.map_id]

/-- Around a separator, the pieces are those of what stands before it and behind it. -/
theorem pieces_append (separator : Char) (first second : String) :
    pieces separator (first ++ String.singleton separator ++ second) =
      pieces separator first ++ pieces separator second := by
  have hfirst : pieces separator first ≠ [] := pieces_ne_nil separator first
  have hsecond : pieces separator second ≠ [] := pieces_ne_nil separator second
  have hunbroken : ∀ piece ∈ pieces separator first ++ pieces separator second,
      Unbroken separator piece :=
    List.forall_mem_append.mpr
      ⟨fun _ => unbroken_of_mem_pieces, fun _ => unbroken_of_mem_pieces⟩
  have hpieces := pieces_intercalate (List.append_ne_nil_of_left_ne_nil hfirst _) hunbroken
  rwa [String.intercalate_append_of_ne_nil hfirst hsecond, intercalate_pieces,
    intercalate_pieces] at hpieces

/-- Without the separator, the text is the only piece. -/
theorem pieces_of_unbroken {separator : Char} {text : String} (h : Unbroken separator text) :
    pieces separator text = [text] := by
  have hpieces := pieces_intercalate (List.cons_ne_nil text [])
    fun part hpart => (List.mem_singleton.mp hpart) ▸ h
  rwa [String.intercalate_singleton] at hpieces

end Orchestration.Text
