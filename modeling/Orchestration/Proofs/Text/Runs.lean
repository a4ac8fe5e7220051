import Orchestration.Text.Runs

/-!
# Maximal runs

A text is taken apart into the maximal runs of characters that have a property: what is between two
runs, before the first one and after the last one has no such character, and a run ends where such a
character does not follow (`MaximalRuns`). There is one way to do that (`runs_eq_iff`).
-/

namespace Orchestration.Text

/-- The text has these maximal runs of characters with the property, from left to right. -/
inductive MaximalRuns (P : Char → Prop) : List Char → List (List Char) → Prop
  | none {gap : List Char} (outside : ∀ c ∈ gap, ¬ P c) : MaximalRuns P gap []
  | run {gap run rest : List Char} {further : List (List Char)} (outside : ∀ c ∈ gap, ¬ P c)
    (nonempty : run ≠ []) (inside : ∀ c ∈ run, P c) (ends : ∀ c, rest.head? = some c → ¬ P c)
    (following : MaximalRuns P rest further) :
    MaximalRuns P (gap ++ run ++ rest) (run :: further)

section

variable {P : Char → Prop} {p : Char → Bool} {text : List Char} {found : List (List Char)}

/-- A character before the first run changes nothing if it cannot belong to the run. -/
theorem MaximalRuns.cons {c : Char} (hc : ¬ P c) (h : MaximalRuns P text found) :
    MaximalRuns P (c :: text) found := by
  cases h with
  | none houtside => exact .none (List.forall_mem_cons.mpr ⟨hc, houtside⟩)
  | run houtside hnonempty hinside hends hfollowing =>
    exact .run (List.forall_mem_cons.mpr ⟨hc, houtside⟩) hnonempty hinside hends hfollowing

/-- A run with which the text begins is the first one. -/
theorem MaximalRuns.first {run : List Char} (hnonempty : run ≠ []) (hinside : ∀ c ∈ run, P c)
    (hends : ∀ c, text.head? = some c → ¬ P c) (h : MaximalRuns P text found) :
    MaximalRuns P (run ++ text) (run :: found) := by
  have hgap : ∀ c ∈ ([] : List Char), ¬ P c := by simp
  exact .run hgap hnonempty hinside hends h

/-! ## Taking a text apart -/

/-- What is carried along is the end of a run. The characters that follow continue it or end it. -/
theorem maximalRuns_runsFrom (hp : ∀ c, p c = true ↔ P c) (text : List Char) {current : List Char}
    (hcurrent : ∀ c ∈ current.reverse, P c) :
    MaximalRuns P (current.reverse ++ text) (runsFrom p current text) := by
  have hnone : ∀ c ∈ ([] : List Char).reverse, P c := by simp
  -- The run that is carried along grows with every character that belongs to it.
  induction text generalizing current with
  | nil =>
    have hend : MaximalRuns P [] [] := .none (by simp)
    cases current with
    | nil => exact hend
    | cons last before => exact .first (by simp) hcurrent (by simp) hend
  | cons c rest ih =>
    rw [runsFrom]
    by_cases hc : P c
    · have hnext : ∀ d ∈ (c :: current).reverse, P d := by
        rw [List.reverse_cons, List.forall_mem_append]
        exact ⟨hcurrent, by simpa using hc⟩
      rw [if_pos ((hp c).mpr hc)]
      simpa using ih hnext
    · have hrest : MaximalRuns P (c :: rest) (runsFrom p [] rest) := (ih hnone).cons hc
      rw [if_neg (mt (hp c).mp hc)]
      cases current with
      | nil => exact hrest
      | cons last before =>
        have hends : ∀ d, (c :: rest).head? = some d → ¬ P d := by
          rintro d ⟨⟩
          exact hc
        exact .first (by simp) hcurrent hends hrest

theorem runs_append_of_outside (hp : ∀ c, p c = true ↔ P c) {gap : List Char}
    (houtside : ∀ c ∈ gap, ¬ P c) (text : List Char) : runs p (gap ++ text) = runs p text := by
  induction gap with
  | nil => rfl
  | cons c rest ih =>
    obtain ⟨hc, hrest⟩ := List.forall_mem_cons.mp houtside
    rw [List.cons_append, runs, runsFrom, if_neg (mt (hp c).mp hc)]
    exact ih hrest

theorem runsFrom_append_of_inside (hp : ∀ c, p c = true ↔ P c) {run : List Char}
    (hinside : ∀ c ∈ run, P c) (current text : List Char) :
    runsFrom p current (run ++ text) = runsFrom p (run.reverse ++ current) text := by
  induction run generalizing current with
  | nil => rfl
  | cons c rest ih =>
    obtain ⟨hc, hrest⟩ := List.forall_mem_cons.mp hinside
    rw [List.cons_append, runsFrom, if_pos ((hp c).mpr hc), ih hrest]
    simp

/-- A run is complete where no character follows that continues it. -/
theorem runsFrom_of_ends (hp : ∀ c, p c = true ↔ P c) {current : List Char}
    (hcurrent : current ≠ []) (hends : ∀ c, text.head? = some c → ¬ P c) :
    runsFrom p current text = current.reverse :: runs p text := by
  have hisEmpty : ¬ current.isEmpty = true := by simpa using hcurrent
  cases text with
  | nil => simp [runs, runsFrom, hcurrent]
  | cons c rest =>
    have hc : ¬ p c = true := mt (hp c).mp (hends c rfl)
    rw [runs, runsFrom, runsFrom, if_neg hc, if_neg hc, if_neg hisEmpty]
    rfl

/-- The runs of a text are its maximal ones, and no other runs are. -/
theorem runs_eq_iff (hp : ∀ c, p c = true ↔ P c) :
    runs p text = found ↔ MaximalRuns P text found := by
  constructor
  · rintro rfl
    have hnone : ∀ c ∈ ([] : List Char).reverse, P c := by simp
    exact maximalRuns_runsFrom hp text hnone
  · intro h
    -- The gap before a run is passed over, and the run is collected until it ends.
    induction h with
    | none houtside =>
      have hgap := runs_append_of_outside hp houtside []
      rwa [List.append_nil] at hgap
    | @run gap run rest further houtside hnonempty hinside hends hfollowing ih =>
      calc runs p (gap ++ run ++ rest)
          = runs p (run ++ rest) := by
            rw [List.append_assoc, runs_append_of_outside hp houtside]
        _ = runsFrom p run.reverse rest := by
            rw [runs, runsFrom_append_of_inside hp hinside, List.append_nil]
        _ = run :: runs p rest := by
            rw [runsFrom_of_ends hp (by simpa using hnonempty) hends, List.reverse_reverse]
        _ = run :: further := by rw [ih]

end

end Orchestration.Text
