import Mathlib.Data.List.Induction
import Orchestration.Proofs.Workflow.Steps

/-!
# What the placeholders of a workflow stand for

A step's output is known to the later steps under its position and under its name, and both kinds of
keys are kept in the same table. A name that is no position stands for the output of the last step
with that name (`find?_published_of_name`). A position stands for the output of the step at that
position, unless a later step has the key of the position for its name: then it stands for what that
step has put out (`find?_published_stepKey`).

The main statement is `placeholders_filled_iff`, for every step that a workflow carries out.
-/

namespace Orchestration.Engine

/-! ## What is known under a key -/

/-- The output of the last of some steps, given by name and output, that has the name. -/
def lastNamed (steps : List (String × String)) (name : String) : Option String :=
  (steps.reverse.find? (·.1 = name)).map (·.2)

theorem lastNamed_concat (steps : List (String × String)) (last name output : String) :
    lastNamed (steps ++ [(last, output)]) name =
      if last = name then some output else lastNamed steps name := by
  by_cases h : last = name <;> simp [lastNamed, h]

/-- A step with the name is found. -/
theorem isSome_lastNamed {steps : List (String × String)} {name output : String}
    (h : (name, output) ∈ steps) : (lastNamed steps name).isSome := by
  rw [lastNamed, Option.isSome_map, List.find?_isSome]
  exact ⟨(name, output), List.mem_reverse.mpr h, decide_eq_true rfl⟩

/-- Different positions have different keys. -/
theorem stepKey_injective : Function.Injective stepKey := by
  intro m n h
  have hchars := congrArg String.toList h
  rw [stepKey, stepKey, String.toList_append, String.toList_append] at hchars
  exact Decimal.integerText_natCast_inj (String.toList_inj.mp (List.append_cancel_left hchars))

/-- What is known under a name that is no position is the output of the last step with that name. -/
theorem find?_published_of_name (earlier : List (String × String)) {name : String}
    (hname : ∀ position, name ≠ stepKey (position + 1)) :
    Table.find? (published earlier) name = (lastNamed earlier name).map .text := by
  induction earlier using List.reverseRecOn with
  | nil => rfl
  | append_singleton earlier last ih =>
    rw [published_concat, find?_publish, lastNamed_concat, ih]
    by_cases heq : name = last.1
    · rw [if_pos (.inl heq), if_pos heq.symm]
      rfl
    · rw [if_neg (not_or.mpr ⟨heq, hname _⟩), if_neg (Ne.symm heq)]

/-- What is known under a position is the output of the last later step that has the key of the
position for its name and, if there is none, the output of the step at the position. -/
theorem find?_published_stepKey (earlier : List (String × String)) (i : Nat)
    (hi : i < earlier.length) :
    Table.find? (published earlier) (stepKey (i + 1)) =
      some (.text ((lastNamed (earlier.drop (i + 1)) (stepKey (i + 1))).getD earlier[i].2)) := by
  induction earlier using List.reverseRecOn with
  | nil => exact absurd hi (Nat.not_lt_zero i)
  | append_singleton earlier last ih =>
    rw [published_concat, find?_publish]
    rcases Nat.lt_or_ge i earlier.length with hlt | hge
    · -- The last step has another position, so it can take the key only by its name.
      have hkey : stepKey (i + 1) ≠ stepKey (earlier.length + 1) := by
        intro heq
        have := stepKey_injective heq
        omega
      rw [List.drop_append_of_le_length hlt, lastNamed_concat, List.getElem_append_left hlt]
      by_cases heq : stepKey (i + 1) = last.1
      · rw [if_pos (.inl heq), if_pos heq.symm]
        rfl
      · rw [if_neg (not_or.mpr ⟨heq, hkey⟩), if_neg (Ne.symm heq), ih hlt]
    · -- The last step comes after all those whose names could be the key.
      have hlast : i = earlier.length := by
        rw [List.length_append, List.length_singleton] at hi
        omega
      subst hlast
      have hdrop : (earlier ++ [last]).drop (earlier.length + 1) = [] :=
        List.drop_eq_nil_of_le (Nat.le_of_eq List.length_append)
      rw [if_pos (.inr rfl), hdrop, List.getElem_concat_length rfl]
      rfl

/-! ## What is put in the place of a placeholder -/

/-- The placeholder of a name is replaced by the output. -/
def Fills (earlier : List (String × String)) (name output : String) : Prop :=
  Template.Segment.fill (published earlier) (.placeholder name.toList) = .ok output.toList

/-- A later step has the key of the position for its name, and the last such step has put out
something else than the step at the position. -/
def Overwritten (earlier : List (String × String)) (i : Nat) (output : String) : Prop :=
  ∃ other, lastNamed (earlier.drop (i + 1)) (stepKey (i + 1)) = some other ∧ other ≠ output

theorem fills_iff_of_find? {earlier : List (String × String)} {name known output : String}
    (h : Table.find? (published earlier) name = some (.text known)) :
    Fills earlier name output ↔ known = output := by
  have hfill : Template.Segment.fill (published earlier) (.placeholder name.toList) =
      .ok known.toList := by
    simp only [Template.Segment.fill, String.ofList_toList, h]
    rfl
  rw [Fills, hfill, Except.ok.injEq]
  exact String.toList_inj

/-- The placeholder of a name that is no position is replaced by the output of the last step with
that name. -/
theorem fills_of_name {earlier : List (String × String)} {name output : String}
    (hname : ∀ position, name ≠ stepKey (position + 1))
    (hlast : lastNamed earlier name = some output) : Fills earlier name output := by
  have hfind : Table.find? (published earlier) name = some (.text output) := by
    rw [find?_published_of_name earlier hname, hlast]
    rfl
  exact (fills_iff_of_find? hfind).mpr rfl

/-- The placeholder of a position is replaced by the output of the step at the position exactly if
this is not overwritten. -/
theorem fills_stepKey_iff (earlier : List (String × String)) (i : Nat) (hi : i < earlier.length) :
    Fills earlier (stepKey (i + 1)) earlier[i].2 ↔ ¬ Overwritten earlier i earlier[i].2 := by
  rw [fills_iff_of_find? (find?_published_stepKey earlier i hi), Overwritten]
  cases lastNamed (earlier.drop (i + 1)) (stepKey (i + 1)) with
  | none => simp
  | some other => simp

/-! ## The placeholders of the steps that are carried out -/

/-- If no step has failed, there is an output for each of them. -/
theorem map_some_outputsOf {runs : List StepRun} (h : ∀ run ∈ runs, run.result?.isSome) :
    (outputsOf runs).map some = runs.map StepRun.output? := by
  induction runs with
  | nil => rfl
  | cons run runs ih =>
    obtain ⟨hrun, hruns⟩ := List.forall_mem_cons.mp h
    obtain ⟨result, hresult⟩ := StepRun.result?_isSome_iff.mp hrun
    have houtput := StepRun.output?_of_ok hresult
    rw [outputsOf, List.filterMap_cons_some houtput, List.map_cons, List.map_cons, ← outputsOf,
      ih hruns, houtput]

/-- No step that comes before another one has failed. -/
theorem Stops.succeeded_take {position : Nat} {steps : List WorkflowStep} {runs : List StepRun}
    {result : WorkflowResult} (h : Stops position steps runs result) {j : Nat}
    (hj : j < runs.length) : ∀ run ∈ runs.take j, run.result?.isSome := by
  cases h with
  | finished hsteps hreports =>
    exact fun run hmem => succeeded_of_reported hreports run (List.mem_of_mem_take hmem)
  | @failed before last after fault reports hsteps hreports hfault =>
    intro run hmem
    rw [List.length_append, List.length_singleton] at hj
    rw [List.take_append_of_le_length (Nat.le_of_lt_succ hj)] at hmem
    exact succeeded_of_reported hreports run (List.mem_of_mem_take hmem)

/-- How the placeholders of a step are filled in when the given steps have been carried out before
it: those of names by the last step with the name, those of positions by the step at the position
if it is not overwritten. -/
structure FilledFrom (earlier : List StepRun) (run : StepRun) : Prop where
  input : ∃ parts, (Template.segments run.step.input.toList).mapM
    (Template.Segment.fill (published (outputsOf earlier))) = .ok parts ∧
      run.input = String.ofList parts.flatten
  position : ∀ i (hi : i < earlier.length), ∃ result, earlier[i].outcome = .ok result ∧
    (Fills (outputsOf earlier) (stepKey (i + 1)) result.output ↔
      ¬ Overwritten (outputsOf earlier) i result.output)
  name : ∀ before ∈ earlier, (∀ position, before.step.name ≠ stepKey (position + 1)) →
    ∃ output, lastNamed (outputsOf earlier) before.step.name = some output ∧
      Fills (outputsOf earlier) before.step.name output

theorem filledFrom {earlier : List StepRun} {run : StepRun}
    (hinput : Template.render (published (outputsOf earlier)) run.step.input = .ok run.input)
    (hsucceeded : ∀ before ∈ earlier, before.result?.isSome) : FilledFrom earlier run := by
  refine ⟨Template.render_eq_ok_iff.mp hinput, fun i hi => ?_, fun before hmem hname => ?_⟩
  · obtain ⟨result, hresult⟩ :=
      StepRun.result?_isSome_iff.mp (hsucceeded _ (List.getElem_mem hi))
    have houtputs := map_some_outputsOf hsucceeded
    have hlength : i < (outputsOf earlier).length := by
      have hlengths := congrArg List.length houtputs
      rw [List.length_map, List.length_map] at hlengths
      rwa [hlengths]
    -- No step has failed, so outputs and steps have the same positions.
    have hentry : (outputsOf earlier)[i] = (earlier[i].step.name, result.output) := by
      have hentries := congrArg (·[i]?) houtputs
      simpa [hi, hlength, StepRun.output?_of_ok hresult] using hentries
    have hfills := fills_stepKey_iff (outputsOf earlier) i hlength
    rw [hentry] at hfills
    exact ⟨result, hresult, hfills⟩
  · obtain ⟨result, hresult⟩ := StepRun.result?_isSome_iff.mp (hsucceeded before hmem)
    have hentry : (before.step.name, result.output) ∈ outputsOf earlier :=
      List.mem_filterMap.mpr ⟨before, hmem, StepRun.output?_of_ok hresult⟩
    obtain ⟨output, hlast⟩ := Option.isSome_iff_exists.mp (isSome_lastNamed hentry)
    exact ⟨output, hlast, fills_of_name hname hlast⟩

section

variable {σ τ : Type} [Time τ] [Backend σ τ]

/-- **The placeholders of a workflow.** Every step that a workflow carries out is asked its
template with the placeholders filled in. The placeholder of an earlier step's name stands for the
output of the last earlier step with that name. The placeholder of an earlier step's position
stands for the output of that step exactly if no step after it has the key of the position for its
name, or the last that has it has put out the same. -/
theorem placeholders_filled_iff {agentId : String} {agent : Ref Agent} {w : World σ τ}
    (hknown : w.agents.find? agentId = some agent) (steps : List WorkflowStep)
    (context : Option String) :
    ∃ runs result w₁ journal,
      (runWorkflow agentId steps context).run w = .ok result { w₁ with journal } ∧
      Carried agentId agent context w runs w₁ ∧
      Stops 1 steps runs result ∧
      ∀ j (hj : j < runs.length), FilledFrom (runs.take j) runs[j] := by
  obtain ⟨runs, result, w₁, journal, hrun, hcarried, hstops⟩ :=
    run_runWorkflow hknown steps context
  refine ⟨runs, result, w₁, journal, hrun, hcarried, hstops, fun j hj => ?_⟩
  exact filledFrom (hcarried.tasks.record j hj).input (hstops.succeeded_take hj)

end

/-! ## Steps that are named like positions -/

/-- The second step is named like the first position, for which the third one asks. -/
def crossedSteps : List WorkflowStep :=
  [{ name := "draft", label := "draft" }, { name := "step1", label := "review" },
    { name := "final", label := "custom", input := "\x7b\x7bstep1\x7d\x7d" }]

/-- The steps are carried out by the agent of the small engine. -/
theorem placeholders_filled_crossedSteps :
    smallEngine.agents.find? "helper" = some ⟨0⟩ ∧
      ∃ runs result w₁ journal,
        (runWorkflow "helper" crossedSteps none).run smallEngine = .ok result { w₁ with journal } ∧
        Carried "helper" ⟨0⟩ none smallEngine runs w₁ ∧
        Stops 1 crossedSteps runs result ∧
        ∀ j (hj : j < runs.length), FilledFrom (runs.take j) runs[j] :=
  ⟨rfl, placeholders_filled_iff rfl crossedSteps none⟩

/-- What the agent of the small engine reports of the steps. -/
def crossedReports : List WorkflowStepResult :=
  match outcomeOf (runWorkflow "helper" crossedSteps none) smallEngine with
  | .ok result => result.steps
  | .error _ => []

/-- All three steps succeed, but the third one is asked what the second one has put out and not, as
the key of its placeholder says, the first one. -/
theorem misfilled_crossedSteps :
    crossedReports.length = 3 ∧
      crossedReports[2]?.map (·.input) = crossedReports[1]?.map (·.output) ∧
      crossedReports[2]?.map (·.input) ≠ crossedReports[0]?.map (·.output) := by
  decide +kernel

end Orchestration.Engine
