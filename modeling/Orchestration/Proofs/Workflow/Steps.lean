import Mathlib.Data.List.Induction
import Mathlib.Data.List.Nodup
import Orchestration.Engine.Workflow
import Orchestration.Proofs.Execution
import Orchestration.Proofs.Identifier
import Orchestration.Proofs.Template

/-!
# The steps of a workflow

A workflow carries out its steps one after the other, a task for each, up to the first one that
fails (`Carried`, `Stops`). What a step is asked is its template, filled in with what the steps
before it have put out under their names and positions, and with nothing else (`published`): these
are texts, so there is nothing in them that could not be written. The table of tasks gains one
record for each step that was carried out (`TasksOf`), and the result of the workflow reports those
that have succeeded, in order (`StepRun.Reported`).

The main statement is `runWorkflow_carried`: running a workflow with a registered agent always
returns, and the world that it leaves is the one that the last step carried out has left, but for
what is logged. Only an agent that nobody knows is refused, before anything happens.
-/

namespace Orchestration.Engine

/-! ## What a step is asked -/

/-- What is known to a step when the steps before it have the given names and outputs. -/
def published (earlier : List (String × String)) : Fields :=
  (earlier.zipIdx 1).foldl (fun outputs entry => publish outputs entry.2 entry.1.1 entry.1.2) []

/-- A further output is published under the number of its step. -/
theorem published_concat (earlier : List (String × String)) (name output : String) :
    published (earlier ++ [(name, output)]) =
      publish (published earlier) (earlier.length + 1) name output := by
  simp [published, List.zipIdx_append, Nat.add_comm]

/-- An output is found under the name of its step and under its number; it hides what was there. -/
theorem find?_publish (outputs : Fields) (position : Nat) (name output key : String) :
    Table.find? (publish outputs position name output) key =
      if key = name ∨ key = stepKey position then some (.text output)
      else Table.find? outputs key := by
  rw [publish, Table.find?_insert, Table.find?_insert]
  by_cases hname : key = name
  · simp only [hname, true_or, if_true]
  · simp only [hname, false_or, if_false]

/-- What steps have put out is text. -/
theorem find?_published_eq_text {earlier : List (String × String)} {key : String} {value : Value}
    (h : Table.find? (published earlier) key = some value) : ∃ output, value = .text output := by
  induction earlier using List.reverseRecOn with
  | nil => cases h
  | append_singleton earlier last ih =>
    rw [published_concat, find?_publish] at h
    split at h
    · exact ⟨last.2, (Option.some.inj h).symm⟩
    · exact ih h

/-- Every template can be filled in with what steps have put out. -/
theorem exists_render_published (earlier : List (String × String)) (template : String) :
    ∃ input, Template.render (published earlier) template = .ok input := by
  refine ⟨_, Template.render_eq_filled ?_⟩
  rintro name - ⟨value, hvalue, hlong⟩
  obtain ⟨output, rfl⟩ := find?_published_eq_text hvalue
  cases hlong

/-- A step that was carried out. -/
structure StepRun where
  step : WorkflowStep
  /-- What the step was asked. -/
  input : String
  /-- What came of its task. -/
  outcome : Except Fault TaskResult

namespace StepRun

/-- The result of a step that has succeeded. -/
def result? (run : StepRun) : Option TaskResult :=
  match run.outcome with
  | .ok result => some result
  | .error _ => none

/-- A step has a result if its execution has returned. -/
theorem result?_isSome_iff {run : StepRun} :
    run.result?.isSome ↔ ∃ result, run.outcome = .ok result := by
  rw [result?]
  cases run.outcome with
  | ok result => exact iff_of_true rfl ⟨result, rfl⟩
  | error fault => exact iff_of_false Bool.false_ne_true fun ⟨_, h⟩ => nomatch h

/-- The name and the output of a step that has succeeded. -/
def output? (run : StepRun) : Option (String × String) :=
  run.result?.map fun result => (run.step.name, result.output)

/-- A step that has returned publishes its output under its name. -/
theorem output?_of_ok {run : StepRun} {result : TaskResult} (h : run.outcome = .ok result) :
    run.output? = some (run.step.name, result.output) := by
  rw [output?, result?, h]
  rfl

/-- What the workflow reports of a step that has succeeded: the step, what it was asked, and the
output and the model of its task. -/
structure Reported (run : StepRun) (report : WorkflowStepResult) : Prop where
  name : report.name = run.step.name
  label : report.label = run.step.label
  input : report.input = run.input
  result : ∃ result, run.outcome = .ok result ∧ report.output = result.output ∧
    report.modelUsed = result.modelUsed
  success : report.success = true
  error : report.error = ""

/-- What is reported of a step is what its execution has returned. -/
theorem reported_stepResult (step : WorkflowStep) (input : String) (result : TaskResult) :
    Reported ⟨step, input, .ok result⟩ (stepResult step input result) :=
  ⟨rfl, rfl, rfl, ⟨result, rfl, rfl, rfl⟩, rfl, rfl⟩

/-- What the record of a task says of the step that the task was made for. -/
def Ended (run : StepRun) (record : Task) : Prop :=
  match run.outcome with
  | .ok result =>
    record.status = .completed ∧ record.id = result.taskId ∧ record.output = result.output
  | .error fault => record.status = .failed ∧ record.error = fault.message

end StepRun

/-- The names and outputs of the steps that have succeeded. -/
def outputsOf (runs : List StepRun) : List (String × String) :=
  runs.filterMap StepRun.output?

/-- Steps that are reported have succeeded. -/
theorem succeeded_of_reported {runs : List StepRun} {reports : List WorkflowStepResult}
    (h : List.Forall₂ StepRun.Reported runs reports) : ∀ run ∈ runs, run.result?.isSome := by
  induction h with
  | nil => exact nofun
  | cons hfirst _ ih =>
    obtain ⟨result, hresult, -⟩ := hfirst.result
    exact List.forall_mem_cons.mpr ⟨StepRun.result?_isSome_iff.mpr ⟨result, hresult⟩, ih⟩

/-- The task that a step is carried out by, made for an agent that is as given at a time. -/
structure MadeForStep (id : String) (now : Moment) (agentId : String) (agent : Agent)
    (run : StepRun) (task : Task) : Prop where
  id : task.id = id
  label : task.label = run.step.label
  input : task.input = run.input
  agentId : agentId ≠ "" → task.agentId = agentId
  /-- A step that names no model leaves the choice to the rules. -/
  modelName : task.modelName =
    if run.step.modelName = "" then
      Routing.selectModel agent (TaskKind.parse run.step.label) run.input
    else run.step.modelName
  parameters : task.parameters = [("workflow_step", .text run.step.name)]
  createdAt : task.createdAt = now

/-- A task that asks for the work of a step was made for it, whatever has become of it since. -/
theorem madeForStep_of_sameWork {id : String} {now : Moment} {agentId : String} {agent : Agent}
    {run : StepRun} {task : Task}
    (h : SameWork (stepTask id now agentId agent run.step run.input) task) :
    MadeForStep id now agentId agent run task :=
  ⟨h.id, h.label, h.input, h.agentId, h.modelName, h.parameters, h.createdAt⟩

variable {σ τ : Type} [Time τ] [Backend σ τ]

/-! ## A single step -/

/-- The world in which the task of a step is ready to be carried out. -/
def withStepTask (w : World σ τ) (agentId : String) (agent : Ref Agent) (step : WorkflowStep)
    (input : String) : World σ τ :=
  { w with
    issued := w.issued + 1
    tasks := w.tasks.add (stepTask (Identifier.issue w.issued) w.surroundings.clock.now agentId
      (w.agents.agent agent) step input) }

/-- To run a step is to make its task and to execute it. -/
theorem run_runStep (agentId : String) (agent : Ref Agent) (context : Option String)
    (step : WorkflowStep) (input : String) (w : World σ τ) :
    (runStep agentId agent context step input).run w =
      (execute w.tasks.live.next agent context true).run
        (withStepTask w agentId agent step input) := rfl

/-- What carrying out a step does to the tasks. -/
structure Stepped (w : World σ τ) (agentId : String) (agent : Ref Agent) (run : StepRun)
    (w' : World σ τ) : Prop where
  issued : w'.issued = w.issued + 1
  count : w'.tasks.live.values.length = w.tasks.live.values.length + 1
  index : w'.tasks.index =
    Table.insert w.tasks.index (Identifier.issue w.issued) w.tasks.live.next
  others : ∀ {other}, w.tasks.live.Has other → w'.tasks.task other = w.tasks.task other
  work : MadeForStep (Identifier.issue w.issued) w.surroundings.clock.now agentId
    (w.agents.agent agent) run (w'.tasks.task w.tasks.live.next)
  ended : run.Ended (w'.tasks.task w.tasks.live.next)
  taxonomy : ∀ fault, run.outcome = .error fault → fault.isOrchestration = true

/-- A step that is run makes one task, which is executed, and leaves all other tasks alone. -/
theorem stepped (agentId : String) (agent : Ref Agent) (context : Option String)
    (step : WorkflowStep) (input : String) (w : World σ τ) :
    Stepped w agentId agent ⟨step, input, outcomeOf (runStep agentId agent context step input) w⟩
      (worldAfter (runStep agentId agent context step input) w) := by
  have hrun := run_runStep agentId agent context step input w
  have hexecuted := executed w.tasks.live.next agent context true
    (withStepTask w agentId agent step input)
  rw [outcomeOf, worldAfter, hrun, ← outcomeOf, ← worldAfter]
  set made := withStepTask w agentId agent step input
  set outcome := outcomeOf (execute w.tasks.live.next agent context true) made
  set w' := worldAfter (execute w.tasks.live.next agent context true) made
  have hlive : made.tasks.live.Has w.tasks.live.next := Live.has_add_next _ _
  have htask : made.tasks.task w.tasks.live.next = stepTask (Identifier.issue w.issued)
      w.surroundings.clock.now agentId (w.agents.agent agent) step input := Live.get_add_next _ _
  -- The task is the newest one, and executing it leaves its work as it was made.
  have hwork := hexecuted.sameWork w.tasks.live.next
  rw [htask] at hwork
  refine ⟨hexecuted.books.issued, ?_, ?_, ?_, madeForStep_of_sameWork hwork, ?_,
    hexecuted.taxonomy⟩
  · rw [hexecuted.count]
    exact List.length_append
  · rw [hexecuted.index, htask]
    rfl
  · intro other hother
    have hne : other ≠ w.tasks.live.next := by
      rintro rfl
      exact Nat.lt_irrefl _ hother
    rw [hexecuted.task_of_ne hne]
    exact Live.get_add_of_has _ _ hother
  · -- A result bears the id of the task that it is the result of.
    unfold StepRun.Ended
    cases houtcome : outcome with
    | ok result =>
      rw [houtcome] at hexecuted
      obtain ⟨hstatus, houtput⟩ := hexecuted.completed hlive
      refine ⟨hstatus, ?_, houtput⟩
      rw [hexecuted.taskId result rfl, htask]
      exact hwork.id
    | error fault =>
      rw [houtcome] at hexecuted
      exact hexecuted.failed hlive

/-! ## The steps that were carried out -/

section

variable {agentId : String} {agent : Ref Agent} {context : Option String}

/-- Steps are carried out one after the other, each in the world that the one before it left, and
each is asked what its template says when it is filled in with what the steps before it put out. -/
inductive Carried (agentId : String) (agent : Ref Agent) (context : Option String)
    (w : World σ τ) : List StepRun → World σ τ → Prop
  | start : Carried agentId agent context w [] w
  | next {earlier : List StepRun} {w₁ : World σ τ} (step : WorkflowStep) {input : String}
      (hbefore : Carried agentId agent context w earlier w₁)
      (hinput : Template.render (published (outputsOf earlier)) step.input = .ok input) :
      Carried agentId agent context w
        (earlier ++ [⟨step, input, outcomeOf (runStep agentId agent context step input) w₁⟩])
        (worldAfter (runStep agentId agent context step input) w₁)

/-- Each of the steps was carried out in the world that the steps before it have left. -/
theorem Carried.ran {w w' : World σ τ} {earlier later : List StepRun} {run : StepRun}
    (h : Carried agentId agent context w (earlier ++ run :: later) w') :
    ∃ w₁, Carried agentId agent context w earlier w₁ ∧
      run.outcome = outcomeOf (runStep agentId agent context run.step run.input) w₁ := by
  generalize hruns : earlier ++ run :: later = runs at h
  induction h generalizing later with
  | start => simp at hruns
  | @next before w₁ step input hbefore hinput ih =>
    rcases List.eq_nil_or_concat later with rfl | ⟨others, last, rfl⟩
    · -- The step is the last one.
      obtain ⟨rfl, hlast⟩ := List.append_inj' hruns rfl
      cases hlast
      exact ⟨w₁, hbefore, rfl⟩
    · rw [List.concat_eq_append, ← List.cons_append, ← List.append_assoc] at hruns
      exact ih (List.append_inj' hruns rfl).1

/-- What the table of tasks has under the id of the task of a step. -/
def entryOf (w : World σ τ) (position : Nat) : String × Ref Task :=
  (Identifier.issue (w.issued + position), ⟨w.tasks.live.values.length + position⟩)

/-- The entries of the steps that were carried out. -/
def entriesOf (w : World σ τ) (runs : List StepRun) : List (String × Ref Task) :=
  (List.range runs.length).map (entryOf w)

/-- The record of the task of a step, which was made when the steps before it had been
carried out. -/
structure StepRecord (agentId : String) (agent : Ref Agent) (context : Option String)
    (w : World σ τ) (earlier : List StepRun) (run : StepRun) (record : Task) : Prop where
  input : Template.render (published (outputsOf earlier)) run.step.input = .ok run.input
  work : ∃ w₁, Carried agentId agent context w earlier w₁ ∧
    MadeForStep (Identifier.issue (w.issued + earlier.length)) w₁.surroundings.clock.now agentId
      (w₁.agents.agent agent) run record
  ended : run.Ended record

/-- What the steps that were carried out have left in the tables of tasks. -/
structure TasksOf (agentId : String) (agent : Ref Agent) (context : Option String)
    (w : World σ τ) (runs : List StepRun) (w' : World σ τ) : Prop where
  issued : w'.issued = w.issued + runs.length
  count : w'.tasks.live.values.length = w.tasks.live.values.length + runs.length
  index : w'.tasks.index = Table.merge w.tasks.index (entriesOf w runs)
  others : ∀ {other}, w.tasks.live.Has other → w'.tasks.task other = w.tasks.task other
  record : ∀ position (h : position < runs.length),
    StepRecord agentId agent context w (runs.take position) runs[position]
      (w'.tasks.task (entryOf w position).2)

omit [Time τ] [Backend σ τ] in
theorem entriesOf_concat (w : World σ τ) (runs : List StepRun) (run : StepRun) :
    entriesOf w (runs ++ [run]) = entriesOf w runs ++ [entryOf w runs.length] := by
  simp [entriesOf, List.range_succ]

/-- The tasks of a workflow that was carried out are those of its steps, in their order. -/
theorem Carried.tasks {w w' : World σ τ} {runs : List StepRun}
    (h : Carried agentId agent context w runs w') : TasksOf agentId agent context w runs w' := by
  -- The induction is on the steps that were run; the last one makes the newest task.
  induction h with
  | start =>
    exact ⟨rfl, rfl, rfl, fun _ => rfl, fun position hbound => absurd hbound (Nat.not_lt_zero _)⟩
  | @next earlier w₁ step input hbefore hinput ih =>
    have hstep := stepped agentId agent context step input w₁
    set run : StepRun := ⟨step, input, outcomeOf (runStep agentId agent context step input) w₁⟩
    have hentry : entryOf w earlier.length = (Identifier.issue w₁.issued, w₁.tasks.live.next) := by
      rw [entryOf, Live.next, ih.issued, ih.count]
    refine ⟨?_, ?_, ?_, ?_, ?_⟩
    · rw [hstep.issued, ih.issued, List.length_append]
      rfl
    · rw [hstep.count, ih.count, List.length_append]
      rfl
    · rw [hstep.index, ih.index, entriesOf_concat, hentry, Table.merge, Table.merge,
        List.foldl_append]
      rfl
    · intro other hother
      have hlive : w₁.tasks.live.Has other := by
        have hlt : other.number < w.tasks.live.values.length := hother
        rw [Live.Has, ih.count]
        omega
      rw [hstep.others hlive, ih.others hother]
    · intro position hbound
      rcases Nat.lt_or_ge position earlier.length with hlt | hge
      · -- The record of an earlier step is left alone.
        have hlive : w₁.tasks.live.Has (entryOf w position).2 := by
          rw [Live.Has, ih.count]
          exact Nat.add_lt_add_left hlt _
        rw [List.take_append_of_le_length (Nat.le_of_lt hlt), List.getElem_append_left hlt,
          hstep.others hlive]
        exact ih.record position hlt
      · have hlast : position = earlier.length := by
          rw [List.length_append, List.length_singleton] at hbound
          omega
        subst hlast
        rw [List.take_left, List.getElem_concat_length rfl, hentry]
        exact ⟨hinput, ⟨w₁, hbefore, ih.issued ▸ hstep.work⟩, hstep.ended⟩

/-- No task is recorded under an identifier that is still to be issued. -/
def NoneForeseen (w : World σ τ) : Prop :=
  ∀ n, w.issued ≤ n → Table.find? w.tasks.index (Identifier.issue n) = none

omit [Time τ] [Backend σ τ] in
/-- The tasks of a workflow are recorded under the identifiers of their turns. -/
theorem keys_entriesOf (w : World σ τ) (runs : List StepRun) :
    Table.keys (entriesOf w runs) =
      (List.range runs.length).map fun position => Identifier.issue (w.issued + position) := by
  simp [Table.keys, entriesOf, entryOf]

/-- One record for each step that was carried out comes to the end of the table of tasks. -/
theorem TasksOf.index_eq_append {w w' : World σ τ} {runs : List StepRun}
    (h : TasksOf agentId agent context w runs w') (hforeseen : NoneForeseen w) :
    w'.tasks.index = w.tasks.index ++ entriesOf w runs := by
  rw [h.index, Table.merge_of_find?_eq_none]
  · rw [keys_entriesOf]
    refine List.Nodup.map (fun i j heq => ?_) List.nodup_range
    exact Nat.add_left_cancel (Identifier.issue_injective heq)
  · intro key hkey
    rw [keys_entriesOf] at hkey
    obtain ⟨position, -, rfl⟩ := List.mem_map.mp hkey
    exact hforeseen _ (Nat.le_add_right _ _)

/-- The steps use up the identifiers of their tasks. -/
theorem TasksOf.noneForeseen {w w' : World σ τ} {runs : List StepRun}
    (h : TasksOf agentId agent context w runs w') (hforeseen : NoneForeseen w) :
    NoneForeseen w' := by
  intro n hn
  rw [h.issued] at hn
  rw [← Option.not_isSome_iff_eq_none, ← Table.mem_keys_iff, h.index_eq_append hforeseen,
    Table.keys, List.map_append, List.mem_append, not_or]
  refine ⟨fun hold => ?_, fun hnew => ?_⟩
  · have hfound := Table.mem_keys_iff.mp hold
    rw [hforeseen n (by omega)] at hfound
    cases hfound
  · have hkey : Identifier.issue n ∈ Table.keys (entriesOf w runs) := hnew
    rw [keys_entriesOf] at hkey
    obtain ⟨position, hposition, heq⟩ := List.mem_map.mp hkey
    have hlt := List.mem_range.mp hposition
    have hserial := Identifier.issue_injective heq
    omega

/-! ## How a workflow stops -/

/-- The outcome of the steps from the given position on, when these were carried out: all of them
have succeeded and are reported, or they have up to the last one, which has failed. -/
inductive Stops (position : Nat) (steps : List WorkflowStep) : List StepRun → WorkflowResult → Prop
  | finished {runs : List StepRun} {reports : List WorkflowStepResult}
      (hsteps : runs.map (·.step) = steps) (hreports : List.Forall₂ StepRun.Reported runs reports) :
      Stops position steps runs {
        steps := reports
        success := true
        error := ""
        failedStep := none }
  | failed {before : List StepRun} {last : StepRun} {after : List WorkflowStep} {fault : Fault}
      {reports : List WorkflowStepResult}
      (hsteps : before.map (·.step) ++ last.step :: after = steps)
      (hreports : List.Forall₂ StepRun.Reported before reports)
      (hfault : last.outcome = .error fault) :
      Stops position steps (before ++ [last]) {
        steps := reports
        success := false
        error := "Step " ++ Decimal.integerText ↑(position + before.length) ++ " (" ++
          last.step.name ++ ") failed: " ++ fault.message
        failedStep := some last.step.name }

omit [Time τ] [Backend σ τ] in
/-- How a failed step is named, spelled out. -/
theorem stepLabel_failed (position : Nat) (name message : String) :
    "Step " ++ stepLabel position name ++ " failed: " ++ message =
      "Step " ++ Decimal.integerText position ++ " (" ++ name ++ ") failed: " ++ message := by
  have hclosed : ") failed: " = ")" ++ " failed: " := rfl
  simp only [stepLabel, hclosed, String.append_assoc]

omit [Time τ] [Backend σ τ] in
/-- A step that succeeds comes before the others. -/
theorem Stops.cons {position : Nat} {step : WorkflowStep} {rest : List WorkflowStep}
    {runs : List StepRun} {later : WorkflowResult} (h : Stops (position + 1) rest runs later)
    (input : String) (result : TaskResult) :
    Stops position (step :: rest) (⟨step, input, .ok result⟩ :: runs)
      { later with steps := stepResult step input result :: later.steps } := by
  have hreported := StepRun.reported_stepResult step input result
  cases h with
  | finished hsteps hreports =>
    exact .finished (congrArg (step :: ·) hsteps) (.cons hreported hreports)
  | @failed before last after fault reports hsteps hreports hfault =>
    have hfailed : Stops position (step :: rest)
        ((⟨step, input, .ok result⟩ :: before) ++ [last]) _ :=
      .failed (congrArg (step :: ·) hsteps) (.cons hreported hreports) hfault
    rw [List.length_cons, ← Nat.add_assoc, Nat.add_right_comm] at hfailed
    exact hfailed

omit [Time τ] [Backend σ τ] in
/-- A step that fails is the last one. -/
theorem Stops.of_error (position : Nat) (step : WorkflowStep) (rest : List WorkflowStep)
    (input : String) (fault : Fault) :
    Stops position (step :: rest) [⟨step, input, .error fault⟩] {
      success := false
      error := "Step " ++ stepLabel position step.name ++ " failed: " ++ fault.message
      failedStep := some step.name } := by
  have hfailed : Stops position (step :: rest) ([] ++ [⟨step, input, .error fault⟩]) _ :=
    .failed rfl .nil rfl
  rw [stepLabel_failed]
  exact hfailed

omit [Time τ] [Backend σ τ] in
/-- A workflow is successful if none of its steps has failed. -/
theorem Stops.success_iff {position : Nat} {steps : List WorkflowStep} {runs : List StepRun}
    {result : WorkflowResult} (h : Stops position steps runs result) :
    result.success = true ↔ ∀ run ∈ runs, run.result?.isSome := by
  cases h with
  | finished hsteps hreports => exact iff_of_true rfl (succeeded_of_reported hreports)
  | @failed before last after fault reports hsteps hreports hfault =>
    refine iff_of_false Bool.false_ne_true fun hall => ?_
    obtain ⟨_, hok⟩ :=
      StepRun.result?_isSome_iff.mp (hall last (List.mem_append_right _ List.mem_cons_self))
    cases hfault.symm.trans hok

section

variable {w w₁ : World σ τ} {position : Nat} {outputs : Fields} {step : WorkflowStep}
  {rest : List WorkflowStep} {input : String}

/-- A step that succeeds puts its report before those of the steps after it. -/
theorem run_runSteps_of_ok {w₂ : World σ τ} {result : TaskResult} {later : WorkflowResult}
    (hinput : Template.render outputs step.input = .ok input)
    (hfirst : (runStep agentId agent context step input).run w = .ok result w₁)
    (hrest : (runSteps agentId agent context (position + 1)
      (publish outputs position step.name result.output) rest).run w₁ = .ok later w₂) :
    (runSteps agentId agent context position outputs (step :: rest)).run w =
      .ok { later with steps := stepResult step input result :: later.steps } w₂ := by
  obtain ⟨houtcome, hworld⟩ := run_eq_ok_iff.mp hfirst
  rw [runSteps, EStateM.run_bind, run_lift, hinput]
  dsimp only
  rw [EStateM.run_bind, run_attempt, houtcome, hworld]
  dsimp only
  rw [EStateM.run_bind, hrest]
  rfl

/-- A step that fails ends the workflow. -/
theorem run_runSteps_of_error {fault : Fault} (rest : List WorkflowStep)
    (hinput : Template.render outputs step.input = .ok input)
    (hfirst : (runStep agentId agent context step input).run w = .error fault w₁) :
    ∃ journal, (runSteps agentId agent context position outputs (step :: rest)).run w =
      .ok {
        success := false
        error := "Step " ++ stepLabel position step.name ++ " failed: " ++ fault.message
        failedStep := some step.name } { w₁ with journal } := by
  obtain ⟨houtcome, hworld⟩ := run_eq_error_iff.mp hfirst
  have htaxonomy := (stepped agentId agent context step input w).taxonomy fault houtcome
  rw [runSteps, EStateM.run_bind, run_lift, hinput]
  dsimp only
  rw [EStateM.run_bind, run_attempt, houtcome, hworld]
  dsimp only
  rw [if_pos htaxonomy]
  exact ⟨_, rfl⟩

end

/-- The steps are carried out one after the other until they stop. -/
theorem run_runSteps {w w₁ : World σ τ} {earlier : List StepRun}
    (h : Carried agentId agent context w earlier w₁) (steps : List WorkflowStep) :
    ∃ runs result w₂ journal,
      (runSteps agentId agent context ((outputsOf earlier).length + 1)
        (published (outputsOf earlier)) steps).run w₁ = .ok result { w₂ with journal } ∧
      Carried agentId agent context w (earlier ++ runs) w₂ ∧
      Stops ((outputsOf earlier).length + 1) steps runs result := by
  induction steps generalizing w₁ earlier with
  | nil =>
    refine ⟨[], {}, w₁, w₁.journal, rfl, ?_, .finished rfl .nil⟩
    rwa [List.append_nil]
  | cons step rest ih =>
    obtain ⟨input, hinput⟩ := exists_render_published (outputsOf earlier) step.input
    have hnext := Carried.next step h hinput
    cases hfirst : (runStep agentId agent context step input).run w₁ with
    | error fault w₂ =>
      -- The steps of `rest` are never looked at.
      obtain ⟨houtcome, hworld⟩ := run_eq_error_iff.mp hfirst
      rw [houtcome, hworld] at hnext
      obtain ⟨journal, hrun⟩ := run_runSteps_of_error rest hinput hfirst
      exact ⟨_, _, w₂, journal, hrun, hnext, .of_error _ step rest _ fault⟩
    | ok result w₂ =>
      obtain ⟨houtcome, hworld⟩ := run_eq_ok_iff.mp hfirst
      rw [houtcome, hworld] at hnext
      obtain ⟨runs, later, w₃, journal, hlater, hcarried, hstops⟩ := ih hnext
      have houtputs : outputsOf (earlier ++ [⟨step, input, .ok result⟩]) =
          outputsOf earlier ++ [(step.name, result.output)] := List.filterMap_append
      rw [houtputs, published_concat, List.length_append] at hlater
      rw [houtputs, List.length_append] at hstops
      rw [List.append_assoc] at hcarried
      exact ⟨_, _, w₃, journal, run_runSteps_of_ok hinput hfirst hlater, hcarried,
        hstops.cons _ result⟩

end

/-! ## Running a workflow -/

section

variable {agentId : String} {w : World σ τ}

/-- An agent that nobody knows carries out nothing. -/
theorem run_runWorkflow_unknown (hunknown : w.agents.find? agentId = none)
    (steps : List WorkflowStep) (context : Option String) :
    (runWorkflow agentId steps context).run w = .error (.missing .agent agentId) w := by
  rw [runWorkflow, EStateM.run_bind, EStateM.run_get]
  simp only [EStateM.run_bind, run_lift, AgentStore.get_of_find?_eq_none hunknown]

/-- A registered agent carries out the steps, and at most something is logged in the end. -/
theorem run_runWorkflow_of_runSteps {agent : Ref Agent}
    (hknown : w.agents.find? agentId = some agent) {steps : List WorkflowStep}
    {context : Option String} {result : WorkflowResult} {w₁ : World σ τ}
    (hsteps : (runSteps agentId agent context 1 [] steps).run w = .ok result w₁) :
    ∃ journal, (runWorkflow agentId steps context).run w = .ok result { w₁ with journal } := by
  rw [runWorkflow, EStateM.run_bind, EStateM.run_get]
  simp only [EStateM.run_bind, run_lift, AgentStore.get_of_find? hknown, hsteps]
  split
  · exact ⟨_, rfl⟩
  · exact ⟨_, rfl⟩

/-- A registered agent carries out the steps until they stop. -/
theorem run_runWorkflow {agent : Ref Agent} (hknown : w.agents.find? agentId = some agent)
    (steps : List WorkflowStep) (context : Option String) :
    ∃ runs result w₁ journal,
      (runWorkflow agentId steps context).run w = .ok result { w₁ with journal } ∧
      Carried agentId agent context w runs w₁ ∧ Stops 1 steps runs result := by
  have hstart : Carried agentId agent context w [] w := .start
  obtain ⟨runs, result, w₁, journal, hrun, hcarried, hstops⟩ := run_runSteps hstart steps
  have hsteps : (runSteps agentId agent context 1 [] steps).run w =
      .ok result { w₁ with journal } := hrun
  obtain ⟨journal, hworkflow⟩ := run_runWorkflow_of_runSteps hknown hsteps
  exact ⟨runs, result, w₁, journal, hworkflow, hcarried, hstops⟩

/-- **A workflow** is refused for the sake of an agent that nobody knows, and leaves the world as
it is then. Otherwise it returns: its steps are carried out in order, each in the world that the
one before it left, up to the first that fails, and what is returned tells how they stopped. The
world is then the one after the last of these steps, but for what is logged, and has one task more
for each of them. -/
theorem runWorkflow_carried (agentId : String) (steps : List WorkflowStep) (context : Option String)
    (w : World σ τ) :
    (w.agents.find? agentId = none ∧
      (runWorkflow agentId steps context).run w = .error (.missing .agent agentId) w) ∨
    ∃ agent runs result w₁ journal, w.agents.find? agentId = some agent ∧
      (runWorkflow agentId steps context).run w = .ok result { w₁ with journal } ∧
      Carried agentId agent context w runs w₁ ∧
      Stops 1 steps runs result ∧
      (result.success = true ↔ ∀ run ∈ runs, run.result?.isSome) ∧
      TasksOf agentId agent context w runs w₁ ∧
      (NoneForeseen w → NoneForeseen w₁ ∧ w₁.tasks.index = w.tasks.index ++ entriesOf w runs) := by
  cases hfind : w.agents.find? agentId with
  | none => exact .inl ⟨rfl, run_runWorkflow_unknown hfind steps context⟩
  | some agent =>
    obtain ⟨runs, result, w₁, journal, hrun, hcarried, hstops⟩ :=
      run_runWorkflow hfind steps context
    have htasks := hcarried.tasks
    exact .inr ⟨agent, runs, result, w₁, journal, rfl, hrun, hcarried, hstops, hstops.success_iff,
      htasks, fun hforeseen => ⟨htasks.noneForeseen hforeseen, htasks.index_eq_append hforeseen⟩⟩

end

end Orchestration.Engine
