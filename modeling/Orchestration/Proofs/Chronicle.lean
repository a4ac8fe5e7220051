import Orchestration.Proofs.TaskRecord
import Orchestration.Proofs.Tasks.Law

/-!
# The records of tasks in a run

What happens to tasks happens in single sections: a task is made, given to an agent, recorded,
started and ended. So a run in which callers make tasks that are still to be
done, or go on with snapshots of recorded ones, has a chronicle (`Undertaken.chronicle`), and the
records that readers find in it fit together exactly as the lives of the tasks allow. In particular
a task that is carried out again after it was complete keeps its old output and time of completion
while it is running and when it fails.

The main statement is `records_consistent_iff`.
-/

namespace Orchestration

namespace Engine

variable {σ τ : Type}

/-! ## Executions -/

/-- The transition with which an execution ends. -/
def endingOf (time : Moment) : Except Fault TaskResult → Transition
  | .ok result => .complete time result.output
  | .error fault => .fail fault

/-- The section at which an execution ends does to the record what the execution does. -/
theorem apply_endingOf (time : Moment) (outcome : Except Fault TaskResult) :
    (endingOf time outcome).apply = ended time outcome := by
  funext task
  cases outcome <;> rfl

section

variable {lives : Ref Task → Life} {ref : Ref Task} {agentRef : Ref Agent} {tracked : Bool}

/-- A task that is taken up has started once more. -/
theorem chronicle_tasksTakenUp {tasks : TaskStore} (h : Chronicle lives tasks)
    (hlive : tasks.live.Has ref) (agentId : String) (tracked : Bool) :
    Chronicle (Function.update lives ref ((lives ref).step .start))
      (tasksTakenUp tasks ref agentId tracked) := by
  have hassigned := h.assign ref agentId
  cases tracked with
  | false => exact hassigned.step (TaskStore.has_modify.mpr hlive) .start
  | true => exact (hassigned.put ref).step (TaskStore.has_modify.mpr hlive) .start

/-- An execution adds two transitions to the life of its task: a start, and the ending that its
outcome is. -/
theorem chronicle_executed {w w' : World σ τ} {outcome : Except Fault TaskResult}
    (h : Chronicle lives w.tasks) (hlive : w.tasks.live.Has ref)
    (hexecuted : Executed w ref agentRef tracked outcome w') :
    Chronicle (Function.update lives ref
      (((lives ref).step .start).step (endingOf w'.surroundings.clock.now outcome))) w'.tasks := by
  have htaken := chronicle_tasksTakenUp h hlive (w.agents.agent agentRef).id tracked
  have hended := htaken.step (has_tasksTakenUp.mpr hlive)
    (endingOf w'.surroundings.clock.now outcome)
  rw [Function.update_self, Function.update_idem, apply_endingOf] at hended
  rw [hexecuted.tasks]
  exact hended

end

/-- If the tasks before have a chronicle, so have the tasks after. -/
def Chronicled (w w' : World σ τ) : Prop :=
  (∃ lives, Chronicle lives w.tasks) → ∃ lives, Chronicle lives w'.tasks

instance : IsPreorder (World σ τ) Chronicled where
  refl _ h := h
  trans _ _ _ h h' hbefore := h' (h hbefore)

theorem chronicled_of_eq {w w' : World σ τ} (h : w'.tasks = w.tasks) : Chronicled w w' := by
  rintro ⟨lives, hlives⟩
  exact ⟨lives, h ▸ hlives⟩

/-- An execution adds a start and an end to the life of its task. -/
theorem Executed.chronicled {w w' : World σ τ} {ref : Ref Task} {agentRef : Ref Agent}
    {tracked : Bool} {outcome : Except Fault TaskResult}
    (h : Executed w ref agentRef tracked outcome w') : Chronicled w w' := by
  rintro ⟨lives, hlives⟩
  by_cases hlive : w.tasks.live.Has ref
  · exact ⟨_, chronicle_executed hlives hlive h⟩
  · -- There is nothing to carry out, but it may have been recorded.
    refine ⟨lives, ?_⟩
    rw [h.tasks, TaskStore.modify_of_not_has (mt has_tasksTakenUp.mp hlive), tasksTakenUp]
    cases tracked with
    | false =>
      rw [if_neg Bool.false_ne_true, TaskStore.modify_of_not_has hlive,
        TaskStore.modify_of_not_has hlive]
      exact hlives
    | true =>
      have hput : ¬ (w.tasks.put ref).live.Has ref := hlive
      rw [if_pos rfl, TaskStore.modify_of_not_has hlive, TaskStore.modify_of_not_has hput]
      exact hlives.put ref

/-- The life of a task begins when it is made. -/
theorem chronicled_of_add {w : World σ τ} {task : Task} (hfresh : task.Fresh) :
    Chronicled w { w with tasks := w.tasks.add task } := by
  rintro ⟨lives, hlives⟩
  exact ⟨_, hlives.make hfresh⟩

/-! ## Runs -/

section Runs

variable [Time τ] [Backend σ τ]

/-- What happens to tasks goes into their chronicle. -/
theorem chronicled : TaskLaw (Chronicled (σ := σ) (τ := τ)) where
  same _ _ := chronicled_of_eq
  made _ _ hfresh := chronicled_of_add hfresh
  executed ref agentRef context tracked w := (executed ref agentRef context tracked w).chronicled

/-- The worlds of runs in which callers make only tasks that are still to be done, or go on with a
snapshot of a recorded one. -/
inductive Undertaken : World σ τ → Prop
  | fresh {w : World σ τ} (h : Fresh w) : Undertaken w
  | step {w : World σ τ} (hbefore : Undertaken w) (event : Event σ τ)
      (hadmissible : event.Admissible w)
      (htask : ∀ task, event = .makeTask task → task.Fresh ∨ ∃ id, w.tasks.get id = .ok task) :
      Undertaken (worldAfter event.run w)

/-- Admissible events make up such a run if all tasks that callers make are still to be done. -/
theorem undertaken_after {w : World σ τ} {events : List (Event σ τ)} (h : Undertaken w)
    (hadmissible : AdmissibleFrom w events)
    (hfresh : ∀ task, .makeTask task ∈ events → task.Fresh) : Undertaken (after w events) := by
  induction events generalizing w with
  | nil => exact h
  | cons event rest ih =>
    obtain ⟨hevent, hrest⟩ := hadmissible
    have hnext : Undertaken (worldAfter event.run w) :=
      h.step event hevent fun task heq => .inl (hfresh task (heq ▸ List.mem_cons_self))
    exact ih hnext hrest fun task hmem => hfresh task (List.mem_cons_of_mem _ hmem)

/-- Who finds a task finds the record of the reference that is kept under its id. -/
theorem get_eq_ok_iff {tasks : TaskStore} {id : String} {record : Task} :
    tasks.get id = .ok record ↔
      ∃ ref, Table.find? tasks.index id = some ref ∧ tasks.task ref = record := by
  unfold TaskStore.get
  split <;> simp_all

/-- **Run law.** The tasks of a run have a chronicle. -/
theorem Undertaken.chronicle {w : World σ τ} (h : Undertaken w) :
    ∃ lives, Chronicle lives w.tasks := by
  induction h with
  | fresh hfresh =>
    rw [hfresh.tasks]
    exact ⟨_, .empty⟩
  | @step w hbefore event hadmissible htask ih =>
    refine chronicled.event hadmissible (fun task heq => ?_) ih
    rcases htask task heq with hfresh | ⟨id, hsnapshot⟩
    · exact chronicled_of_add hfresh
    · obtain ⟨ref, hfound, rfl⟩ := get_eq_ok_iff.mp hsnapshot
      rintro ⟨lives, hlives⟩
      exact ⟨_, hlives.copy hfound⟩

/-- **The records of tasks.** The tasks of a run have a chronicle. Wherever the sections of
executions leave a store, the record that a reader gets is what the life of the task has left, and
its fields fit together exactly if that life is regular. -/
theorem records_consistent_iff :
    (∀ w : World σ τ, Undertaken w → ∃ lives, Chronicle lives w.tasks) ∧
      ∀ lives tasks, Chronicle lives tasks → ∀ id record, tasks.get id = .ok record →
        ∃ ref, Table.find? tasks.index id = some ref ∧ Recorded (lives ref) record ∧
          (record.Consistent ↔ (lives ref).Regular) := by
  refine ⟨fun w hundertaken => hundertaken.chronicle, fun lives tasks hlives id record hget => ?_⟩
  obtain ⟨ref, hfound, rfl⟩ := get_eq_ok_iff.mp hget
  have hrecorded := hlives.recorded ref
  exact ⟨ref, hfound, hrecorded, hrecorded.consistent_iff⟩

end Runs

/-! ## A task that is carried out twice -/

/-- An agent with a model carries out a task. -/
def errand : List (Event (Scripted.Script Rat) Rat) :=
  [.makeAgent { id := "al", models := ["m"] },
    .createAgent ⟨0⟩ none,
    .makeTask { id := "r", label := "generate", input := "ok", createdAt := .utc 0 },
    .executeTask "al" ⟨0⟩ none]

/-- The task is carried out again, on behalf of a call that is cancelled. -/
def retriedErrand : List (Event (Scripted.Script Rat) Rat) :=
  errand ++
    [.outside { clock := ⟨0, 0⟩, contexts := [("stop", { cancelled := true })] } {},
      .executeTask "al" ⟨0⟩ (some "stop")]

theorem undertaken_errand : Undertaken (after quietEngine errand) := by
  refine undertaken_after (.fresh fresh_quietEngine)
    ⟨trivial, Nat.zero_lt_one, trivial, trivial, trivial⟩ fun task hmem => ?_
  obtain rfl : task = { id := "r", label := "generate", input := "ok", createdAt := .utc 0 } := by
    simpa [errand] using hmem
  exact ⟨rfl, rfl, rfl, rfl⟩

theorem undertaken_retriedErrand : Undertaken (after quietEngine retriedErrand) := by
  rw [retriedErrand, after_append]
  refine undertaken_after undertaken_errand ⟨trivial, trivial, trivial⟩ fun task hmem => ?_
  simp at hmem

/-- Once the errand is done, its record fits together. -/
theorem records_consistent_errand :
    let w := after quietEngine errand
    Undertaken w ∧ ∃ lives ref record, Chronicle lives w.tasks ∧ w.tasks.get "r" = .ok record ∧
      record.status = .completed ∧ Recorded (lives ref) record ∧
        (record.Consistent ↔ (lives ref).Regular) := by
  intro w
  obtain ⟨hruns, hrecords⟩ := @records_consistent_iff (Scripted.Script Rat) Rat _ _
  obtain ⟨lives, hlives⟩ := hruns w undertaken_errand
  obtain ⟨record, hget, hstatus⟩ : ∃ record, w.tasks.get "r" = .ok record ∧
      record.status = .completed := ⟨_, rfl, rfl⟩
  obtain ⟨ref, -, hrecorded, hconsistent⟩ := hrecords lives w.tasks hlives "r" record hget
  exact ⟨undertaken_errand, lives, ref, record, hlives, hget, hstatus, hrecorded, hconsistent⟩

/-- When the errand has failed at the second try, its record still has the time of completion and
the output of the first one. -/
theorem not_consistent_retriedErrand :
    let w := after quietEngine retriedErrand
    Undertaken w ∧ ∃ record, w.tasks.get "r" = .ok record ∧ record.status = .failed ∧
      record.completedAt.isSome ∧ ¬ record.Consistent := by
  intro w
  obtain ⟨record, hget, hstatus, htime⟩ : ∃ record, w.tasks.get "r" = .ok record ∧
      record.status = .failed ∧ record.completedAt.isSome := ⟨_, rfl, rfl, rfl⟩
  refine ⟨undertaken_retriedErrand, record, hget, hstatus, htime, fun hconsistent => ?_⟩
  rw [hconsistent.completed.mpr htime] at hstatus
  cases hstatus

end Engine

end Orchestration
