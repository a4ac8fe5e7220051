import Mathlib.Logic.Function.Basic
import Orchestration.Engine.TaskStore

/-!
# The records of tasks

A task is started, and then it is complete or has failed. Each of these transitions writes only some
of the fields of its record: a start clears the error but not the output, a completion leaves the
error, a failure leaves the output. A task may be carried out again, and then its record shows what
its whole life has left (`Recorded`).

The fields of a record should fit together (`Task.Consistent`). Whether they do is decided by the
life of the task (`Recorded.consistent_iff`): what a completion has written stays for good, so a
task that was complete once is consistent only as long as it is complete.

A `Chronicle` is a store with the lives of its tasks, as it comes about by sections that executions
take in any order. Every snapshot that a reader can take is one of a store with a chronicle.
-/

namespace Orchestration

/-! ## Records -/

namespace Task

/-- The task is still to be done, and nothing has come of it yet. -/
structure Fresh (task : Task) : Prop where
  status : task.status = .pending
  completedAt : task.completedAt = none
  output : task.output = ""
  error : task.error = ""

/-- The fields of the record fit together. -/
structure Consistent (task : Task) : Prop where
  completed : task.status = .completed ↔ task.completedAt.isSome
  noError : task.status = .completed → task.error = ""
  failed : task.status = .failed ↔ task.error ≠ ""
  noOutput : task.status ≠ .completed → task.output = ""

end Task

/-! ## Lives -/

/-- What happens to a task that is carried out. -/
inductive Transition where
  | start
  | complete (time : Moment) (output : String)
  | fail (fault : Fault)

/-- The record after a transition. -/
def Transition.apply : Transition → Task → Task
  | start => Task.afterStart
  | complete time output => Task.afterCompletion time output
  | fail fault => Task.afterFailure fault

/-- All that has happened to a task. -/
inductive Life where
  | fresh
  | step (earlier : Life) (latest : Transition)

namespace Life

/-- The status that a life has led to. -/
def status : Life → TaskStatus
  | fresh => .pending
  | step _ .start => .running
  | step _ (.complete _ _) => .completed
  | step _ (.fail _) => .failed

/-- The time and the output of the latest completion. -/
def completion : Life → Option (Moment × String)
  | fresh => none
  | step _ (.complete time output) => some (time, output)
  | step earlier .start | step earlier (.fail _) => earlier.completion

/-- The text of the latest failure, unless the task was started since. -/
def error : Life → String
  | fresh | step _ .start => ""
  | step _ (.fail fault) => fault.message
  | step earlier (.complete _ _) => earlier.error

/-- The life leads to a record whose fields fit together: the task was never complete before, if it
is not now; no failure is left, if it is complete; and its failure has a text, if it has failed. -/
def Regular : Life → Prop
  | fresh => True
  | step earlier .start => earlier.completion = none
  | step earlier (.complete _ _) => earlier.error = ""
  | step earlier (.fail fault) => earlier.completion = none ∧ fault.message ≠ ""

end Life

/-- The record is what the life has left. -/
structure Recorded (life : Life) (task : Task) : Prop where
  status : task.status = life.status
  completedAt : task.completedAt = life.completion.map (·.1)
  output : task.output = (life.completion.map (·.2)).getD ""
  error : task.error = life.error

namespace Recorded

variable {life : Life} {task : Task}

theorem of_fresh (h : task.Fresh) : Recorded .fresh task :=
  ⟨h.status, h.completedAt, h.output, h.error⟩

/-- **Step law.** Every transition is recorded. -/
theorem apply (h : Recorded life task) (transition : Transition) :
    Recorded (life.step transition) (transition.apply task) := by
  cases transition with
  | start => exact ⟨rfl, h.completedAt, h.output, rfl⟩
  | complete time output => exact ⟨rfl, rfl, rfl, h.error⟩
  | fail fault => exact ⟨rfl, h.completedAt, h.output, rfl⟩

/-- To whom a task is given is not part of its life. -/
theorem assignedTo (h : Recorded life task) (agentId : String) :
    Recorded life (task.assignedTo agentId) := by
  unfold Task.assignedTo
  split
  · exact ⟨h.status, h.completedAt, h.output, h.error⟩
  · exact h

/-- Nothing of a completion is in the record exactly if there never was one. -/
theorem completion_eq_none_iff (h : Recorded life task) :
    life.completion = none ↔ task.completedAt = none ∧ task.output = "" := by
  rw [h.completedAt, h.output]
  cases life.completion <;> simp

/-- What a completion has left does not fit to any other status. -/
theorem consistent_iff_of_ne (h : Recorded life task) (hne : task.status ≠ .completed) :
    task.Consistent ↔ life.completion = none ∧ (task.status = .failed ↔ task.error ≠ "") := by
  rw [h.completion_eq_none_iff]
  constructor
  · intro hconsistent
    have hnone : ¬ task.completedAt.isSome := fun hsome => hne (hconsistent.completed.mpr hsome)
    exact ⟨⟨by simpa using hnone, hconsistent.noOutput hne⟩, hconsistent.failed⟩
  · rintro ⟨⟨htime, houtput⟩, hfailed⟩
    refine ⟨iff_of_false hne ?_, fun hcompleted => absurd hcompleted hne, hfailed,
      fun _ => houtput⟩
    simp [htime]

/-- **What makes a record consistent.** The fields of a record fit together exactly if the life of
its task is regular. -/
theorem consistent_iff (h : Recorded life task) : task.Consistent ↔ life.Regular := by
  cases life with
  | fresh =>
    have hstatus : task.status = .pending := h.status
    have herror : task.error = "" := h.error
    rw [h.consistent_iff_of_ne (by rw [hstatus]; decide), hstatus, herror]
    exact iff_of_true ⟨rfl, by decide⟩ trivial
  | step earlier latest =>
    cases latest with
    | start =>
      have hstatus : task.status = .running := h.status
      have herror : task.error = "" := h.error
      rw [h.consistent_iff_of_ne (by rw [hstatus]; decide), hstatus, herror]
      exact and_iff_left (by decide)
    -- A completion leaves the error of before, so it is regular only if there was none.
    | complete time output =>
      have hstatus : task.status = .completed := h.status
      have htime : task.completedAt = some time := h.completedAt
      have herror : task.error = earlier.error := h.error
      refine ⟨fun hconsistent => herror.symm.trans (hconsistent.noError hstatus),
        fun hregular => ?_⟩
      have hnone : task.error = "" := herror.trans hregular
      refine ⟨iff_of_true hstatus (by simp [htime]), fun _ => hnone, ?_,
        fun hne => absurd hstatus hne⟩
      rw [hstatus, hnone]
      decide
    | fail fault =>
      have hstatus : task.status = .failed := h.status
      have herror : task.error = fault.message := h.error
      rw [h.consistent_iff_of_ne (by rw [hstatus]; decide), hstatus, herror]
      exact and_congr_right' (iff_true_left rfl)

end Recorded

/-! ## Chronicles -/

/-- Making a value live changes what is found under its own number only. -/
theorem Live.get_add {α : Type} [Inhabited α] (live : Live α) (value : α) (ref : Ref α) :
    (live.add value).get ref = if ref = live.next then value else live.get ref := by
  split
  next heq => rw [heq, get_add_next]
  next hne =>
    have hnumber : ref.number ≠ live.values.length :=
      fun h => hne (by cases ref; exact congrArg Ref.mk h)
    simp only [get, add, List.getElem?_append]
    split
    · rfl
    · -- Beyond the new value there is nothing, as before.
      rw [List.getElem?_eq_none (by simp; omega), List.getElem?_eq_none (by omega)]

/-- A store and the lives of its tasks, as they come about by the sections of executions, in any
order. -/
inductive Chronicle : (Ref Task → Life) → TaskStore → Prop
  | empty : Chronicle (fun _ => .fresh) {}
  | make {lives : Ref Task → Life} {tasks : TaskStore} {task : Task} (h : Chronicle lives tasks)
      (hfresh : task.Fresh) :
      Chronicle (Function.update lives tasks.live.next .fresh) (tasks.add task)
  /-- A caller goes on with a snapshot of a recorded task. -/
  | copy {lives : Ref Task → Life} {tasks : TaskStore} {id : String} {ref : Ref Task}
      (h : Chronicle lives tasks) (hfound : Table.find? tasks.index id = some ref) :
      Chronicle (Function.update lives tasks.live.next (lives ref)) (tasks.add (tasks.task ref))
  | assign {lives : Ref Task → Life} {tasks : TaskStore} (h : Chronicle lives tasks)
      (ref : Ref Task) (agentId : String) :
      Chronicle lives (tasks.modify ref (Task.assignedTo agentId))
  | put {lives : Ref Task → Life} {tasks : TaskStore} (h : Chronicle lives tasks)
      (ref : Ref Task) : Chronicle lives (tasks.put ref)
  | step {lives : Ref Task → Life} {tasks : TaskStore} (h : Chronicle lives tasks)
      {ref : Ref Task} (hlive : tasks.live.Has ref) (latest : Transition) :
      Chronicle (Function.update lives ref ((lives ref).step latest))
        (tasks.modify ref latest.apply)

namespace Chronicle

variable {lives : Ref Task → Life} {tasks : TaskStore}

/-- **Run law.** The record of every task is what its life has left. -/
theorem recorded (h : Chronicle lives tasks) (ref : Ref Task) :
    Recorded (lives ref) (tasks.task ref) := by
  induction h generalizing ref with
  | empty => exact .of_fresh ⟨rfl, rfl, rfl, rfl⟩
  | @make lives tasks task _ hfresh ih =>
    rw [TaskStore.task, TaskStore.add, Live.get_add, Function.update_apply]
    split
    · exact .of_fresh hfresh
    · exact ih ref
  | @copy lives tasks id source _ _ ih =>
    rw [TaskStore.task, TaskStore.add, Live.get_add, Function.update_apply]
    split
    · exact ih source
    · exact ih ref
  | @assign lives tasks _ source agentId ih =>
    -- Assigning a task to an agent is no section of its life, and keeps what is recorded of it.
    let kept (before after : Task) : Prop :=
      Recorded (lives ref) before → Recorded (lives ref) after
    have : Std.Refl kept := ⟨fun _ hbefore => hbefore⟩
    exact Live.rel_get_modify (r := kept) tasks.live source
      (fun _ hbefore => hbefore.assignedTo agentId) ref (ih ref)
  | put _ _ ih => exact ih ref
  | @step lives tasks _ source hlive latest ih =>
    rw [Function.update_apply]
    split
    next heq =>
      rw [heq, TaskStore.task_modify_self hlive]
      exact (ih source).apply latest
    next hne =>
      rw [TaskStore.task_modify_of_ne hne]
      exact ih ref

end Chronicle

end Orchestration
