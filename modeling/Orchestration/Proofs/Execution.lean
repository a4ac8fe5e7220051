import Mathlib.Tactic.Set
import Orchestration.Inference.Scripted
import Orchestration.Proofs.AgentStore
import Orchestration.Proofs.Work

/-!
# What carrying out a task does to an engine

Carrying out a task reaches the backend, a capability, or the memory of an agent. It never touches
the books of the engine: its settings and capabilities, the register of agents, the conversations,
the queue of workers, the identifiers that were issued (`SameBooks`). Of the tasks it changes only
the one that is carried out, and records that one under its id.

The main statement is `executed`: each execution ends in exactly one of two ways. It gives a result
under the id of the task, and the task is completed with that output; or it fails with a fault of
the taxonomy, and the task has failed with the text of that fault.
-/

namespace Orchestration.Engine

variable {σ τ : Type}

/-! ## The books of an engine -/

/-- Two worlds agree in everything but the memories of the agents, the tasks, the backend, the
surroundings, the scope, and what was noted. -/
structure SameBooks (w w' : World σ τ) : Prop where
  settings : w'.settings = w.settings
  registry : w'.registry = w.registry
  messages : w'.messages = w.messages
  conversations : w'.conversations = w.conversations
  workers : w'.workers = w.workers
  issued : w'.issued = w.issued
  agents : AgentStore.SameRegister w.agents w'.agents

/-- Two worlds agree in their books and in their tasks: what lies between them is work on a task
that was already taken up. -/
structure OnlyWork (w w' : World σ τ) : Prop extends SameBooks w w' where
  tasks : w'.tasks = w.tasks

theorem SameBooks.refl (w : World σ τ) : SameBooks w w :=
  ⟨rfl, rfl, rfl, rfl, rfl, rfl, Std.Refl.refl _⟩

theorem SameBooks.trans {w₁ w₂ w₃ : World σ τ} (h : SameBooks w₁ w₂) (h' : SameBooks w₂ w₃) :
    SameBooks w₁ w₃ where
  settings := h'.settings.trans h.settings
  registry := h'.registry.trans h.registry
  messages := h'.messages.trans h.messages
  conversations := h'.conversations.trans h.conversations
  workers := h'.workers.trans h.workers
  issued := h'.issued.trans h.issued
  agents := IsTrans.trans _ _ _ h.agents h'.agents

instance : IsPreorder (World σ τ) OnlyWork where
  refl w := ⟨.refl w, rfl⟩
  trans _ _ _ h h' := ⟨h.toSameBooks.trans h'.toSameBooks, h'.tasks.trans h.tasks⟩

/-! ## The work on a task -/

section Work

/-- A world in which an agent has a memory more. -/
theorem onlyWork_record (w : World σ τ) (ref : Ref Agent) (now : Moment) (key : String)
    (value : Value) : OnlyWork w { w with agents := w.agents.record ref now key value } :=
  ⟨⟨rfl, rfl, rfl, rfl, rfl, rfl, AgentStore.sameRegister_record ..⟩, rfl⟩

/-- To record an interaction changes an agent in its place. -/
theorem onlyWork_recordInteraction (ref : Ref Agent) (key : String) (value : Value) :
    Guarantees OnlyWork (recordInteraction ref key value : Run σ τ Unit) :=
  guarantees_modify fun w => onlyWork_record w ref _ key value

/-- A world that differs in nothing that counts as the books or the tasks. -/
theorem onlyWork_with (w : World σ τ) (surroundings : Surroundings τ) (backend : σ)
    (scope : Log.Scope) (thread : String) (journal : List Log.Record) (history : List Call) :
    OnlyWork w { w with surroundings, backend, scope, thread, journal, history } :=
  ⟨⟨rfl, rfl, rfl, rfl, rfl, rfl, Std.Refl.refl _⟩, rfl⟩

/-- To log is no work on the books. -/
theorem onlyWork_log (level : Log.Level) (logger message : String) :
    Guarantees OnlyWork (log level logger message : Run σ τ Unit) :=
  guarantees_modify fun w => onlyWork_with w _ _ _ _ _ _

/-- Whatever the kind of a task is, the work on it stays clear of the books and of all tasks. -/
theorem onlyWork_perform [Time τ] [Backend σ τ] (task : Task) (ref : Ref Agent)
    (context : Option String) :
    Guarantees OnlyWork (perform task ref context : Run σ τ TaskResult) :=
  have law : WorkLaw (OnlyWork (σ := σ) (τ := τ)) := {
    called := fun w _ => onlyWork_with w _ _ _ _ _ _
    generate := fun w _ _ _ _ => onlyWork_with w _ _ _ _ _ _
    chat := fun w _ _ _ _ => onlyWork_with w _ _ _ _ _ _
    embed := fun w _ _ _ => onlyWork_with w _ _ _ _ _ _
    logged := fun w _ => onlyWork_with w _ _ _ _ _ _
    recorded := onlyWork_record }
  law.perform task ref context

end Work

/-! ## The end of a use -/

section Uses

variable (task : Task) (ref : Ref Agent) (key name words : String) (output : Value) (w : World σ τ)

/-- What is said of the use of a capability does not depend on the world. -/
theorem outcomeOf_concludeUse :
    outcomeOf (concludeUse task ref key name words output) w = usageResult task words output :=
  outcomeOf_lift _ _

/-- The use of a capability is remembered, whether or not its output can be written. -/
theorem worldAfter_concludeUse :
    worldAfter (concludeUse task ref key name words output) w =
      { w with agents := w.agents.record ref w.surroundings.clock.now key (.text name) } :=
  worldAfter_lift _ _

end Uses

/-! ## Whose result it is -/

section Results

variable [Time τ] [Backend σ τ]

/-- A reply that is collected is the result of the task that asked for it. -/
theorem taskId_collectReply {task : Task} {model operation : String} {reply : StreamReply}
    {result : TaskResult} (h : collectReply task model operation reply = .ok result) :
    result.taskId = task.id := by
  unfold collectReply at h
  split at h
  · cases h
  · unfold collect at h
    split at h
    · cases h
    · dsimp only at h
      split at h
      · cases h
      · cases h
        rfl

/-- A vector is the result of the task that asked for it. -/
theorem taskId_embeddingResult {task : Task} {model : String} {vector : Value}
    {result : TaskResult} (h : embeddingResult task model vector = .ok result) :
    result.taskId = task.id := by
  obtain ⟨dimension, hlength, h⟩ := Fault.bind_eq_ok_iff.mp h
  obtain ⟨embedding, hread, h⟩ := Fault.bind_eq_ok_iff.mp h
  cases h
  rfl

/-- The output of a tool or a plugin is the result of the task that used it. -/
theorem taskId_usageResult {task : Task} {words : String} {output : Value} {result : TaskResult}
    (h : usageResult task words output = .ok result) : result.taskId = task.id := by
  obtain ⟨shown, hshown, h⟩ := Fault.bind_eq_ok_iff.mp h
  cases h
  rfl

/-- Whatever the kind of a task is, a result of the work on it bears the id of the task. -/
theorem returns_taskId_perform (task : Task) (ref : Ref Agent) (context : Option String) :
    Returns (fun result => result.taskId = task.id)
      (perform task ref context : Run σ τ TaskResult) := by
  refine .bind fun _ => .bind fun agent => ?_
  -- Only the last operation of each kind of work makes a result.
  cases task.kind with
  | generate => exact .bind fun _ => .bind fun _ => returns_lift fun _ => taskId_collectReply
  | chat =>
    exact .bind fun _ => .bind fun _ => .bind fun _ => returns_lift fun _ => taskId_collectReply
  | embed =>
    refine .bind fun _ => .bind fun vector => ?_
    cases vector with
    | error fault => exact returns_throw _
    | ok vector => exact returns_lift fun _ => taskId_embeddingResult
  | tool =>
    refine .bind fun call => .bind fun w => ?_
    split
    · exact .bind fun _ => returns_pure rfl
    · exact .bind fun _ => .bind fun _ => .bind fun _ => .bind fun _ =>
        returns_lift fun _ => taskId_usageResult
  | reflect => exact .bind fun _ => returns_pure rfl
  | plugin =>
    refine .bind fun w => ?_
    split
    · exact .bind fun _ => returns_pure rfl
    · refine .bind fun _ => .bind fun _ => ?_
      split
      · exact returns_throw _
      · exact .bind fun _ => returns_lift fun _ => taskId_usageResult
  | custom => exact .bind fun _ => returns_pure rfl

/-- A fault that is told which task it comes from stays in the taxonomy, or outside. -/
theorem isOrchestration_withTask (fault : Fault) (id : String) :
    (fault.withTask id).isOrchestration = fault.isOrchestration := by
  cases fault with
  | execution failure message taskId => cases taskId <;> rfl
  | _ => rfl

/-- A failed task is reported with a fault of the taxonomy. -/
theorem isOrchestration_taskFault (task : Task) (fault : Fault) :
    (taskFault task fault).isOrchestration = true := by
  unfold taskFault
  split
  next h => rw [isOrchestration_withTask, h]
  next => rfl

end Results

/-! ## The life of a task -/

section Life

variable [Time τ] [Backend σ τ]

/-- The tasks when one of them was taken up. -/
def tasksTakenUp (tasks : TaskStore) (ref : Ref Task) (agentId : String) (tracked : Bool) :
    TaskStore :=
  let assigned := tasks.modify ref (Task.assignedTo agentId)
  (if tracked then assigned.put ref else assigned).modify ref Task.afterStart

section

omit [Time τ] [Backend σ τ]

variable {tasks : TaskStore} {ref other : Ref Task} {agentId : String} {tracked : Bool}

/-- Taking a task up makes none. -/
theorem has_tasksTakenUp :
    (tasksTakenUp tasks ref agentId tracked).live.Has other ↔ tasks.live.Has other := by
  cases tracked <;> simp [tasksTakenUp]

/-- A task that is taken up is assigned and has started. -/
theorem task_tasksTakenUp_self (h : tasks.live.Has ref) :
    (tasksTakenUp tasks ref agentId tracked).task ref =
      ((tasks.task ref).assignedTo agentId).afterStart := by
  cases tracked with
  | false =>
    rw [tasksTakenUp, if_neg Bool.false_ne_true,
      TaskStore.task_modify_self (TaskStore.has_modify.mpr h), TaskStore.task_modify_self h]
  | true =>
    rw [tasksTakenUp, if_pos rfl,
      TaskStore.task_modify_self (TaskStore.has_put.mpr (TaskStore.has_modify.mpr h)),
      TaskStore.task_put, TaskStore.task_modify_self h]

/-- Taking a task up does not touch another one. -/
theorem task_tasksTakenUp_of_ne (h : other ≠ ref) :
    (tasksTakenUp tasks ref agentId tracked).task other = tasks.task other := by
  cases tracked with
  | false =>
    rw [tasksTakenUp, if_neg Bool.false_ne_true, TaskStore.task_modify_of_ne h,
      TaskStore.task_modify_of_ne h]
  | true =>
    rw [tasksTakenUp, if_pos rfl, TaskStore.task_modify_of_ne h, TaskStore.task_put,
      TaskStore.task_modify_of_ne h]

end

/-- The scope of an execution. -/
def scopeOf (w : World σ τ) (ref : Ref Task) (agentRef : Ref Agent) : Log.Scope :=
  let agent := w.agents.agent agentRef
  taskScope agent ((w.tasks.modify ref (Task.assignedTo agent.id)).task ref)

/-- The world in which the work on a task begins. -/
def takenUp (w : World σ τ) (ref : Ref Task) (agentRef : Ref Agent) (tracked : Bool) :
    World σ τ :=
  { w with
    tasks := tasksTakenUp w.tasks ref (w.agents.agent agentRef).id tracked
    scope := w.scope.enter (scopeOf w ref agentRef) }

/-- An execution takes the task up, does the work, and settles what came of it. -/
theorem run_execute (ref : Ref Task) (agentRef : Ref Agent) (context : Option String)
    (tracked : Bool) (w : World σ τ) :
    let w₀ := takenUp w ref agentRef tracked
    let work : Run σ τ TaskResult := perform (w₀.tasks.task ref) agentRef context
    let settled := settle ref w.surroundings.clock.reading (outcomeOf work w₀)
    outcomeOf (execute ref agentRef context tracked) w = outcomeOf settled (worldAfter work w₀) ∧
      worldAfter (execute ref agentRef context tracked) w =
        let w' := worldAfter settled (worldAfter work w₀)
        { w' with scope := w.scope.leave (scopeOf w ref agentRef) w'.scope } := by
  intro w₀ work settled
  -- The task is assigned and recorded before the scope is entered, the rest happens inside.
  let tasks := w.tasks.modify ref (Task.assignedTo (w.agents.agent agentRef).id)
  let body : Run σ τ TaskResult := do
    let start ← reading
    changeTask ref Task.afterStart
    let outcome ← attempt (perform (← task ref) agentRef context)
    settle ref start outcome
  have hrun : (execute ref agentRef context tracked).run w =
      (within (scopeOf w ref agentRef) body).run
        { w with tasks := if tracked then tasks.put ref else tasks } := by
    cases tracked <;> rfl
  have hbody : body.run { w with
      tasks := if tracked then tasks.put ref else tasks
      scope := w.scope.enter (scopeOf w ref agentRef) } = settled.run (worldAfter work w₀) := by
    simp only [body, EStateM.run_bind, run_reading, run_changeTask, run_task, run_attempt]
    rfl
  constructor
  · rw [outcomeOf, hrun, ← outcomeOf, outcomeOf_within, outcomeOf, hbody, ← outcomeOf]
  · rw [worldAfter, hrun, ← worldAfter, worldAfter_within, worldAfter, hbody, ← worldAfter]

/-- The task when its execution has ended. -/
def ended (time : Moment) (outcome : Except Fault TaskResult) (task : Task) : Task :=
  match outcome with
  | .ok result => task.afterCompletion time result.output
  | .error fault => task.afterFailure fault

omit [Backend σ τ] in
/-- Settling ends the task as its outcome says and touches nothing else but the journal. -/
theorem worldAfter_settle (ref : Ref Task) (start : τ) (outcome : Except Fault TaskResult)
    (w : World σ τ) :
    ∃ journal, worldAfter (settle ref start outcome : Run σ τ TaskResult) w = { w with
      tasks := w.tasks.modify ref (ended w.surroundings.clock.now
        (outcomeOf (settle ref start outcome : Run σ τ TaskResult) w))
      journal } := by
  cases outcome <;> exact ⟨_, rfl⟩

/-- The work of an execution, which begins when the task is taken up. -/
def workOf (w : World σ τ) (ref : Ref Task) (agentRef : Ref Agent) (context : Option String)
    (tracked : Bool) : Run σ τ TaskResult :=
  perform ((takenUp w ref agentRef tracked).tasks.task ref) agentRef context

/-- What an execution leaves is what its work leaves, but for the tasks and for what is logged. -/
theorem worldAfter_execute (ref : Ref Task) (agentRef : Ref Agent) (context : Option String)
    (tracked : Bool) (w : World σ τ) :
    ∃ tasks scope journal, worldAfter (execute ref agentRef context tracked) w =
      { worldAfter (workOf w ref agentRef context tracked) (takenUp w ref agentRef tracked) with
        tasks, scope, journal } := by
  obtain ⟨-, hworld⟩ := run_execute ref agentRef context tracked w
  obtain ⟨journal, hsettle⟩ := worldAfter_settle ref w.surroundings.clock.reading
    (outcomeOf (workOf w ref agentRef context tracked) (takenUp w ref agentRef tracked))
    (worldAfter (workOf w ref agentRef context tracked) (takenUp w ref agentRef tracked))
  unfold workOf at hsettle ⊢
  dsimp only at hworld
  rw [hworld, hsettle]
  -- Only the scope was still to be left when the task was settled.
  exact ⟨_, _, journal, rfl⟩

/-- What an execution comes to, and the world that it leaves. -/
structure Executed (w : World σ τ) (ref : Ref Task) (agentRef : Ref Agent) (tracked : Bool)
    (outcome : Except Fault TaskResult) (w' : World σ τ) : Prop where
  books : SameBooks w w'
  /-- The task was taken up and has ended; no other task was touched. -/
  tasks : w'.tasks = (tasksTakenUp w.tasks ref (w.agents.agent agentRef).id tracked).modify ref
    (ended w'.surroundings.clock.now outcome)
  /-- A result bears the id of the task. -/
  taskId : ∀ result, outcome = .ok result → result.taskId = (w.tasks.task ref).id
  /-- A failure is reported with a fault of the taxonomy. -/
  taxonomy : ∀ fault, outcome = .error fault → fault.isOrchestration = true

/-- The second task is the first one at a later time: it asks for the same work, and stays with its
agent if it has one. -/
structure SameWork (task later : Task) : Prop where
  id : later.id = task.id
  label : later.label = task.label
  input : later.input = task.input
  agentId : task.agentId ≠ "" → later.agentId = task.agentId
  modelName : later.modelName = task.modelName
  parameters : later.parameters = task.parameters
  createdAt : later.createdAt = task.createdAt

instance : IsPreorder Task SameWork where
  refl _ := ⟨rfl, rfl, rfl, fun _ => rfl, rfl, rfl, rfl⟩
  trans _ _ _ h h' := {
    id := h'.id.trans h.id
    label := h'.label.trans h.label
    input := h'.input.trans h.input
    agentId := fun hne => (h'.agentId (h.agentId hne ▸ hne)).trans (h.agentId hne)
    modelName := h'.modelName.trans h.modelName
    parameters := h'.parameters.trans h.parameters
    createdAt := h'.createdAt.trans h.createdAt }

/-- A task that is assigned asks for the same work. -/
theorem sameWork_assignedTo (agentId : String) (task : Task) :
    SameWork task (task.assignedTo agentId) := by
  unfold Task.assignedTo
  split
  next h => exact ⟨rfl, rfl, rfl, fun hne => absurd h hne, rfl, rfl, rfl⟩
  next => exact Std.Refl.refl task

/-- A task that has ended asks for the same work as before. -/
theorem sameWork_ended (time : Moment) (outcome : Except Fault TaskResult) (task : Task) :
    SameWork task (ended time outcome task) := by
  cases outcome <;> exact ⟨rfl, rfl, rfl, fun _ => rfl, rfl, rfl, rfl⟩

/-- Taking up a task leaves all tasks the work that they ask for. -/
theorem sameWork_tasksTakenUp (tasks : TaskStore) (ref other : Ref Task) (agentId : String)
    (tracked : Bool) :
    SameWork (tasks.task other) ((tasksTakenUp tasks ref agentId tracked).task other) := by
  have hassign : SameWork (tasks.task other)
      ((tasks.modify ref (Task.assignedTo agentId)).task other) :=
    Live.rel_get_modify _ ref (sameWork_assignedTo agentId) other
  have hstart : ∀ tasks : TaskStore,
      SameWork (tasks.task other) ((tasks.modify ref Task.afterStart).task other) :=
    fun tasks => Live.rel_get_modify _ ref
      (fun _ => ⟨rfl, rfl, rfl, fun _ => rfl, rfl, rfl, rfl⟩) other
  cases tracked with
  | false => exact IsTrans.trans _ _ _ hassign (hstart _)
  | true =>
    have hput := hstart ((tasks.modify ref (Task.assignedTo agentId)).put ref)
    exact IsTrans.trans _ _ _ hassign hput

/-- **The law of a single execution.** Whatever the task, the agent, the backend and the
capabilities are, an execution ends the task as completed with its result or as failed with a fault
of the taxonomy, and leaves the other tasks and the books alone. -/
theorem executed (ref : Ref Task) (agentRef : Ref Agent) (context : Option String)
    (tracked : Bool) (w : World σ τ) :
    Executed w ref agentRef tracked (outcomeOf (execute ref agentRef context tracked) w)
      (worldAfter (execute ref agentRef context tracked) w) := by
  obtain ⟨houtcome, hworld⟩ := run_execute ref agentRef context tracked w
  set w₀ := takenUp w ref agentRef tracked
  set work : Run σ τ TaskResult := perform (w₀.tasks.task ref) agentRef context
  obtain ⟨journal, hsettle⟩ := worldAfter_settle ref w.surroundings.clock.reading
    (outcomeOf work w₀) (worldAfter work w₀)
  have hwork : OnlyWork w₀ (worldAfter work w₀) := onlyWork_perform _ _ _ w₀
  rw [houtcome, hworld, hsettle]
  -- Taking up and settling touch the tasks only; the work in between touches neither.
  refine ⟨?_, ?_, ?_, ?_⟩
  · exact ⟨hwork.settings, hwork.registry, hwork.messages, hwork.conversations, hwork.workers,
      hwork.issued, hwork.agents⟩
  · dsimp only
    rw [hwork.tasks]
    rfl
  · intro result hresult
    cases hout : outcomeOf work w₀ with
    | ok found =>
      rw [hout] at hresult
      cases hresult
      have hfound := returns_taskId_perform _ _ _ w₀ found hout
      exact hfound.trans (sameWork_tasksTakenUp w.tasks ref ref _ tracked).id
    | error fault =>
      rw [hout] at hresult
      cases hresult
  · intro fault hfault
    cases hout : outcomeOf work w₀ with
    | ok found =>
      rw [hout] at hfault
      cases hfault
    | error cause =>
      -- Whatever the cause was, it is reported as the fault of a task.
      rw [hout] at hfault
      cases hfault
      exact isOrchestration_taskFault _ _

end Life

section

variable [Time τ] [Backend σ τ] {w w' : World σ τ} {ref : Ref Task} {agentRef : Ref Agent}
  {context : Option String} {tracked : Bool}

/-- An execution that returns is executed with its result. -/
theorem executed_of_run_ok {result : TaskResult}
    (h : (execute ref agentRef context tracked).run w = .ok result w') :
    Executed w ref agentRef tracked (.ok result) w' := by
  obtain ⟨houtcome, hworld⟩ := run_eq_ok_iff.mp h
  rw [← houtcome, ← hworld]
  exact executed ref agentRef context tracked w

/-- An execution that fails is executed with its fault. -/
theorem executed_of_run_error {fault : Fault}
    (h : (execute ref agentRef context tracked).run w = .error fault w') :
    Executed w ref agentRef tracked (.error fault) w' := by
  obtain ⟨houtcome, hworld⟩ := run_eq_error_iff.mp h
  rw [← houtcome, ← hworld]
  exact executed ref agentRef context tracked w

end

/-! ## What an execution leaves of the tasks -/

namespace Executed

variable {w w' : World σ τ} {ref : Ref Task} {agentRef : Ref Agent} {tracked : Bool}
  {outcome : Except Fault TaskResult}

/-- An execution loses no task. -/
theorem has (h : Executed w ref agentRef tracked outcome w') {other : Ref Task}
    (hother : w.tasks.live.Has other) : w'.tasks.live.Has other := by
  rw [h.tasks, TaskStore.has_modify]
  exact has_tasksTakenUp.mpr hother

/-- An execution makes no task. -/
theorem count (h : Executed w ref agentRef tracked outcome w') :
    w'.tasks.live.values.length = w.tasks.live.values.length := by
  rw [h.tasks]
  cases tracked <;> simp [tasksTakenUp, TaskStore.modify, TaskStore.put, Live.modify]

/-- An execution touches no other task. -/
theorem task_of_ne (h : Executed w ref agentRef tracked outcome w') {other : Ref Task}
    (hne : other ≠ ref) : w'.tasks.task other = w.tasks.task other := by
  rw [h.tasks, TaskStore.task_modify_of_ne hne, task_tasksTakenUp_of_ne hne]

/-- An execution leaves all tasks the work that they ask for. -/
theorem sameWork (h : Executed w ref agentRef tracked outcome w') (other : Ref Task) :
    SameWork (w.tasks.task other) (w'.tasks.task other) := by
  rw [h.tasks]
  have htaken := sameWork_tasksTakenUp w.tasks ref other (w.agents.agent agentRef).id tracked
  exact IsTrans.trans _ _ _ htaken (Live.rel_get_modify _ ref (sameWork_ended _ outcome) other)

/-- A tracked task is recorded under its id, and nothing else is. -/
theorem index (h : Executed w ref agentRef true outcome w') :
    w'.tasks.index = Table.insert w.tasks.index (w.tasks.task ref).id ref := by
  have hid : ((w.tasks.modify ref (Task.assignedTo (w.agents.agent agentRef).id)).task ref).id =
      (w.tasks.task ref).id :=
    (Live.rel_get_modify w.tasks.live ref (sameWork_assignedTo _) ref).id
  rw [h.tasks, ← hid]
  rfl

/-- A tracked task is found under its id. -/
theorem get_self (h : Executed w ref agentRef true outcome w') :
    w'.tasks.get (w.tasks.task ref).id = .ok (w'.tasks.task ref) := by
  rw [TaskStore.get, h.index, Table.find?_insert_self]

/-- An execution leaves of its task what it made of it when it took it up and when it ended it. -/
theorem task_self (h : Executed w ref agentRef tracked outcome w') (hlive : w.tasks.live.Has ref) :
    w'.tasks.task ref = ended w'.surroundings.clock.now outcome
      ((w.tasks.task ref).assignedTo (w.agents.agent agentRef).id).afterStart := by
  rw [h.tasks, TaskStore.task_modify_self (has_tasksTakenUp.mpr hlive),
    task_tasksTakenUp_self hlive]

/-- A result means that the task is complete and has the output of the result. -/
theorem completed {result : TaskResult} (h : Executed w ref agentRef tracked (.ok result) w')
    (hlive : w.tasks.live.Has ref) :
    (w'.tasks.task ref).status = .completed ∧ (w'.tasks.task ref).output = result.output := by
  rw [h.task_self hlive]
  exact ⟨rfl, rfl⟩

/-- A fault means that the task has failed with the text of the fault. -/
theorem failed {fault : Fault} (h : Executed w ref agentRef tracked (.error fault) w')
    (hlive : w.tasks.live.Has ref) :
    (w'.tasks.task ref).status = .failed ∧ (w'.tasks.task ref).error = fault.message := by
  rw [h.task_self hlive]
  exact ⟨rfl, rfl⟩

end Executed

/-! ## A small engine -/

/-- An engine with one agent and two tasks. The agent acknowledges the first task, and cannot carry
out the second one because it has no model. -/
def smallEngine : World (Scripted.Script Rat) Rat where
  surroundings := { clock := ⟨0, 0⟩ }
  backend := {}
  agents := { live := ⟨[{ id := "helper", name := "Helper" }]⟩, index := [("helper", ⟨0⟩)] }
  tasks := { live := ⟨[{ id := "first", createdAt := .utc 0 },
    { id := "second", label := "generate", createdAt := .utc 0 }]⟩ }

end Orchestration.Engine
