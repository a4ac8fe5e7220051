import Orchestration.Engine.Agents
import Orchestration.Engine.Boot
import Orchestration.Engine.Correspondence
import Orchestration.Engine.Requests
import Orchestration.Proofs.Run
import Orchestration.Proofs.TaskRecord

/-!
# What every operation guarantees

A `Law` is a relation between the worlds before and after that the basic operations of an engine
guarantee, whether they succeed or fail. All other operations are put together from these, so they
guarantee it as well: workflows, batches and requests, and the workers of delegations.

Most operations register no agent, and send no messages but those that they have made for that. What
they guarantee needs less, and a `ServiceLaw` is enough for it.
-/

namespace Orchestration.Engine

variable {σ τ : Type}

/-! ## Operations on the register -/

section Register

/-- What the operations on the register do to a world: an identifier is issued, the agents are
replaced, and that is logged. -/
structure RegisterLaw (R : World σ τ → World σ τ → Prop) : Prop where
  issued : ∀ w : World σ τ, R w { w with issued := w.issued + 1 }
  replaced : ∀ (w : World σ τ) agents, R w { w with agents }
  logged : ∀ (w : World σ τ) journal, R w { w with journal }

namespace RegisterLaw

variable {R : World σ τ → World σ τ → Prop} [IsPreorder (World σ τ) R]

/-- Agents are replaced at once, and only if there is something to replace them with. -/
theorem replaceAgents (law : RegisterLaw R) (result : Except Fault AgentStore)
    (note : AgentStore → String) :
    Guarantees R (do
      let agents ← lift result
      modify fun w => { w with agents }
      log .info agentLogger (note agents) : Run σ τ Unit) := by
  refine (guarantees_lift _).bind fun agents => Guarantees.bind ?_ fun _ => ?_
  · exact guarantees_modify fun w => law.replaced w agents
  · exact guarantees_modify fun w => law.logged w _

variable [Time τ]

/-- An agent is created at the present time, or the call is refused. -/
theorem createAgent (law : RegisterLaw R) (ref : Ref Agent) (context : Option String) :
    Guarantees R (createAgent ref context : Run σ τ Unit) := by
  have hissue : Guarantees R (freshId : Run σ τ String) := guarantees_modifyGet law.issued
  exact (guarantees_check _ _).bind fun _ => hissue.bind fun _ => guarantees_get.bind fun _ =>
    guarantees_now.bind fun _ => law.replaceAgents _ _

/-- An agent is updated, or the call is refused. -/
theorem updateAgent (law : RegisterLaw R) (ref : Ref Agent) (context : Option String) :
    Guarantees R (updateAgent ref context : Run σ τ Unit) :=
  (guarantees_check _ _).bind fun _ => guarantees_get.bind fun _ => guarantees_now.bind fun _ =>
    law.replaceAgents _ _

/-- An agent is deleted, or the call is refused. -/
theorem deleteAgent (law : RegisterLaw R) (id : String) (context : Option String) :
    Guarantees R (deleteAgent id context : Run σ τ Unit) :=
  (guarantees_check _ _).bind fun _ => guarantees_get.bind fun _ =>
    law.replaceAgents _ fun _ => "Deleted agent " ++ id

/-- An agent that is made for the caller is registered at once. -/
theorem createNew (law : RegisterLaw R) (agent : Agent) (context : Option String) :
    Guarantees R (do
      let ref ← Engine.newAgent agent
      Engine.createAgent ref context
      return ref : Run σ τ (Ref Agent)) := by
  have hnew : Guarantees R (Engine.newAgent agent : Run σ τ (Ref Agent)) :=
    guarantees_modifyGet fun w => law.replaced w _
  exact hnew.bind fun _ => (law.createAgent _ _).bind fun _ => guarantees_pure _

theorem createDefaultAgent (law : RegisterLaw R) (context : Option String) :
    Guarantees R (createDefaultAgent context : Run σ τ (Ref Agent)) :=
  guarantees_get.bind fun _ => law.createNew _ context

/-- An agent of a flavour is made if there is this flavour and the domain is accepted. -/
theorem createSpecializedAgent (law : RegisterLaw R) (type : Value) (domain : String)
    (context : Option String) :
    Guarantees R (createSpecializedAgent type domain context : Run σ τ (Ref Agent)) :=
  (guarantees_lift _).bind fun _ => (guarantees_lift _).bind fun _ => guarantees_get.bind fun _ =>
    law.createNew _ context

end RegisterLaw

end Register

/-- An agent that is made for the caller is live before it is registered. -/
theorem worldAfter_createNew [Time τ] (agent : Agent) (context : Option String) (w : World σ τ) :
    worldAfter (do
      let ref ← newAgent agent
      createAgent ref context
      return ref : Run σ τ (Ref Agent)) w =
      worldAfter (createAgent w.agents.live.next context)
        { w with agents := w.agents.add agent } := by
  have hnew : (newAgent agent : Run σ τ (Ref Agent)).run w =
      .ok w.agents.live.next { w with agents := w.agents.add agent } := rfl
  rw [worldAfter_bind_of_run_eq hnew, worldAfter_bind_pure]

/-! ## Laws -/

variable [Time τ] [Backend σ τ]

/-- The relation holds between the worlds before and after whatever an engine does that neither
registers an agent nor sends a message that it has not made. -/
structure ServiceLaw (R : World σ τ → World σ τ → Prop) : Prop where
  /-- The outside goes on, and something is noted. -/
  idle : ∀ (w : World σ τ) surroundings backend scope thread journal history,
    R w { w with surroundings, backend, scope, thread, journal, history }
  issued : ∀ w : World σ τ, R w { w with issued := w.issued + 1 }
  registry : ∀ (w : World σ τ) registry, R w { w with registry }
  /-- Workers leave the queue. -/
  workers : ∀ (w : World σ τ) workers, workers ⊆ w.workers → R w { w with workers }
  /-- A task is made that is still to be done. -/
  taskAdded : ∀ (w : World σ τ) task, task.Fresh → R w { w with tasks := w.tasks.add task }
  startConversation : ∀ participants topic metadata context,
    Guarantees R (startConversation participants topic metadata context : Run σ τ Conversation)
  /-- A message without an id is made, and sent. -/
  sendNew : ∀ (w : World σ τ) message conversationId context, message.id = "" →
    R w (worldAfter (send conversationId w.messages.next context)
      { w with messages := w.messages.add message })
  closeConversation : ∀ id context,
    Guarantees R (closeConversation id context : Run σ τ Conversation)
  execute : ∀ ref agentRef context tracked,
    Guarantees R (execute ref agentRef context tracked : Run σ τ TaskResult)

/-- The relation holds between the worlds before and after every basic operation. -/
structure Law (R : World σ τ → World σ τ → Prop) : Prop where
  /-- The outside goes on, and something is noted. -/
  idle : ∀ (w : World σ τ) surroundings backend scope thread journal history,
    R w { w with surroundings, backend, scope, thread, journal, history }
  issued : ∀ w : World σ τ, R w { w with issued := w.issued + 1 }
  registry : ∀ (w : World σ τ) registry, R w { w with registry }
  /-- Workers leave the queue. -/
  workers : ∀ (w : World σ τ) workers, workers ⊆ w.workers → R w { w with workers }
  agentAdded : ∀ (w : World σ τ) agent, R w { w with agents := w.agents.add agent }
  /-- A task is made that is still to be done. -/
  taskAdded : ∀ (w : World σ τ) task, task.Fresh → R w { w with tasks := w.tasks.add task }
  messageAdded : ∀ (w : World σ τ) message, R w { w with messages := w.messages.add message }
  createAgent : ∀ (w : World σ τ) ref context, w.agents.live.Has ref →
    R w (worldAfter (createAgent ref context) w)
  updateAgent : ∀ (w : World σ τ) ref context, w.agents.live.Has ref →
    R w (worldAfter (updateAgent ref context) w)
  deleteAgent : ∀ id context, Guarantees R (deleteAgent id context : Run σ τ Unit)
  startConversation : ∀ participants topic metadata context,
    Guarantees R (startConversation participants topic metadata context : Run σ τ Conversation)
  send : ∀ conversationId ref context,
    Guarantees R (send conversationId ref context : Run σ τ Message)
  closeConversation : ∀ id context,
    Guarantees R (closeConversation id context : Run σ τ Conversation)
  execute : ∀ ref agentRef context tracked,
    Guarantees R (execute ref agentRef context tracked : Run σ τ TaskResult)

/-- A worker that is run has left the queue. -/
theorem run_runQueued {position : Nat} {delegation : Delegation} {w : World σ τ}
    (h : w.workers[position]? = some delegation) :
    (runQueued position).run w =
      (runWorkerOf delegation).run { w with workers := w.workers.eraseIdx position } := by
  rw [runQueued, EStateM.run_bind, EStateM.run_get]
  simp only [h]
  rfl

namespace ServiceLaw

variable {R : World σ τ → World σ τ → Prop}

/-! ## Small operations -/

section Small

theorem log (law : ServiceLaw R) (level : Log.Level) (logger message : String) :
    Guarantees R (log level logger message : Run σ τ Unit) :=
  guarantees_modify fun w => law.idle w _ _ _ _ _ _

/-- Scopes and threads do not matter. -/
theorem scope (law : ServiceLaw R) (w : World σ τ) (scope : Log.Scope) (thread : String) :
    R w { w with scope, thread } :=
  law.idle w w.surroundings w.backend scope thread w.journal w.history

theorem freshId (law : ServiceLaw R) : Guarantees R (freshId : Run σ τ String) :=
  guarantees_modifyGet law.issued

theorem newTask (law : ServiceLaw R) {task : Task} (hfresh : task.Fresh) :
    Guarantees R (newTask task : Run σ τ (Ref Task)) :=
  guarantees_modifyGet fun w => law.taskAdded w task hfresh

variable [IsPreorder (World σ τ) R]

/-- A fault of a worker ends up in the log. -/
theorem report (law : ServiceLaw R) (fault : Fault) (message : String) :
    Guarantees R (report fault message : Run σ τ Unit) := by
  unfold Engine.report
  split
  · exact law.log _ _ _
  · exact guarantees_throw _

/-- Registering a tool or a plugin changes nothing but the registry and the log. -/
theorem register (law : ServiceLaw R) (loaded : ClassPath.Loaded) :
    Guarantees R (register loaded : Run σ τ Unit) := by
  refine guarantees_get.bind fun w => Guarantees.bind ?_ fun _ => ?_
  · exact guarantees_modify fun w => law.registry w _
  · exact guarantees_forM _ fun _ _ => law.log _ _ _

end Small

variable [IsPreorder (World σ τ) R]

/-! ## Conversations -/

section Conversations

/-- Whatever is made of the outcome, an attempt to send a new message is safe. -/
theorem attemptSend (law : ServiceLaw R) {α : Type} {message : Message} (hid : message.id = "")
    (conversationId : String) (context : Option String) {next : Except Fault Message → Run σ τ α}
    (hnext : ∀ outcome, Guarantees R (next outcome)) :
    Guarantees R (newMessage message >>= fun ref =>
      attempt (send conversationId ref context) >>= next) := by
  intro w
  rw [worldAfter_bind_of_run_eq (run_newMessage w message),
    worldAfter_bind_of_run_eq (run_attempt _ _)]
  exact IsTrans.trans _ _ _ (law.sendNew w message conversationId context hid) (hnext _ _)

/-- A conversation workflow makes its sendings one after the other; what it keeps of a step is not
in the world. -/
theorem sendSteps (law : ServiceLaw R) (workflowId conversationId : String)
    (context : Option String) (position : Nat) (contents : Fields)
    (steps : List ConversationStep) :
    Guarantees R (sendSteps workflowId conversationId context position contents steps :
      Run σ τ ConversationWorkflowResult) := by
  induction steps generalizing position contents with
  | nil => exact guarantees_pure _
  | cons step rest ih =>
    -- What comes of a step decides whether the rest is carried out.
    refine guarantees_reading.bind fun start => (guarantees_lift _).bind fun content => ?_
    refine law.attemptSend rfl _ _ fun outcome => ?_
    cases outcome with
    | error fault =>
      dsimp only
      split
      · exact (law.log _ _ _).bind fun _ => guarantees_pure _
      · exact guarantees_throw _
    | ok sent =>
      refine (guarantees_reading.bind fun _ => guarantees_pure _).bind fun duration => ?_
      exact (ih _ _).bind fun _ => guarantees_pure _

/-- A conversation workflow is a start, the sendings of its steps and a closing. -/
theorem runConversationWorkflow (law : ServiceLaw R) (workflow : ConversationWorkflow)
    (context : Option String) :
    Guarantees R (runConversationWorkflow workflow context :
      Run σ τ ConversationWorkflowResult) := by
  refine (law.startConversation _ _ _ _).bind fun conversation => ?_
  refine guarantees_reading.bind fun start => (law.sendSteps _ _ _ _ _ _).bind fun result => ?_
  refine (guarantees_reading.bind fun _ => guarantees_pure _).bind fun duration => ?_
  exact (law.log _ _ _).bind fun _ => guarantees_pure _

/-- The answer to a delegation is a change of the conversation and a line of the log. -/
theorem respond (law : ServiceLaw R) (delegation : Delegation) (taskId output : String) :
    Guarantees R (respond delegation taskId output : Run σ τ Unit) := by
  refine (guarantees_agent _).bind fun _ => law.attemptSend rfl _ _ fun outcome => ?_
  cases outcome with
  | ok sent => exact guarantees_pure _
  | error fault => exact law.report _ _

end Conversations

/-! ## Workers of delegations -/

section Workers

/-- A worker executes the task of its delegation and answers it. -/
theorem runDelegation (law : ServiceLaw R) (delegation : Delegation) :
    Guarantees R (runDelegation delegation : Run σ τ Unit) := by
  refine Guarantees.within (fun w scope => law.scope w scope w.thread) ?_ _
  refine (law.execute _ _ _ _).attempt.bind fun outcome => (guarantees_task _).bind fun _ => ?_
  cases outcome with
  | ok result => exact law.respond _ _ _
  | error fault => exact law.report _ _

/-- A worker that fails is reported, and nothing else of its failure is seen. -/
theorem runWorkerOf (law : ServiceLaw R) (delegation : Delegation) :
    Guarantees R (runWorkerOf delegation : Run σ τ Unit) :=
  (guarantees_task _).bind fun _ =>
    ((law.runDelegation delegation).attempt.inThread law.scope _).bind fun _ => guarantees_pure _

/-- A queued worker is taken out of the queue and run in a thread of its own. -/
theorem runQueued (law : ServiceLaw R) (position : Nat) :
    Guarantees R (runQueued position : Run σ τ Unit) := by
  intro w
  cases hworker : w.workers[position]? with
  | none =>
    have hrun : (Engine.runQueued position).run w = .ok () w := by
      rw [Engine.runQueued, EStateM.run_bind, EStateM.run_get]
      simp only [hworker]
      rfl
    rw [(run_eq_ok_iff.mp hrun).2]
    exact Std.Refl.refl _
  | some delegation =>
    have herased : w.workers.eraseIdx position ⊆ w.workers :=
      (List.eraseIdx_sublist _ _).subset
    have hworld : worldAfter (Engine.runQueued position) w = worldAfter
        (Engine.runWorkerOf delegation) { w with workers := w.workers.eraseIdx position } := by
      rw [worldAfter, run_runQueued hworker, ← worldAfter]
    rw [hworld]
    exact IsTrans.trans _ _ _ (law.workers w _ herased) (law.runWorkerOf delegation _)

/-- To drain the queue is to run a worker at a time, as long as there is one. -/
theorem drain (law : ServiceLaw R) : Guarantees R (drain : Run σ τ Unit) := by
  refine guarantees_get.bind fun w => Guarantees.bind ?_ fun _ => ?_
  · -- All workers leave the queue at once.
    exact guarantees_modify fun w => law.workers w [] (List.nil_subset _)
  · exact guarantees_forM _ fun _ _ => law.runWorkerOf _

end Workers

/-! ## Batches, workflows and requests -/

section Work

/-- A batch in turn is made of executions, by induction on the tasks that are left. -/
theorem runSequentialFrom (law : ServiceLaw R) (agent : Ref Agent) (context : Option String)
    (total done : Nat) (tasks : List (Ref Task)) :
    Guarantees R (runSequentialFrom agent context total done tasks : Run σ τ BatchResult) := by
  induction tasks generalizing done with
  | nil => exact guarantees_pure _
  | cons task rest ih =>
    refine (law.execute _ _ _ _).attempt.bind fun outcome => ?_
    cases outcome with
    | error fault =>
      dsimp only
      split
      · exact (law.log _ _ _).bind fun _ => guarantees_pure _
      · exact guarantees_throw _
    | ok result => exact (ih _).bind fun _ => guarantees_pure _

/-- A concurrent batch is made of executions in threads, whatever their order. -/
theorem runConcurrentIn (law : ServiceLaw R) (workers : List (Nat × Ref Task)) (agent : Ref Agent)
    (context : Option String) :
    Guarantees R (runConcurrentIn workers agent context : Run σ τ BatchResult) := by
  have hworker : ∀ batch worker,
      Guarantees R (runWorker agent context batch worker : Run σ τ BatchResult) :=
    fun _ _ => ((law.execute _ _ _ _).attempt.inThread law.scope _).bind fun _ =>
      guarantees_pure _
  refine (guarantees_foldlM _ hworker _).bind fun batch => ?_
  dsimp only
  split
  · exact (law.log _ _ _).bind fun _ => guarantees_pure _
  · exact guarantees_pure _

/-- A batch runs in turn or concurrently. -/
theorem runBatch (law : ServiceLaw R) (tasks : List (Ref Task)) (agent : Ref Agent)
    (sequential : Bool) (context : Option String) :
    Guarantees R (runBatch tasks agent sequential context : Run σ τ BatchResult) := by
  unfold Engine.runBatch
  split
  · exact law.runSequentialFrom _ _ _ _ _
  · exact law.runConcurrentIn _ _ _

/-- A workflow makes a task for each step and executes it, by induction on the steps. -/
theorem runSteps (law : ServiceLaw R) (agentId : String) (ref : Ref Agent) (context : Option String)
    (position : Nat) (outputs : Fields) (steps : List WorkflowStep) :
    Guarantees R (runSteps agentId ref context position outputs steps :
      Run σ τ WorkflowResult) := by
  have hstep : ∀ step input,
      Guarantees R (runStep agentId ref context step input : Run σ τ TaskResult) :=
    fun _ _ => law.freshId.bind fun _ => guarantees_now.bind fun _ =>
      (guarantees_agent _).bind fun _ => (law.newTask ⟨rfl, rfl, rfl, rfl⟩).bind fun _ =>
        law.execute _ _ _ _
  induction steps generalizing position outputs with
  | nil => exact guarantees_pure _
  | cons step rest ih =>
    refine (guarantees_lift _).bind fun input => (hstep _ _).attempt.bind fun outcome => ?_
    cases outcome with
    | error fault =>
      dsimp only
      split
      · exact (law.log _ _ _).bind fun _ => guarantees_pure _
      · exact guarantees_throw _
    | ok result => exact (ih _ _).bind fun _ => guarantees_pure _

/-- A workflow looks its agent up and runs its steps. -/
theorem runWorkflow (law : ServiceLaw R) (agentId : String) (steps : List WorkflowStep)
    (context : Option String) :
    Guarantees R (runWorkflow agentId steps context : Run σ τ WorkflowResult) := by
  refine guarantees_get.bind fun _ => (guarantees_lift _).bind fun ref => ?_
  refine (law.runSteps _ _ _ _ _ _).bind fun result => ?_
  dsimp only
  split
  · exact (law.log _ _ _).bind fun _ => guarantees_pure _
  · exact guarantees_pure _

/-- The task is executed with the agent of that name, if there is one. -/
theorem executeTask (law : ServiceLaw R) (agentId : String) (task : Ref Task)
    (context : Option String) :
    Guarantees R (executeTask agentId task context : Run σ τ TaskResult) :=
  guarantees_get.bind fun _ => (guarantees_lift _).bind fun _ => law.execute _ _ _ _

/-- The batch is run with the agent of that name, if there is one. -/
theorem executeTasks (law : ServiceLaw R) (agentId : String) (tasks : List (Ref Task))
    (sequential : Bool) (context : Option String) :
    Guarantees R (executeTasks agentId tasks sequential context : Run σ τ BatchResult) :=
  guarantees_get.bind fun _ => (guarantees_lift _).bind fun _ => law.runBatch _ _ _ _

/-- An orchestration makes its tasks and runs them as a batch. -/
theorem orchestrate (law : ServiceLaw R) (request : OrchestrationRequest)
    (context : Option String) :
    Guarantees R (orchestrate request context : Run σ τ OrchestrationResponse) := by
  refine guarantees_get.bind fun _ => (guarantees_lift _).bind fun ref => ?_
  refine (guarantees_agent _).bind fun _ => Guarantees.bind ?_ fun tasks => ?_
  · exact guarantees_mapM _ fun _ => law.freshId.bind fun _ => guarantees_now.bind fun _ =>
      law.newTask ⟨rfl, rfl, rfl, rfl⟩
  refine (law.runBatch _ _ _ _).bind fun batch => law.freshId.bind fun _ => ?_
  refine (guarantees_agent _).bind fun _ => guarantees_get.bind fun _ => ?_
  refine guarantees_now.bind fun _ => ?_
  exact (law.log _ _ _).bind fun _ => guarantees_pure _

/-- The note of a choice is logged or passed over. -/
theorem logRouting (law : ServiceLaw R) (note : Except Fault String) :
    Guarantees R (logRouting note : Run σ τ Unit) := by
  cases note with
  | ok message => exact law.log _ _ _
  | error fault => exact guarantees_pure _

/-- A routed text becomes a task, which is executed. -/
theorem smartRoute (law : ServiceLaw R) (agentId text : String) (type : Value)
    (context : Option String) :
    Guarantees R (smartRoute agentId text type context : Run σ τ TaskResult) := by
  refine guarantees_get.bind fun _ => (guarantees_lift _).bind fun ref => ?_
  refine (guarantees_agent _).bind fun _ => (law.logRouting _).bind fun _ => ?_
  refine (guarantees_lift _).bind fun _ => law.freshId.bind fun _ => ?_
  exact guarantees_now.bind fun _ => (law.newTask ⟨rfl, rfl, rfl, rfl⟩).bind fun _ =>
    law.execute _ _ _ _

end Work

end ServiceLaw

namespace Law

variable {R : World σ τ → World σ τ → Prop} [IsPreorder (World σ τ) R]

/-- What holds of every operation holds of those that register nobody. -/
theorem service (law : Law R) : ServiceLaw R where
  idle := law.idle
  issued := law.issued
  registry := law.registry
  workers := law.workers
  taskAdded := law.taskAdded
  startConversation := law.startConversation
  sendNew w message conversationId context _ :=
    IsTrans.trans _ _ _ (law.messageAdded w message) (law.send conversationId _ context _)
  closeConversation := law.closeConversation
  execute := law.execute

/-- An agent that is made for the caller is registered at once. -/
theorem createNew (law : Law R) (agent : Agent) (context : Option String) :
    Guarantees R (do
      let ref ← Engine.newAgent agent
      Engine.createAgent ref context
      return ref : Run σ τ (Ref Agent)) := by
  intro w
  rw [worldAfter_createNew]
  exact IsTrans.trans _ _ _ (law.agentAdded w agent)
    (law.createAgent _ _ context (Live.has_add_next _ _))

theorem createDefaultAgent (law : Law R) (context : Option String) :
    Guarantees R (createDefaultAgent context : Run σ τ (Ref Agent)) :=
  guarantees_get.bind fun _ => law.createNew _ context

/-- An agent of a flavour is made if there is this flavour and the domain is accepted. -/
theorem createSpecializedAgent (law : Law R) (type : Value) (domain : String)
    (context : Option String) :
    Guarantees R (createSpecializedAgent type domain context : Run σ τ (Ref Agent)) :=
  (guarantees_lift _).bind fun _ => (guarantees_lift _).bind fun _ => guarantees_get.bind fun _ =>
    law.createNew _ context

end Law

end Orchestration.Engine
