import Orchestration.Engine.Requests
import Orchestration.Proofs.Execution

/-!
# What comes of a task

Whatever a task is about and whatever goes wrong, carrying it out comes to one of two ends: there is
a result, and the task is complete with its output (`Succeeded`), or there is a fault of the
taxonomy, and the task has failed with its text (`Failed`).

The work reaches the outside in one call at most. What the outside raises there is dealt with by
the side that raised it (`Called`): a fault of the taxonomy that comes from the backend is passed
on, and whatever comes from a tool or a plugin is the failure of a capability. No fault names
another task.

The main statement is `single_execution`.
-/

namespace Orchestration

/-! ## Faults and the tasks that they name -/

namespace Fault

/-- The task that a fault names. -/
def taskId? : Fault → Option String
  | execution _ _ taskId => taskId
  | _ => none

/-- The fault names no task but this one. -/
def Concerns (fault : Fault) (id : String) : Prop :=
  ∀ other, fault.taskId? = some other → other = id

/-- A fault that names no task may come from any task. -/
theorem concerns_of_eq_none {fault : Fault} (h : fault.taskId? = none) (id : String) :
    fault.Concerns id := by
  intro other hother
  rw [h] at hother
  cases hother

theorem concerns_execution (failure : Failure) (message id : String) :
    (execution failure message (some id)).Concerns id := by
  rintro other ⟨⟩
  rfl

/-- A fault that a task is added to names that task, if it names one at all. -/
theorem taskId_withTask {fault : Fault} {id message : String} {failure : Failure}
    {taskId : Option String} (hconcerns : fault.Concerns id)
    (h : fault.withTask id = .execution failure message taskId) : taskId = some id := by
  cases fault with
  | execution _ _ named =>
    cases named with
    | none =>
      cases h
      rfl
    | some other =>
      cases h
      rw [hconcerns other rfl]
  | _ => cases h

end Fault

/-- The fault that an outcome is. -/
def faultOf {α : Type} : Except Fault α → Option Fault
  | .ok _ => none
  | .error fault => some fault

/-- An outcome is a fault if it is an error. -/
theorem faultOf_eq_some_iff {α : Type} {outcome : Except Fault α} {fault : Fault} :
    faultOf outcome = some fault ↔ outcome = .error fault := by
  cases outcome <;> simp [faultOf]

/-- The fault with which a call for a stream was refused, or that ended the stream. -/
def StreamReply.fault? : StreamReply → Option Fault
  | .refused fault => some fault
  | .delivered delivery => delivery.fault

/-! ## What the outside raises -/

/-- The fault that a backend raises on a call. -/
def Backend.raised {σ τ : Type} [Backend σ τ] (backend : σ) (s : Surroundings τ)
    (context : Option String) : Call → Option Fault
  | .generate model prompt options =>
    (Backend.generate backend s context model prompt options).value.fault?
  | .chat model turns options => (Backend.chat backend s context model turns options).value.fault?
  | .embed model text => faultOf (Backend.embed backend s context model text).value
  | .tool _ _ | .plugin _ _ _ => none

/-- The fault that a capability raises on a call. -/
def Registry.raised (registry : Registry) (occasion : Occasion) : Call → Option Fault
  | .tool name parameters =>
    (registry.tool? name).bind fun tool => faultOf (tool.call occasion parameters)
  | .plugin name input parameters =>
    (registry.plugin? name).bind fun plugin => faultOf (plugin.execute occasion input parameters)
  | .generate _ _ _ | .chat _ _ _ | .embed _ _ => none

namespace Engine

variable {σ τ : Type}

/-! ## Replies -/

section Replies

variable {task : Task} {model operation : String} {fault : Fault}

/-- A fault of the backend is passed on as it is, or told as one that names the task. -/
theorem concerns_inferenceFault :
    inferenceFault task operation model fault = fault ∨
      (inferenceFault task operation model fault).Concerns task.id := by
  unfold inferenceFault
  split
  · exact .inl rfl
  · exact .inr (Fault.concerns_execution _ _ _)

/-- A fault of the taxonomy that ends a stream is passed on. -/
theorem collectReply_of_fault {reply : StreamReply} (h : reply.fault? = some fault)
    (htaxonomy : fault.isOrchestration = true) :
    collectReply task model operation reply = .error fault := by
  cases reply with
  | refused refusal =>
    cases h
    rfl
  | delivered delivery =>
    have hfault : delivery.fault = some fault := h
    simp only [collectReply, collect, hfault, inferenceFault, htaxonomy, if_true]

/-- A fault that a reply comes to is that of the stream, or one of the task. -/
theorem concerns_collectReply {reply : StreamReply}
    (h : collectReply task model operation reply = .error fault) :
    reply.fault? = some fault ∨ fault.Concerns task.id := by
  cases reply with
  | refused refusal =>
    cases h
    exact .inl rfl
  | delivered delivery =>
    rw [collectReply, collect] at h
    cases hended : delivery.fault with
    | some ended =>
      rw [hended] at h
      cases h
      refine concerns_inferenceFault.imp_left fun hsame => ?_
      rw [StreamReply.fault?, hended, hsame]
    | none =>
      simp only [hended] at h
      split at h
      · cases h
        exact .inr (Fault.concerns_execution _ _ _)
      · cases h

end Replies

/-! ## Faults that name no task -/

section Unnamed

/-- A pure operation fails only with faults that name no task. -/
abbrev Anonymous {α : Type} (result : Except Fault α) : Prop :=
  Fault.FailsWith (fun fault => fault.taskId? = none) result

variable {α β : Type}

/-- A record that cannot be read does not name the task. -/
theorem anonymous_orFault (checked : Checked α) (subject : String) :
    Anonymous (checked.orFault subject) :=
  checked.failsWith_orFault fun _ => rfl

/-- That there is no model to take does not name the task. -/
theorem anonymous_modelFor (task : Task) (agent : Agent) : Anonymous (modelFor task agent) := by
  unfold modelFor
  -- Whose model it is does not matter: the only fault is that there is none.
  generalize (if task.modelName = "" then agent.defaultModel else task.modelName) = model
  dsimp only
  split
  · exact Fault.failsWith_error rfl
  · exact Fault.failsWith_ok _

/-- That the turns of a chat cannot be read does not name the task. -/
theorem anonymous_chatTurns (task : Task) : Anonymous (chatTurns task) := by
  refine Fault.FailsWith.bind ?_ fun _ => Fault.failsWith_ok _
  unfold historyTurns
  split
  · split
    · refine Fault.failsWith_mapM fun turn => ?_
      split
      · exact Fault.failsWith_ok _
      · exact Fault.failsWith_error rfl
    · exact Fault.failsWith_error rfl
  · exact Fault.failsWith_ok _

/-- That a vector cannot be read does not name the task. -/
theorem anonymous_embeddingResult (task : Task) (model : String) (vector : Value) :
    Anonymous (embeddingResult task model vector) := by
  refine Fault.FailsWith.bind ?_ fun _ =>
    (anonymous_orFault _ _).bind fun _ => Fault.failsWith_ok _
  unfold lengthOf
  split
  · exact Fault.failsWith_ok _
  · exact Fault.failsWith_ok _
  · exact Fault.failsWith_ok _
  · exact Fault.failsWith_error rfl

/-- That a call of a tool cannot be read does not name the task. -/
theorem anonymous_toolCallOf (v : Value) : Anonymous (toolCallOf v) := by
  unfold toolCallOf
  split
  · exact Fault.failsWith_ok _
  · exact anonymous_orFault _ _
  · exact Fault.failsWith_ok _

end Unnamed

/-! ## How the work deals with the outside -/

section Dealing

variable [Backend σ τ]

/-- What the outside raised on a call is dealt with as it should be. -/
structure Called (id : String) (context : Option String) (w : World σ τ) (call : Call)
    (outcome : Except Fault TaskResult) : Prop where
  /-- A fault of the taxonomy that comes from the backend is passed on. -/
  backend : ∀ fault, Backend.raised w.backend w.surroundings context call = some fault →
    fault.isOrchestration = true → outcome = .error fault
  /-- Whatever comes from a capability is the failure of one. -/
  capability : ∀ fault,
    w.registry.raised ⟨w.surroundings.clock.now, w.history⟩ call = some fault →
      ∃ message, outcome = .error (.execution .capability message (some id))
  /-- Only the backend can name another task. -/
  concerns : ∀ fault, outcome = .error fault →
    Backend.raised w.backend w.surroundings context call = some fault ∨ fault.Concerns id

/-- How an operation for the task with the given id deals with the outside: it goes without it, or
it makes one call. -/
inductive Deals (id : String) (context : Option String) (run : Run σ τ TaskResult)
    (w : World σ τ) : Prop
  | alone (hhistory : (worldAfter run w).history = w.history)
      (hconcerns : ∀ fault, outcomeOf run w = .error fault → fault.Concerns id)
  | called (call : Call) (hhistory : (worldAfter run w).history = w.history ++ [call])
      (hcalled : Called id context w call (outcomeOf run w))

variable {id : String} {context : Option String} {w : World σ τ} {run : Run σ τ TaskResult}

/-- What leaves the world as it is does not matter. -/
theorem deals_bind {α : Type} {first : Run σ τ α} {next : α → Run σ τ TaskResult} {a : α}
    (hfirst : first.run w = .ok a w) (h : Deals id context (next a) w) :
    Deals id context (first >>= next) w := by
  have hrun : (first >>= next).run w = (next a).run w := by rw [EStateM.run_bind, hfirst]
  have houtcome : outcomeOf (first >>= next) w = outcomeOf (next a) w := by
    rw [outcomeOf, hrun, ← outcomeOf]
  have hworld : worldAfter (first >>= next) w = worldAfter (next a) w := by
    rw [worldAfter, hrun, ← worldAfter]
  cases h with
  | alone hhistory hconcerns => exact .alone (hworld ▸ hhistory) (houtcome ▸ hconcerns)
  | called call hhistory hcalled => exact .called call (hworld ▸ hhistory) (houtcome ▸ hcalled)

/-- Before anything is asked of the outside, only faults that name no task can come up. -/
theorem deals_lift_bind {α : Type} {result : Except Fault α} {next : α → Run σ τ TaskResult}
    (hresult : Anonymous result) (hnext : ∀ a, Deals id context (next a) w) :
    Deals id context (lift result >>= next) w := by
  cases result with
  | ok a => exact deals_bind rfl (hnext a)
  | error fault =>
    refine .alone rfl ?_
    rintro other ⟨⟩
    exact Fault.concerns_of_eq_none (hresult fault rfl) id

/-- An operation that returns without a call to the outside. -/
theorem deals_of_run_eq_ok {w' : World σ τ} {result : TaskResult}
    (hrun : run.run w = .ok result w') (hhistory : w'.history = w.history) :
    Deals id context run w := by
  obtain ⟨houtcome, hworld⟩ := run_eq_ok_iff.mp hrun
  refine .alone (hworld ▸ hhistory) fun fault hfault => ?_
  rw [houtcome] at hfault
  cases hfault

/-- What a backend has raised on a call for a stream is dealt with where the reply is collected. -/
theorem called_collectReply {task : Task} {model operation : String} {call : Call}
    {reply : StreamReply}
    (hcall : Backend.raised w.backend w.surroundings context call = reply.fault?)
    (hregistry : ∀ occasion, w.registry.raised occasion call = none) :
    Called task.id context w call (collectReply task model operation reply) where
  backend fault hraised htaxonomy := collectReply_of_fault (hcall ▸ hraised) htaxonomy
  capability fault hraised := by
    rw [hregistry] at hraised
    cases hraised
  concerns fault hfault := hcall ▸ concerns_collectReply hfault

/-- What a call for an embedding comes to. -/
def embedded (task : Task) (model : String) : Except Fault Value → Except Fault TaskResult
  | .error fault => .error (inferenceFault task "embed" model fault)
  | .ok vector => embeddingResult task model vector

/-- What a backend has raised on a call for an embedding is dealt with where the vector is read. -/
theorem called_embedded {task : Task} {model text : String} :
    Called task.id context w (.embed model text)
      (embedded task model (Backend.embed w.backend w.surroundings context model text).value) := by
  have hraised : Backend.raised w.backend w.surroundings context (.embed model text) =
      faultOf (Backend.embed w.backend w.surroundings context model text).value := rfl
  cases hvalue : (Backend.embed w.backend w.surroundings context model text).value with
  | error cause =>
    rw [hvalue] at hraised
    refine ⟨fun fault hfault htaxonomy => ?_, by rintro fault ⟨⟩, ?_⟩
    · rw [hraised] at hfault
      cases hfault
      rw [embedded, inferenceFault, if_pos htaxonomy]
    · rintro fault ⟨⟩
      exact concerns_inferenceFault.imp_left fun hsame => hraised.trans (congrArg some hsame.symm)
  | ok vector =>
    rw [hvalue] at hraised
    refine ⟨fun fault hfault => ?_, by rintro fault ⟨⟩, fun fault hfault => ?_⟩
    · rw [hraised] at hfault
      cases hfault
    · exact .inr (Fault.concerns_of_eq_none (anonymous_embeddingResult _ _ _ fault hfault) _)

/-- What the use of a capability comes to: if the capability raises a fault, that is the failure of
a capability; if it gives an output, there may still be no result, but nothing names a task then. -/
theorem called_usage {call : Call} {α : Type} (task : Task) (words : String)
    (given : Except Fault α) (output : Except Fault Value)
    (hbackend : ∀ context, Backend.raised w.backend w.surroundings context call = none)
    (hregistry : w.registry.raised ⟨w.surroundings.clock.now, w.history⟩ call = faultOf given)
    (hraised : ∀ fault, given = .error fault → ∃ other, output = .error other)
    (hfailed : ∀ fault, output = .error fault →
      ∃ message, fault = .execution .capability message (some id)) :
    Called id context w call (output >>= usageResult task words) := by
  refine ⟨fun fault hfault => ?_, fun fault hfault => ?_, fun fault hfault => ?_⟩
  · rw [hbackend] at hfault
    cases hfault
  · rw [hregistry] at hfault
    cases given with
    | ok a => cases hfault
    | error cause =>
      -- The fault itself may be any: it is only told in the text of the failure.
      obtain ⟨other, hother⟩ := hraised cause rfl
      obtain ⟨message, rfl⟩ := hfailed other hother
      exact ⟨message, by rw [hother]; rfl⟩
  · refine .inr ?_
    cases output with
    | error cause =>
      cases hfault
      obtain ⟨message, rfl⟩ := hfailed fault rfl
      exact Fault.concerns_execution _ _ _
    | ok value =>
      obtain ⟨-, rfl⟩ := (writtenUnless_usageResult task words value).eq_error_iff.mp hfault
      exact Fault.concerns_of_eq_none rfl id

variable [Time τ]

/-- An operation that asks the backend and makes a result of the answer. -/
theorem deals_ask {α : Type} {call : Call} {answer : σ → Surroundings τ → Answer σ τ α}
    {next : α → Run σ τ TaskResult} (finish : α → Except Fault TaskResult)
    (hnext : ∀ a, next a = lift (finish a))
    (h : Called id context w call (finish (answer w.backend w.surroundings).value)) :
    Deals id context (ask call answer >>= next) w := by
  obtain rfl : next = fun a => lift (finish a) := funext hnext
  refine .called call ?_ ?_
  · rw [worldAfter_ask_lift]
  · rwa [outcomeOf_ask_lift]

/-- A prompt goes without the outside if there is no model; otherwise it makes one call. -/
theorem deals_runGenerate (task : Task) (agent : Agent) (context : Option String) :
    Deals task.id context (runGenerate task agent context : Run σ τ TaskResult) w :=
  deals_lift_bind (anonymous_modelFor task agent) fun model =>
    deals_ask (collectReply task model "generate") (fun _ => rfl)
      (called_collectReply rfl fun _ => rfl)

/-- A chat goes without the outside if there is no model or its turns cannot be read; otherwise it
makes one call. -/
theorem deals_runChat (task : Task) (agent : Agent) (context : Option String) :
    Deals task.id context (runChat task agent context : Run σ τ TaskResult) w :=
  deals_lift_bind (anonymous_modelFor task agent) fun model =>
    deals_lift_bind (anonymous_chatTurns task) fun _ =>
      deals_ask (collectReply task model "chat") (fun _ => rfl)
        (called_collectReply rfl fun _ => rfl)

/-- An embedding goes without the outside if there is no model; otherwise it makes one call. -/
theorem deals_runEmbed (task : Task) (agent : Agent) (context : Option String) :
    Deals task.id context (runEmbed task agent context : Run σ τ TaskResult) w :=
  deals_lift_bind (anonymous_modelFor task agent) fun model =>
    deals_ask (embedded task model) (fun vector => by cases vector <;> rfl) called_embedded

omit [Time τ] in
/-- An operation that calls a capability, and ends its use with the output. -/
theorem deals_noteCall {call : Call} (output : Except Fault Value) {task : Task} {ref : Ref Agent}
    {rest : Run σ τ TaskResult} {key name : String} (words : String)
    (hrest : rest = lift output >>= concludeUse task ref key name words)
    (h : Called id context w call (output >>= usageResult task words)) :
    Deals id context (noteCall call >>= fun _ => rest) w := by
  subst hrest
  cases output with
  | error fault => exact .called call rfl h
  | ok value =>
    refine .called call (congrArg World.history (worldAfter_concludeUse ..)) ?_
    change Called id context w call (outcomeOf (concludeUse task ref key name words value) _)
    rwa [outcomeOf_concludeUse]

omit [Time τ] in
/-- A tool is called if the task says which one and it is registered. -/
theorem deals_runTool (task : Task) (ref : Ref Agent) (context : Option String) :
    Deals task.id context (runTool task ref : Run σ τ TaskResult) w := by
  refine deals_lift_bind (anonymous_toolCallOf _) fun call => deals_bind (a := w) rfl ?_
  split
  · exact deals_of_run_eq_ok rfl rfl
  next tool htool =>
    let occasion : Occasion := ⟨w.surroundings.clock.now, w.history⟩
    refine deals_bind (a := occasion) rfl ?_
    refine deals_noteCall _ _ rfl ?_
    refine called_usage task _ (tool.call occasion call.parameters) _ (fun _ => rfl) ?_ ?_ ?_
    · rw [Registry.raised, htool]
      rfl
    · intro fault hfault
      rw [hfault]
      exact ⟨_, rfl⟩
    · intro fault hfault
      -- A tool fails by a fault, or by reporting that it could not do its work.
      cases hgiven : tool.call occasion call.parameters with
      | error cause =>
        rw [hgiven] at hfault
        cases hfault
        exact ⟨_, rfl⟩
      | ok result =>
        rw [hgiven, toolOutput] at hfault
        split at hfault
        · cases hfault
        · cases hfault
          exact ⟨_, rfl⟩

omit [Time τ] in
/-- A plugin is called if it is registered. -/
theorem deals_runPlugin (task : Task) (ref : Ref Agent) (context : Option String) :
    Deals task.id context (runPlugin task ref : Run σ τ TaskResult) w := by
  refine deals_bind (a := w) rfl ?_
  -- A plugin that is not registered is not called.
  split
  · exact deals_of_run_eq_ok rfl rfl
  next plugin hplugin =>
    let occasion : Occasion := ⟨w.surroundings.clock.now, w.history⟩
    refine deals_bind (a := occasion) rfl ?_
    generalize hgiven : plugin.execute occasion task.input task.parameters = given
    let failed (fault : Fault) : Fault := .execution .capability
      ("plugin execution failed: " ++ pluginName task ++ ": " ++ fault.message) (some task.id)
    refine deals_noteCall (given.mapError failed) ("Plugin '" ++ pluginName task ++ "' result: ")
      (by cases given <;> rfl) ?_
    refine called_usage task _ given _ (fun _ => rfl) ?_ ?_ ?_
    · rw [Registry.raised, hplugin, ← hgiven]
      rfl
    · rintro fault rfl
      exact ⟨_, rfl⟩
    · intro fault hfault
      cases given with
      | error cause =>
        cases hfault
        exact ⟨_, rfl⟩
      | ok value => cases hfault

omit [Backend σ τ] in
/-- A call is stopped on behalf of the task that it is about. -/
theorem concerns_check {s : Surroundings τ} {fault : Fault}
    (h : s.check context (some id) = .error fault) : fault.Concerns id := by
  unfold Surroundings.check CallContext.check at h
  split at h
  · cases h
    exact Fault.concerns_execution _ _ _
  · split at h
    · cases h
      exact Fault.concerns_execution _ _ _
    · cases h

/-- Whatever the kind of a task is, the work on it deals with the outside as it should. -/
theorem deals_perform (task : Task) (ref : Ref Agent) (context : Option String) :
    Deals task.id context (perform task ref context : Run σ τ TaskResult) w := by
  cases hcheck : w.surroundings.check context (some task.id) with
  | error fault =>
    obtain ⟨houtcome, hworld⟩ := run_eq_error_iff.mp (run_perform_stopped ref hcheck)
    refine .alone (congrArg World.history hworld) fun other hother => ?_
    rw [houtcome] at hother
    cases hother
    exact concerns_check hcheck
  | ok _ =>
    have hlive : (check context (some task.id) : Run σ τ Unit).run w = .ok () w := by
      rw [run_check, run_lift, hcheck]
    refine deals_bind hlive (deals_bind (run_agent w ref) ?_)
    cases task.kind with
    | generate => exact deals_runGenerate task _ context
    | chat => exact deals_runChat task _ context
    | embed => exact deals_runEmbed task _ context
    | tool => exact deals_runTool task ref context
    | reflect => exact deals_of_run_eq_ok rfl rfl
    | plugin => exact deals_runPlugin task ref context
    | custom => exact deals_of_run_eq_ok rfl rfl

end Dealing

/-! ## The two ends of a task -/

section Ends

/-- The task was carried out, and this is its record. -/
structure Succeeded (task record : Task) (result : TaskResult) (now : Moment) : Prop where
  taskId : result.taskId = task.id
  duration : result.metrics.durationMs.isSome
  status : record.status = .completed
  output : record.output = result.output
  error : record.error = ""
  completedAt : record.completedAt = some now

/-- The task has failed, and this is its record. -/
structure Failed (task record : Task) (fault : Fault) : Prop where
  taxonomy : fault.isOrchestration = true
  /-- A fault of an execution names the task. -/
  taskId : ∀ failure message taskId, fault = .execution failure message taskId →
    taskId = some task.id
  status : record.status = .failed
  error : record.error = fault.message
  output : record.output = task.output
  completedAt : record.completedAt = task.completedAt

/-- To assign a task touches nothing but its owner. -/
theorem assignedTo_eq (agentId : String) (task : Task) :
    ∃ owner, task.assignedTo agentId = { task with agentId := owner } := by
  unfold Task.assignedTo
  split
  · exact ⟨agentId, rfl⟩
  · exact ⟨task.agentId, rfl⟩

/-- The fault of a failed task names that task, if it is the fault of an execution. -/
theorem taskId_taskFault {task : Task} {cause : Fault} {failure : Failure} {message : String}
    {taskId : Option String} (hconcerns : cause.Concerns task.id)
    (h : taskFault task cause = .execution failure message taskId) : taskId = some task.id := by
  unfold taskFault at h
  split at h
  · exact Fault.taskId_withTask hconcerns h
  · cases h
    rfl

variable [Time τ]

/-- The outcome of an execution is that of the work, as a task reports it. -/
theorem outcomeOf_settle (ref : Ref Task) (start : τ) (outcome : Except Fault TaskResult)
    (w : World σ τ) :
    outcomeOf (settle ref start outcome : Run σ τ TaskResult) w = match outcome with
      | .error fault => .error (taskFault (w.tasks.task ref) fault)
      | .ok result => .ok (timed result
          (Time.millis (Time.minus w.surroundings.clock.reading start))) := by
  cases outcome <;> rfl

variable [Backend σ τ]

section Outcomes

variable {w : World σ τ} {ref : Ref Task} {agentRef : Ref Agent} {context : Option String}
  {tracked : Bool}

/-- Work that fails makes the execution fail with the fault of the task. -/
theorem outcomeOf_execute_of_error {fault : Fault}
    (h : outcomeOf (workOf w ref agentRef context tracked) (takenUp w ref agentRef tracked) =
      .error fault) :
    outcomeOf (execute ref agentRef context tracked) w =
      .error (taskFault ((takenUp w ref agentRef tracked).tasks.task ref) fault) := by
  obtain ⟨houtcome, -⟩ := run_execute ref agentRef context tracked w
  unfold workOf at h
  rw [houtcome, outcomeOf_settle, h, (onlyWork_perform _ agentRef context _).tasks]

/-- Work that has a result gives it to the execution, with the time that it took. -/
theorem outcomeOf_execute_of_ok {result : TaskResult}
    (h : outcomeOf (workOf w ref agentRef context tracked) (takenUp w ref agentRef tracked) =
      .ok result) :
    ∃ millis, outcomeOf (execute ref agentRef context tracked) w = .ok (timed result millis) := by
  obtain ⟨houtcome, -⟩ := run_execute ref agentRef context tracked w
  unfold workOf at h
  rw [houtcome, outcomeOf_settle, h]
  exact ⟨_, rfl⟩

end Outcomes

/-- The calls of an execution, and the faults that the outside raised on them. -/
structure Accounted (id : String) (context : Option String) (w : World σ τ)
    (outcome : Except Fault TaskResult) (w' : World σ τ) : Prop where
  calls : w'.history = w.history ∨ ∃ call, w'.history = w.history ++ [call]
  /-- A fault of the taxonomy is passed on, and names the task if it named none. -/
  backend : ∀ call, w'.history = w.history ++ [call] → ∀ fault,
    Backend.raised w.backend w.surroundings context call = some fault →
      fault.isOrchestration = true → outcome = .error (fault.withTask id)
  capability : ∀ call, w'.history = w.history ++ [call] → ∀ fault,
    w.registry.raised ⟨w.surroundings.clock.now, w.history⟩ call = some fault →
      ∃ message, outcome = .error (.execution .capability message (some id))

/-- What came of the work on a task, before the task was ended. -/
structure Reported (w : World σ τ) (ref : Ref Task) (context : Option String)
    (outcome : Except Fault TaskResult) (w' : World σ τ) : Prop where
  accounted : Accounted (w.tasks.task ref).id context w outcome w'
  duration : ∀ result, outcome = .ok result → result.metrics.durationMs.isSome
  taskId : (∀ call fault, Backend.raised w.backend w.surroundings context call = some fault →
    fault.taskId? = none) → ∀ failure message taskId,
      outcome = .error (.execution failure message taskId) → taskId = some (w.tasks.task ref).id

section Reporting

variable {id : String} {context : Option String} {w w' : World σ τ} {run : Run σ τ TaskResult}
  {outcome : Except Fault TaskResult}

omit [Time τ] in
/-- An operation that goes without the outside has nothing to account for. -/
theorem accounted_of_alone (hhistory : w'.history = w.history) :
    Accounted id context w outcome w' := by
  have hno : ∀ call, w'.history ≠ w.history ++ [call] := by
    intro call hcall
    rw [hhistory] at hcall
    exact List.cons_ne_nil _ _ (List.self_eq_append_right.mp hcall)
  exact ⟨.inl hhistory, fun call hcall => absurd hcall (hno call),
    fun call hcall => absurd hcall (hno call)⟩

omit [Time τ] in
/-- If the outside is dealt with as it should be, and a fault is then reported as that of the task,
then what the outside raised is accounted for. -/
theorem Deals.accounted {task : Task} (hdeals : Deals task.id context run w)
    (hhistory : w'.history = (worldAfter run w).history)
    (hreport : ∀ fault, outcomeOf run w = .error fault → outcome = .error (taskFault task fault)) :
    Accounted task.id context w outcome w' := by
  cases hdeals with
  | alone hnone _ => exact accounted_of_alone (hhistory.trans hnone)
  | called call hcall hcalled =>
    -- The history has grown by one call, so any call that it grew by is this one.
    have honly : ∀ other, w'.history = w.history ++ [other] → call = other := by
      intro other hother
      rw [hhistory, hcall] at hother
      exact (List.cons.inj (List.append_cancel_left hother)).1
    refine ⟨.inr ⟨call, hhistory.trans hcall⟩, fun other hother fault hraised htaxonomy => ?_,
      fun other hother fault hraised => ?_⟩
    · obtain rfl := honly other hother
      rw [hreport fault (hcalled.backend fault hraised htaxonomy)]
      simp only [taskFault, htaxonomy, if_true]
    · obtain rfl := honly other hother
      obtain ⟨message, hfailed⟩ := hcalled.capability fault hraised
      exact ⟨message, hreport _ hfailed⟩

omit [Time τ] in
/-- If the backend names no task, then no fault names another task. -/
theorem Deals.concerns (hdeals : Deals id context run w)
    (hunnamed : ∀ call fault, Backend.raised w.backend w.surroundings context call = some fault →
      fault.taskId? = none) {fault : Fault} (hfault : outcomeOf run w = .error fault) :
    fault.Concerns id := by
  cases hdeals with
  | alone _ hconcerns => exact hconcerns fault hfault
  | called call _ hcalled =>
    cases hcalled.concerns fault hfault with
    | inl hraised => exact Fault.concerns_of_eq_none (hunnamed call fault hraised) id
    | inr hconcerns => exact hconcerns

end Reporting

/-- Every execution accounts for its calls and its faults. -/
theorem reported (ref : Ref Task) (agentRef : Ref Agent) (context : Option String)
    (tracked : Bool) (w : World σ τ) :
    Reported w ref context (outcomeOf (execute ref agentRef context tracked) w)
      (worldAfter (execute ref agentRef context tracked) w) := by
  set w₀ := takenUp w ref agentRef tracked
  set task := w₀.tasks.task ref
  set work : Run σ τ TaskResult := workOf w ref agentRef context tracked
  have hhistory : (worldAfter (execute ref agentRef context tracked) w).history =
      (worldAfter work w₀).history := by
    obtain ⟨tasks, scope, journal, hworld⟩ := worldAfter_execute ref agentRef context tracked w
    rw [hworld]
  have hdeals : Deals task.id context work w₀ := deals_perform _ agentRef context
  have hid : task.id = (w.tasks.task ref).id :=
    (sameWork_tasksTakenUp w.tasks ref ref _ tracked).id
  have hreport : ∀ fault, outcomeOf work w₀ = .error fault →
      outcomeOf (execute ref agentRef context tracked) w = .error (taskFault task fault) :=
    fun _ => outcomeOf_execute_of_error
  have haccounted := hdeals.accounted hhistory hreport
  rw [hid] at haccounted
  -- Taking a task up changes neither the history nor the outside: the worlds agree field by field.
  refine ⟨⟨haccounted.calls, haccounted.backend, haccounted.capability⟩, fun result hresult => ?_,
    fun hunnamed failure message taskId hfault => ?_⟩
  · cases hwork : outcomeOf work w₀ with
    | error cause =>
      rw [hreport cause hwork] at hresult
      cases hresult
    | ok found =>
      obtain ⟨millis, htimed⟩ := outcomeOf_execute_of_ok hwork
      rw [htimed] at hresult
      cases hresult
      rfl
  · cases hwork : outcomeOf work w₀ with
    | ok found =>
      obtain ⟨millis, htimed⟩ := outcomeOf_execute_of_ok hwork
      rw [htimed] at hfault
      cases hfault
    | error cause =>
      rw [hreport cause hwork] at hfault
      rw [← hid]
      exact taskId_taskFault (hdeals.concerns hunnamed hwork) (Except.error.inj hfault)

/-- **The law of a single task.** Whatever the task, the agent and the capabilities are, and
whatever the backend raises, as long as it names no task: carrying the task out ends with a result,
and the record of the task is complete, or with a fault of the taxonomy that names the task, and
the record has failed with its text. What the outside raised is accounted for, and who asks for the
task gets its record, which still asks for the same work. -/
theorem single_execution {w : World σ τ} {ref : Ref Task} (agentRef : Ref Agent)
    (context : Option String) (hlive : w.tasks.live.Has ref)
    (hunnamed : ∀ call fault,
      Backend.raised w.backend w.surroundings context call = some fault → fault.taskId? = none) :
    let task := w.tasks.task ref
    let outcome := outcomeOf (execute ref agentRef context true) w
    let w' := worldAfter (execute ref agentRef context true) w
    let record := w'.tasks.task ref
    ((∃ result, outcome = .ok result ∧
        Succeeded task record result w'.surroundings.clock.now) ∨
      ∃ fault, outcome = .error fault ∧ Failed task record fault) ∧
      Accounted task.id context w outcome w' ∧
      (∀ reader, w'.surroundings.check reader none = .ok () →
        (getTask task.id reader).run w' = .ok record w') ∧
      SameWork task record := by
  intro task outcome w' record
  have hexecuted : Executed w ref agentRef true outcome w' := executed ref agentRef context true w
  have hreported : Reported w ref context outcome w' := reported ref agentRef context true w
  have hrecord : record = ended w'.surroundings.clock.now outcome
      (task.assignedTo (w.agents.agent agentRef).id).afterStart := hexecuted.task_self hlive
  refine ⟨?_, hreported.accounted, fun reader hreader => ?_, hexecuted.sameWork ref⟩
  · cases houtcome : outcome with
    | ok result =>
      rw [houtcome] at hrecord
      refine .inl ⟨result, rfl, hexecuted.taskId result houtcome,
        hreported.duration result houtcome, ?_, ?_, ?_, ?_⟩ <;> rw [hrecord] <;> rfl
    | error fault =>
      rw [houtcome] at hrecord
      refine .inr ⟨fault, rfl, hexecuted.taxonomy fault houtcome,
        fun failure message taskId hfault => ?_, ?_, ?_, ?_, ?_⟩
      · exact hreported.taskId hunnamed failure message taskId (hfault ▸ houtcome)
      -- Who the task was given to does not matter to the rest of the record.
      all_goals
        obtain ⟨owner, howner⟩ := assignedTo_eq (w.agents.agent agentRef).id task
        rw [hrecord, howner]
        rfl
  · have hfound : w'.tasks.get task.id = .ok record := by
      rw [TaskStore.get, hexecuted.index, Table.find?_insert_self]
    rw [getTask, EStateM.run_bind, run_check, run_lift, hreader]
    simp only [EStateM.run_bind, EStateM.run_get, run_lift, hfound]

end Ends

/-- The small engine with a model, whose backend refuses every call. -/
def refusingEngine : World (Scripted.Script Rat) Rat :=
  { smallEngine with
    backend := {
      default := .staged { refusal := some (.execution .inference "out of memory" none) } }
    agents := { smallEngine.agents with
      live := ⟨[{ id := "helper", name := "Helper", models := ["model"] }]⟩ } }

/-- What the backend has raised is passed on, with the id of the task that failed. -/
theorem single_execution_refusingEngine :
    let outcome := outcomeOf (execute ⟨1⟩ ⟨0⟩ none true) refusingEngine
    let w' := worldAfter (execute ⟨1⟩ ⟨0⟩ none true) refusingEngine
    outcome = .error (.execution .inference "out of memory" (some "second")) ∧
      Failed (refusingEngine.tasks.task ⟨1⟩) (w'.tasks.task ⟨1⟩)
        (.execution .inference "out of memory" (some "second")) := by
  intro outcome w'
  have hunnamed : ∀ call fault,
      Backend.raised refusingEngine.backend refusingEngine.surroundings none call = some fault →
        fault.taskId? = none := by
    rintro (_ | _ | _ | _ | _) fault ⟨⟩ <;> rfl
  have hlive : refusingEngine.tasks.live.Has ⟨1⟩ := Nat.lt_succ_self 1
  obtain ⟨hends, haccounted, -, -⟩ := single_execution ⟨0⟩ none hlive hunnamed
  have hcall : w'.history = refusingEngine.history ++ [.generate "model" "" none] := rfl
  have houtcome : outcome = .error (.execution .inference "out of memory" (some "second")) :=
    haccounted.backend _ hcall (.execution .inference "out of memory" none) rfl rfl
  rcases hends with ⟨result, hresult, -⟩ | ⟨fault, hfault, hfailed⟩
  · cases houtcome.symm.trans hresult
  · cases houtcome.symm.trans hfault
    exact ⟨houtcome, hfailed⟩

end Engine

end Orchestration
