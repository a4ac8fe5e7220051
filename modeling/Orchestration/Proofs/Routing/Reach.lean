import Orchestration.Proofs.Inference.Results
import Orchestration.Proofs.Routing.Selection
import Orchestration.Proofs.Workflow.Routing

/-!
# The chosen model reaches the backend

A request may leave the choice of the model to the routing rules, and so may the steps of a
workflow. A task is made then that names the chosen model (`Routed`), and whoever carries it out
looks for a model a second time: the one that the task names, or the first one of the agent. As the
rules choose among the models of the agent, and none of these is without a name, the second search
finds what the first one has found. So the one call that is made to the backend has the chosen
model, and nothing fails for want of a model (`ReachesBackend`).

The main statement is `routing_reaches_backend`.
-/

namespace Orchestration

/-! ## Faults for want of a model -/

/-- The fault says that there is no model. -/
def Fault.WantsModel : Fault → Prop
  | noModel _ => True
  | _ => False

/-- A value that cannot be read is no complaint about a missing model. -/
theorem Fault.IsReading.not_wantsModel {fault : Fault} (h : fault.IsReading) :
    ¬ fault.WantsModel := by
  cases fault with
  | noModel label => exact h.elim
  | _ => exact id

/-! ## Calls with nothing but a text -/

/-- The call for the kind of a task that has a text and a model, and nothing else. -/
inductive Call.Brings (model text : String) : TaskKind → Call → Prop
  | generate : Brings model text .generate (.generate model text none)
  | chat : Brings model text .chat (.chat model [⟨.user, text⟩] none)
  | embed : Brings model text .embed (.embed model text)

/-- The kind of work is done by the backend. -/
def TaskKind.IsInference (kind : TaskKind) : Prop :=
  kind = .generate ∨ kind = .chat ∨ kind = .embed

namespace Engine

/-! ## Tasks whose model was chosen -/

/-- The task has nothing to say but a text, and the rules have chosen its model. -/
structure Routed (agent : Agent) (text : String) (task : Task) : Prop where
  input : task.input = text
  model : Routing.Chosen agent task.kind text task.modelName
  parameter : ∀ name ∈ ["system", "messages", "options"], task.parameter name = .null

section

variable {agent : Agent} {text : String} {task : Task}

/-- The task asks for a call with the chosen model, whoever carries it out. -/
theorem Routed.asks (h : Routed agent text task) (hnamed : "" ∉ agent.models)
    (hkind : task.kind.IsInference) (other : Agent) :
    ∃ call, Asks task other call ∧ Call.Brings task.modelName text task.kind call := by
  -- The model is one of the models of the agent, all of which have names.
  have hne : task.modelName ≠ "" := fun hempty => hnamed (hempty ▸ h.model.mem)
  have hnames : NamesModel task other task.modelName := ⟨hne, .inl rfl⟩
  have hoptions : GivesOptions (task.parameter "options") none := by
    rw [h.parameter "options" (by simp)]
    exact .absent nofun
  rcases hkind with hkind | hkind | hkind
  · have hcall := Asks.generate hkind hnames hoptions
    rw [h.input] at hcall
    exact ⟨_, hcall, hkind ▸ .generate⟩
  · -- Neither the system nor anybody else has said something before.
    have hopens : OpensChat (task.parameter "system") [] := by
      rw [h.parameter "system" (by simp)]
      exact .silent nofun
    have hhistory : History (task.parameter "messages") [] := by
      rw [h.parameter "messages" (by simp)]
      exact .absent rfl
    have hcall := Asks.chat hkind hnames hopens hhistory hoptions
    rw [h.input] at hcall
    exact ⟨_, hcall, hkind ▸ .chat⟩
  · have hcall := Asks.embed hkind hnames
    rw [h.input] at hcall
    exact ⟨_, hcall, hkind ▸ .embed⟩

/-- The task of a routed text has the model that the rules choose. -/
theorem routed_routedTask (h : agent.models ≠ []) (id : String) (now : Moment)
    (label text : String) : Routed agent text (routedTask id now agent label text) where
  input := rfl
  model := by
    have hkind : (routedTask id now agent label text).kind = TaskKind.parse label := rfl
    rw [hkind, routedTask, Routing.chosen_iff h]
  parameter _ _ := rfl

/-- The task of a step that names no model has the model that the rules choose. -/
theorem routed_stepTask {step : WorkflowStep} (h : agent.models ≠ [])
    (hunnamed : step.modelName = "") (id agentId : String) (now : Moment) (text : String) :
    Routed agent text (stepTask id now agentId agent step text) where
  input := rfl
  model := by
    have hkind : (stepTask id now agentId agent step text).kind = TaskKind.parse step.label := rfl
    rw [hkind, stepTask, if_pos hunnamed, Routing.chosen_iff h]
  parameter name hname := by
    -- The parameters name the step, which says nothing to the backend.
    have hne : name ≠ "workflow_step" := by
      rintro rfl
      exact absurd hname (by decide)
    have hnone : Table.find? [("workflow_step", Value.text step.name)] name = none :=
      Table.find?_insert_of_ne [] _ hne
    show (Table.find? [("workflow_step", Value.text step.name)] name).getD .null = _
    rw [hnone]
    rfl

end

/-! ## Who says that there is no model -/

section Wanting

variable {task : Task} {cause : Fault}

/-- A task reports that there is no model only if that is what went wrong. -/
theorem taskFault_wantsModel (h : (taskFault task cause).WantsModel) :
    taskFault task cause = cause := by
  unfold taskFault at h ⊢
  split at h
  next htaxonomy =>
    rw [if_pos htaxonomy]
    -- Only the fault of an execution gets the id of the task.
    cases cause with
    | execution failure message taskId => cases taskId <;> exact h.elim
    | _ => rfl
  next => exact h.elim

/-- A complaint about a missing model is not one that was made of another fault. -/
theorem inferenceFault_wantsModel {operation model : String}
    (h : (inferenceFault task operation model cause).WantsModel) :
    inferenceFault task operation model cause = cause := by
  unfold inferenceFault at h ⊢
  split at h
  next htaxonomy => rw [if_pos htaxonomy]
  next => exact h.elim

/-- A reply that is collected complains about a missing model only if the backend does. -/
theorem collectReply_wantsModel {model operation : String} {reply : StreamReply}
    (hfault : collectReply task model operation reply = .error cause) (h : cause.WantsModel) :
    reply.fault? = some cause := by
  cases reply with
  | refused refusal =>
    cases hfault
    rfl
  | delivered delivery =>
    rw [collectReply, collect] at hfault
    split at hfault
    next fault hended =>
      cases hfault
      rw [inferenceFault_wantsModel h]
      exact hended
    next =>
      dsimp only at hfault
      split at hfault <;> cases hfault
      exact h.elim

/-- A vector that cannot be read is no complaint about a missing model. -/
theorem embeddingResult_wantsModel {model : String} {vector : Value} :
    Fault.FailsWith (¬ ·.WantsModel) (embeddingResult task model vector) := by
  refine Fault.FailsWith.bind ?_ fun _ =>
    (Checked.failsWith_orFault (fun _ => id) _).bind fun _ => Fault.failsWith_ok _
  unfold lengthOf
  split
  · exact Fault.failsWith_ok _
  · exact Fault.failsWith_ok _
  · exact Fault.failsWith_ok _
  · exact Fault.failsWith_error id

variable {σ τ : Type} [Backend σ τ] {w : World σ τ} {context : Option String} {call : Call}
  {outcome : Except Fault TaskResult}

/-- When a call was made, nobody but the backend can say that there is no model. -/
theorem Replied.raised_of_wantsModel (h : Replied task context w call outcome)
    (hfault : outcome = .error cause) (hwants : cause.WantsModel) :
    Backend.raised w.backend w.surroundings context call = some cause := by
  cases h with
  | generate model prompt options => exact collectReply_wantsModel hfault hwants
  | chat model turns options => exact collectReply_wantsModel hfault hwants
  | embed model text =>
    rw [Backend.raised]
    cases hvalue : (Backend.embed w.backend w.surroundings context model text).value with
    | error fault =>
      rw [hvalue] at hfault
      cases hfault
      rw [inferenceFault_wantsModel hwants]
      rfl
    | ok vector =>
      rw [hvalue] at hfault
      exact absurd hwants (embeddingResult_wantsModel cause hfault)

end Wanting

end Engine

namespace Adapter

/-- A response that has no vector is no complaint about a missing model. -/
theorem not_wantsModel_vectorOf (request : ServiceRequest) (response : Value) :
    Fault.FailsWith (¬ ·.WantsModel) (vectorOf request response) := by
  refine ((reading_entry _ _).mono fun _ h => h.not_wantsModel).bind fun embeddings => ?_
  split
  · exact (reading_vectorIn embeddings).mono fun _ h => h.not_wantsModel
  · exact Fault.failsWith_error id

variable {τ : Type} [Time τ]

/-- A stream of the adapter never ends with a complaint about a missing model. -/
theorem not_wantsModel_stream {adapter : Adapter τ} {s : Surroundings τ} {context : Option String}
    {limit : Option Nat} {request : ServiceRequest} {content : Value → Except Fault Value}
    {fault : Fault}
    (h : (adapter.stream s context limit request content).value.fault = some fault) :
    ¬ fault.WantsModel := by
  unfold stream at h
  split at h
  · cases h
  · -- What ends a stream is passed on if it says that the call is over, and reported if not.
    obtain ⟨cause, -, rfl⟩ := Option.map_eq_some_iff.mp h
    unfold streamFault
    split
    next hcancelled =>
      cases cause with
      | noModel label => cases hcancelled
      | _ => exact id
    next => exact id

/-- A call of the adapter for an embedding never fails with a complaint about a missing model. -/
theorem not_wantsModel_embed (adapter : Adapter τ) (s : Surroundings τ) (context : Option String)
    (model text : String) :
    Fault.FailsWith (¬ ·.WantsModel) (adapter.embed s context model text).value := by
  cases hcheck : s.check context none with
  | error stop =>
    obtain ⟨-, message, rfl⟩ := stopped_of_check hcheck
    rw [embed_of_error hcheck]
    exact Fault.failsWith_error id
  | ok _ =>
    cases hfailure : (adapter.begin s context (.embed model text)).2.1.failure with
    | some fault =>
      rw [value_embed_of_failure hcheck hfailure]
      exact Fault.failsWith_error id
    | none =>
      rw [value_embed_of_response hcheck hfailure]
      exact not_wantsModel_vectorOf _ _

/-- An adapter never says that there is no model. -/
theorem not_wantsModel_of_raised {adapter : Adapter τ} {s : Surroundings τ}
    {context : Option String} {call : Call} {fault : Fault}
    (h : Backend.raised adapter s context call = some fault) : ¬ fault.WantsModel := by
  cases call with
  | generate model prompt options => exact not_wantsModel_stream h
  | chat model turns options => exact not_wantsModel_stream h
  | embed model text =>
    exact not_wantsModel_embed adapter s context model text fault (faultOf_eq_some_iff.mp h)
  | tool name parameters => cases h
  | plugin name input parameters => cases h

end Adapter

namespace Engine

variable {σ τ : Type} [Time τ] [Backend σ τ]

/-! ## Operations that reach the backend -/

/-- Working on a text for the agent, the operation makes one call to the backend. The model of the
call is the one that the rules choose, and a model of the agent. Whatever comes of it, nobody but
the backend has said that there is no model. -/
structure ReachesBackend (agent : Agent) (kind : TaskKind) (text : String)
    (context : Option String) (run : Run σ τ TaskResult) (w : World σ τ) (model : String)
    (call : Call) : Prop where
  chosen : Routing.Chosen agent kind text model
  declared : model ∈ agent.models
  brings : Call.Brings model text kind call
  history : (worldAfter run w).history = w.history ++ [call]
  backend : (worldAfter run w).backend = Backend.after w.backend w.surroundings context call
  fault : ∀ fault, outcomeOf run w = .error fault → fault.WantsModel →
    Backend.raised w.backend w.surroundings context call = some fault

section

variable {w : World σ τ} {context : Option String} {agent : Agent} {text : String}

/-- Carrying out a task whose model was chosen reaches the backend. -/
theorem reachesBackend_execute {ref : Ref Task} (hopen : w.surroundings.Open context)
    (hrouted : Routed agent text (w.tasks.task ref)) (hnamed : "" ∉ agent.models)
    (hkind : (w.tasks.task ref).kind.IsInference) (agentRef : Ref Agent) (tracked : Bool) :
    ∃ model call, ReachesBackend agent (w.tasks.task ref).kind text context
      (execute ref agentRef context tracked) w model call := by
  obtain ⟨call, hasks, hbrings⟩ := hrouted.asks hnamed hkind (w.agents.agent agentRef)
  obtain ⟨call?, hcall, hcontacted⟩ := consults_execute ref agentRef context tracked w
  -- The one call that is made is the one that the task asks for.
  obtain rfl : call? = some call := (hcall call).mpr ⟨hopen, hasks⟩
  refine ⟨_, call, hrouted.model, hrouted.model.mem, hbrings, ?_, hcontacted.backend, ?_⟩
  · cases hcontacted with
    | once inference history backend => exact history
  · intro fault hfault hwants
    have hreplied := replied_of_asks hopen hasks tracked
    cases hwork : outcomeOf (workOf w ref agentRef context tracked)
        (takenUp w ref agentRef tracked) with
    | ok result =>
      obtain ⟨millis, htimed⟩ := outcomeOf_execute_of_ok hwork
      cases hfault.symm.trans htimed
    | error cause =>
      have hreported := outcomeOf_execute_of_error hwork
      cases hfault.symm.trans hreported
      have hcause := taskFault_wantsModel hwants
      rw [hcause] at hwants ⊢
      exact hreplied.raised_of_wantsModel hwork hwants

omit [Time τ] in
/-- An operation reaches the backend if another one does that it comes to on the same ground. -/
theorem ReachesBackend.of_run_eq {kind : TaskKind} {run other : Run σ τ TaskResult} {w₁ : World σ τ}
    {model : String} {call : Call} (h : ReachesBackend agent kind text context other w₁ model call)
    (hrun : run.run w = other.run w₁) (hground : SameGround w w₁) :
    ReachesBackend agent kind text context run w model call := by
  have houtcome : outcomeOf run w = outcomeOf other w₁ := by rw [outcomeOf, hrun, ← outcomeOf]
  have hworld : worldAfter run w = worldAfter other w₁ := by rw [worldAfter, hrun, ← worldAfter]
  refine ⟨h.chosen, h.declared, h.brings, ?_, ?_, ?_⟩
  · rw [hworld, h.history, hground.history]
  · rw [hworld, h.backend, hground.backend, hground.surroundings]
  · rw [houtcome, ← hground.backend, ← hground.surroundings]
    exact h.fault

variable {agentId label : String} {ref : Ref Agent}

/-- A request that leaves the choice of the model to the rules reaches the backend. -/
theorem reachesBackend_smartRoute (hknown : w.agents.find? agentId = some ref)
    (hmodels : (w.agents.agent ref).models ≠ []) (hnamed : "" ∉ (w.agents.agent ref).models)
    (hopen : w.surroundings.Open context) {type : Value} (htype : type.text? = some label)
    (hkind : (TaskKind.parse label).IsInference) (text : String) :
    ∃ model call, ReachesBackend (w.agents.agent ref) (TaskKind.parse label) text context
      (smartRoute agentId text type context) w model call := by
  obtain ⟨journal, hrun⟩ := run_smartRoute_of_text? hknown text htype context
  let w₁ := withRoutedTask w ref label text journal
  have htask : w₁.tasks.task w.tasks.live.next = routedTask (Identifier.issue w.issued)
      w.surroundings.clock.now (w.agents.agent ref) label text := Live.get_add_next _ _
  obtain ⟨model, call, hreaches⟩ := reachesBackend_execute (w := w₁) hopen
    (htask ▸ routed_routedTask hmodels _ _ label text) hnamed (by rw [htask]; exact hkind) ref true
  rw [htask] at hreaches
  exact ⟨model, call, hreaches.of_run_eq hrun ⟨rfl, rfl, rfl, rfl, rfl⟩⟩

/-- A step that names no model reaches the backend. -/
theorem reachesBackend_runStep (hmodels : agent.models ≠ []) (hnamed : "" ∉ agent.models)
    (hsame : (w.agents.agent ref).stateless = agent.stateless)
    (hopen : w.surroundings.Open context) {step : WorkflowStep} (hunnamed : step.modelName = "")
    (hkind : (TaskKind.parse step.label).IsInference) (input : String) :
    ∃ model call, ReachesBackend agent (TaskKind.parse step.label) input context
      (runStep agentId ref context step input) w model call := by
  let w₁ := withStepTask w agentId ref step input
  have htask : w₁.tasks.task w.tasks.live.next = stepTask (Identifier.issue w.issued)
      w.surroundings.clock.now agentId (w.agents.agent ref) step input := Live.get_add_next _ _
  -- The memories of the agent have no influence on which model is chosen.
  have hstep := congrArg
    (stepTask (Identifier.issue w.issued) w.surroundings.clock.now agentId · step input) hsame
  have htask' : w₁.tasks.task w.tasks.live.next = stepTask (Identifier.issue w.issued)
      w.surroundings.clock.now agentId agent step input := htask.trans hstep
  obtain ⟨model, call, hreaches⟩ := reachesBackend_execute (w := w₁) hopen
    (htask' ▸ routed_stepTask hmodels hunnamed _ _ _ input) hnamed (by rw [htask']; exact hkind)
    ref true
  rw [htask'] at hreaches
  exact ⟨model, call, hreaches.of_run_eq (run_runStep ..) ⟨rfl, rfl, rfl, rfl, rfl⟩⟩

end

/-! ## The steps of a workflow -/

/-- Where no state of a backend counts as good, every backend is impartial. -/
theorem impartial_none : Impartial τ fun _ : σ => False where
  generate _ _ _ _ := ⟨fun h => h.elim, fun h => h.elim⟩
  chat _ _ _ _ := ⟨fun h => h.elim, fun h => h.elim⟩
  embed _ _ _ := ⟨fun h => h.elim, fun h => h.elim⟩

section

variable {agentId : String} {ref : Ref Agent} {context : Option String} {w w' : World σ τ}
  {runs : List StepRun}

/-- Whatever steps an agent has carried out, it is the same but for its memories. -/
theorem Carried.stateless_agent (h : Carried agentId ref context w runs w') :
    (w'.agents.agent ref).stateless = (w.agents.agent ref).stateless := by
  induction h with
  | start => rfl
  | @next earlier w₁ step input hbefore hinput ih =>
    have hworld : worldAfter (runStep agentId ref context step input) w₁ =
        worldAfter (execute w₁.tasks.live.next ref context true)
          (withStepTask w₁ agentId ref step input) := by
      rw [worldAfter, run_runStep, ← worldAfter]
    have hpeers : Peers (fun _ => False) ref (withStepTask w₁ agentId ref step input)
        (worldAfter (execute w₁.tasks.live.next ref context true)
          (withStepTask w₁ agentId ref step input)) :=
      peers_execute impartial_none _ _ _ _ _
    rw [hworld]
    exact hpeers.agent.trans ih

/-- Of the steps that were carried out, each that names no model and asks for inference has reached
the backend, provided that the context was open when the step began. -/
def StepsReachBackend (agentId : String) (ref : Ref Agent) (context : Option String)
    (w : World σ τ) (runs : List StepRun) : Prop :=
  ∀ earlier run later, runs = earlier ++ run :: later →
    run.step.modelName = "" → (TaskKind.parse run.step.label).IsInference →
      ∃ w₁, Carried agentId ref context w earlier w₁ ∧
        run.outcome = outcomeOf (runStep agentId ref context run.step run.input) w₁ ∧
        (w₁.surroundings.Open context → ∃ model call,
          ReachesBackend (w.agents.agent ref) (TaskKind.parse run.step.label) run.input context
            (runStep agentId ref context run.step run.input) w₁ model call)

/-- All steps that were carried out reach the backend, by induction on them. -/
theorem Carried.reachBackend (h : Carried agentId ref context w runs w')
    (hmodels : (w.agents.agent ref).models ≠ []) (hnamed : "" ∉ (w.agents.agent ref).models) :
    StepsReachBackend agentId ref context w runs := by
  rintro earlier run later rfl hunnamed hkind
  obtain ⟨w₁, hbefore, houtcome⟩ := h.ran
  exact ⟨w₁, hbefore, houtcome, fun hopen => reachesBackend_runStep hmodels hnamed
    hbefore.stateless_agent hopen hunnamed hkind run.input⟩

end

/-- **Routing reaches the backend.** Let a registered agent have models, none of them without a
name. Whatever the text is, a request under an open context that asks for inference and leaves the
choice of the model to the rules makes one call to the backend, with the model of the agent that the
rules choose; so does each step of a workflow that names no model. For want of a model they fail
only if the backend says that there is none, which an adapter never does. -/
theorem routing_reaches_backend {w : World σ τ} {agentId : String} {ref : Ref Agent}
    (known : w.agents.find? agentId = some ref) (models : (w.agents.agent ref).models ≠ [])
    (named : "" ∉ (w.agents.agent ref).models) :
    (∀ (text label : String) (type : Value) (context : Option String), type.text? = some label →
      (TaskKind.parse label).IsInference → w.surroundings.Open context →
      ∃ model call, ReachesBackend (w.agents.agent ref) (TaskKind.parse label) text context
        (smartRoute agentId text type context) w model call) ∧
    (∀ steps context, ∃ runs report w' journal,
      (runWorkflow agentId steps context).run w = .ok report { w' with journal } ∧
      Carried agentId ref context w runs w' ∧ Stops 1 steps runs report ∧
      StepsReachBackend agentId ref context w runs) ∧
    ∀ (adapter : Adapter τ) (s : Surroundings τ) context call fault,
      Backend.raised adapter s context call = some fault → ¬ fault.WantsModel := by
  refine ⟨?_, ?_, fun adapter s context call fault => Adapter.not_wantsModel_of_raised⟩
  · intro text label type context htype hkind hopen
    exact reachesBackend_smartRoute known models named hopen htype hkind text
  · intro steps context
    obtain ⟨runs, report, w', journal, hrun, hcarried, hstops⟩ :=
      run_runWorkflow known steps context
    exact ⟨runs, report, w', journal, hrun, hcarried, hstops, hcarried.reachBackend models named⟩

/-- An engine whose agent has a model for talk and one for code. -/
def twoModelEngine : World (Adapter Rat) Rat :=
  { streamingEngine with
    agents := { streamingEngine.agents with
      live := ⟨[{ id := "helper", name := "Helper", models := ["chatter", "CodeStar"] }]⟩ } }

/-- Even in a chat, what has to do with programming goes to the model for code. -/
theorem routing_reaches_backend_twoModelEngine :
    let routed := smartRoute "helper" "Is PROGRAMMING fun?" (.kind .chat) none
    (worldAfter routed twoModelEngine).history =
      [.chat "CodeStar" [⟨.user, "Is PROGRAMMING fun?"⟩] none] := by
  intro routed
  have hmodels : (twoModelEngine.agents.agent ⟨0⟩).models = ["chatter", "CodeStar"] := rfl
  have hknown : twoModelEngine.agents.find? "helper" = some ⟨0⟩ := rfl
  obtain ⟨hrouted, -, -⟩ :=
    routing_reaches_backend hknown (by simp [hmodels]) (by simp [hmodels])
  obtain ⟨model, call, hreaches⟩ :=
    hrouted "Is PROGRAMMING fun?" "chat" (.kind .chat) none rfl (.inr (.inl rfl)) rfl
  have hmodel : Routing.selectModel (twoModelEngine.agents.agent ⟨0⟩) .chat
      "Is PROGRAMMING fun?" = "CodeStar" := by decide
  obtain rfl : "CodeStar" = model := hmodel.symm.trans hreaches.chosen.selectModel_eq
  have hhistory := hreaches.history
  have hbrings : Call.Brings "CodeStar" "Is PROGRAMMING fun?" .chat call := hreaches.brings
  cases hbrings
  exact hhistory

end Engine

end Orchestration
