import Orchestration.Engine.Requests
import Orchestration.Proofs.Ground
import Orchestration.Proofs.Outcome
import Orchestration.Proofs.Template
import Orchestration.Proofs.Workflow.Steps

/-!
# A routed request and a workflow of one step

A caller can have a text worked on by a request that leaves the choice of the model to the routing
rules, or by a workflow with a single step that names no model. Both make the same task, but for its
owner and for a parameter that names the step, which no work looks at (`asksSame_stepTask`). The
template of the step has nothing to be filled in with, so the text is what the step is asked
(`Template.render_nil`). From the same world, the two therefore come to the same execution
(`execute_of_asksSame`), and differ in how they tell their caller about it.

The main statement is `routed_as_workflow`.
-/

namespace Orchestration

namespace Engine

/-! ## Executions of tasks that ask for the same -/

section

variable {task other : Task}

/-- The record of a task that was carried out, next to that of another. -/
structure RecordsAgree (record other : Task) : Prop where
  id : other.id = record.id
  label : other.label = record.label
  input : other.input = record.input
  modelName : other.modelName = record.modelName
  status : other.status = record.status
  output : other.output = record.output
  error : other.error = record.error

theorem SameButParameters.recordsAgree (h : SameButParameters task other) :
    RecordsAgree task other := by
  obtain ⟨_, _, rfl⟩ := h
  exact ⟨rfl, rfl, rfl, rfl, rfl, rfl, rfl⟩

theorem SameButParameters.ended (h : SameButParameters task other) (time : Moment)
    (outcome : Except Fault TaskResult) :
    SameButParameters (ended time outcome task) (ended time outcome other) := by
  obtain ⟨agentId, parameters, rfl⟩ := h
  cases outcome <;> exact ⟨agentId, parameters, rfl⟩

/-- Tasks that ask for the same still do when an agent has taken them up. -/
theorem AsksSame.takenUp (h : AsksSame task other) (agentId : String) :
    AsksSame (task.assignedTo agentId).afterStart (other.assignedTo agentId).afterStart := by
  obtain ⟨owner, htask⟩ := assignedTo_eq agentId task
  obtain ⟨owner', hother⟩ := assignedTo_eq agentId other
  rw [htask, hother]
  refine ⟨?_, h.parameter⟩
  obtain ⟨_, parameters, rfl⟩ := h.same
  exact ⟨owner', parameters, rfl⟩

theorem AsksSame.taskFault_eq (h : AsksSame task other) (fault : Fault) :
    taskFault other fault = taskFault task fault := by
  obtain ⟨_, _, rfl⟩ := h.same
  rfl

end

section

variable {σ τ : Type} {w w' : World σ τ} {ref ref' : Ref Task}

/-- If the task that the second world has under a reference asks for the same as the task that the
first one has under another, it still does when an agent has taken both up. -/
theorem asksSame_takenUp (hground : SameGround w w') (hlive : w.tasks.live.Has ref)
    (hlive' : w'.tasks.live.Has ref') (h : AsksSame (w.tasks.task ref) (w'.tasks.task ref'))
    (agent : Ref Agent) :
    AsksSame ((takenUp w ref agent true).tasks.task ref)
      ((takenUp w' ref' agent true).tasks.task ref') := by
  have htask : (takenUp w ref agent true).tasks.task ref =
      ((w.tasks.task ref).assignedTo (w.agents.agent agent).id).afterStart :=
    task_tasksTakenUp_self hlive
  have htask' : (takenUp w' ref' agent true).tasks.task ref' =
      ((w'.tasks.task ref').assignedTo (w'.agents.agent agent).id).afterStart :=
    task_tasksTakenUp_self hlive'
  rw [htask, htask', hground.agents]
  exact h.takenUp _

variable [Time τ] [Backend σ τ]

/-- The work on tasks that ask for the same comes to the same, when an agent has taken them up. -/
theorem workOf_of_asksSame (hground : SameGround w w') (hlive : w.tasks.live.Has ref)
    (hlive' : w'.tasks.live.Has ref') (h : AsksSame (w.tasks.task ref) (w'.tasks.task ref'))
    (hplugin : w.registry.plugin? (pluginName (w.tasks.task ref)) = none)
    (agent : Ref Agent) (context : Option String) :
    outcomeOf (workOf w' ref' agent context true) (takenUp w' ref' agent true) =
        outcomeOf (workOf w ref agent context true) (takenUp w ref agent true) ∧
      SameGround (worldAfter (workOf w ref agent context true) (takenUp w ref agent true))
        (worldAfter (workOf w' ref' agent context true) (takenUp w' ref' agent true)) := by
  have htaken : SameGround (takenUp w ref agent true) (takenUp w' ref' agent true) :=
    { hground with }
  have hparameters : ((takenUp w ref agent true).tasks.task ref).parameters =
      (w.tasks.task ref).parameters :=
    (sameWork_tasksTakenUp w.tasks ref ref _ true).parameters
  have hmissing : (takenUp w ref agent true).registry.plugin?
      (pluginName ((takenUp w ref agent true).tasks.task ref)) = none := by
    rw [pluginName, Task.parameter, hparameters]
    exact hplugin
  exact perform_of_asksSame htaken (asksSame_takenUp hground hlive hlive' h agent)
    (fun _ => hmissing) agent context

/-- Executions of tasks that ask for the same come to the same on the same ground. -/
theorem execute_of_asksSame (hground : SameGround w w') (hlive : w.tasks.live.Has ref)
    (hlive' : w'.tasks.live.Has ref') (h : AsksSame (w.tasks.task ref) (w'.tasks.task ref'))
    (hplugin : w.registry.plugin? (pluginName (w.tasks.task ref)) = none)
    (agent : Ref Agent) (context : Option String) :
    outcomeOf (execute ref' agent context true) w' = outcomeOf (execute ref agent context true) w ∧
      SameGround (worldAfter (execute ref agent context true) w)
        (worldAfter (execute ref' agent context true) w') ∧
      RecordsAgree ((worldAfter (execute ref agent context true) w).tasks.task ref)
        ((worldAfter (execute ref' agent context true) w').tasks.task ref') := by
  have hasks := asksSame_takenUp hground hlive hlive' h agent
  obtain ⟨hwork, hafter⟩ := workOf_of_asksSame hground hlive hlive' h hplugin agent context
  unfold workOf at hwork hafter
  have houtcome : outcomeOf (execute ref' agent context true) w' =
      outcomeOf (execute ref agent context true) w := by
    obtain ⟨hfirst, -⟩ := run_execute ref agent context true w
    obtain ⟨hsecond, -⟩ := run_execute ref' agent context true w'
    rw [hfirst, hsecond, outcomeOf_settle, outcomeOf_settle, hwork, hafter.surroundings,
      hground.surroundings, (onlyWork_perform _ agent context _).tasks,
      (onlyWork_perform _ agent context _).tasks]
    -- Results are timed by the same clock, and faults name tasks with the same id and label.
    cases outcomeOf (perform ((takenUp w ref agent true).tasks.task ref) agent context)
        (takenUp w ref agent true) with
    | ok result => rfl
    | error fault => exact congrArg Except.error (hasks.taskFault_eq fault)
  have hsame : SameGround (worldAfter (execute ref agent context true) w)
      (worldAfter (execute ref' agent context true) w') := by
    obtain ⟨_, _, _, hworld⟩ := worldAfter_execute ref agent context true w
    obtain ⟨_, _, _, hworld'⟩ := worldAfter_execute ref' agent context true w'
    rw [hworld, hworld']
    exact { hafter with }
  refine ⟨houtcome, hsame, ?_⟩
  -- Both executions end at the same time, with the same outcome.
  rw [(executed ref agent context true w).task_self hlive,
    (executed ref' agent context true w').task_self hlive', houtcome, hsame.surroundings,
    hground.agents]
  exact ((h.takenUp _).same.ended _ _).recordsAgree

end

/-! ## The two ways to ask -/

/-- The task of a routed request. -/
def routedTask (id : String) (now : Moment) (agent : Agent) (label text : String) : Task where
  id := id
  label := label
  input := text
  agentId := agent.id
  modelName := Routing.selectModel agent (TaskKind.parse label) text
  createdAt := now

/-- A step that asks for the work of a label on a text, and names no model. -/
def plainStep (name label text : String) : WorkflowStep where
  name := name
  label := label
  input := text

/-- The step asks for what the request asks for. -/
theorem asksSame_stepTask (id agentId : String) (now : Moment) (agent : Agent)
    (name label text : String) :
    AsksSame (routedTask id now agent label text)
      (stepTask id now agentId agent (plainStep name label text) text) where
  same := by
    refine ⟨agentId, [("workflow_step", .text name)], ?_⟩
    -- The step names no model, so it is chosen by the rules.
    have hunnamed : (plainStep name label text).modelName = "" := rfl
    rw [stepTask, if_pos hunnamed, routedTask, plainStep]
  parameter := by
    -- The name of the step is none of the parameters that the work looks at.
    intro parameter hmem
    have hne : parameter ≠ "workflow_step" := by
      rintro rfl
      exact absurd hmem (by decide)
    have hnone : Table.find? [("workflow_step", Value.text name)] parameter = none :=
      Table.find?_insert_of_ne [] _ hne
    show (Table.find? [("workflow_step", Value.text name)] parameter).getD .null = _
    rw [hnone]
    rfl

section

variable {σ τ : Type} [Time τ] [Backend σ τ] {w : World σ τ} {agentId : String}
  {agent : Ref Agent}

/-- The world in which the task of a routed request is ready to be carried out. -/
def withRoutedTask (w : World σ τ) (agent : Ref Agent) (label text : String)
    (journal : List Log.Record) : World σ τ :=
  { w with
    journal
    issued := w.issued + 1
    tasks := w.tasks.add (routedTask (Identifier.issue w.issued) w.surroundings.clock.now
      (w.agents.agent agent) label text) }

omit [Time τ] [Backend σ τ] in
/-- Logging the choice of a model does nothing else. -/
theorem run_logRouting (note : Except Fault String) (w : World σ τ) :
    ∃ journal, (logRouting note).run w = .ok () { w with journal } := by
  cases note with
  | ok message => exact ⟨_, rfl⟩
  | error fault => exact ⟨w.journal, rfl⟩

/-- A routed request executes its task, whose label is given as a text or by a kind. -/
theorem run_smartRoute_of_text? (hknown : w.agents.find? agentId = some agent) (text : String)
    {type : Value} {label : String} (htype : type.text? = some label) (context : Option String) :
    ∃ journal, (smartRoute agentId text type context).run w =
      (execute w.tasks.live.next agent context true).run
        (withRoutedTask w agent label text journal) := by
  have hlabel : labelOf type = .ok label := by
    rw [labelOf, Schema.text, htype]
    rfl
  have hkind : kindOf type = TaskKind.parse label := by
    rw [kindOf, htype]
    rfl
  have hagent : (Engine.agent agent : Run σ τ Agent).run w = .ok (w.agents.agent agent) w := rfl
  let note := routingNote agentId
    (Routing.selectModel (w.agents.agent agent) (TaskKind.parse label) text) type
  obtain ⟨journal, hlogged⟩ := run_logRouting note w
  refine ⟨journal, ?_⟩
  rw [smartRoute, EStateM.run_bind, EStateM.run_get]
  simp only [EStateM.run_bind, run_lift, AgentStore.get_of_find? hknown, hlabel, hkind, hagent,
    hlogged, note]
  rfl

/-- A routed request executes its task. -/
theorem run_smartRoute (hknown : w.agents.find? agentId = some agent) (text label : String)
    (context : Option String) :
    ∃ journal, (smartRoute agentId text (.text label) context).run w =
      (execute w.tasks.live.next agent context true).run
        (withRoutedTask w agent label text journal) :=
  run_smartRoute_of_text? hknown text rfl context

/-- What a workflow of one step tells of what came of it. -/
def tellOf (step : WorkflowStep) (input : String) : Except Fault TaskResult → WorkflowResult
  | .ok result => { steps := [stepResult step input result] }
  | .error fault => {
      success := false
      error := "Step " ++ stepLabel 1 step.name ++ " failed: " ++ fault.message
      failedStep := some step.name }

/-- A workflow of one step executes the task of the step, and tells what came of it. -/
theorem run_runWorkflow_single (hknown : w.agents.find? agentId = some agent)
    (step : WorkflowStep) (context : Option String) :
    let execution : Run σ τ TaskResult := execute w.tasks.live.next agent context true
    let w₁ := withStepTask w agentId agent step step.input
    ∃ journal, (runWorkflow agentId [step] context).run w =
      .ok (tellOf step step.input (outcomeOf execution w₁))
        { worldAfter execution w₁ with journal } := by
  intro execution w₁
  -- There are no outputs that the input could refer to, so it stays as it is.
  have hinput : Template.render [] step.input = .ok step.input := Template.render_nil _
  have hstep : (runStep agentId agent context step step.input).run w = execution.run w₁ :=
    run_runStep agentId agent context step step.input w
  cases hrun : execution.run w₁ with
  | ok result w₂ =>
    have hrest : (runSteps agentId agent context (1 + 1)
        (publish [] 1 step.name result.output) []).run w₂ = .ok {} w₂ := rfl
    have hsteps := run_runSteps_of_ok hinput (hstep.trans hrun) hrest
    obtain ⟨journal, hworkflow⟩ := run_runWorkflow_of_runSteps hknown hsteps
    obtain ⟨houtcome, hworld⟩ := run_eq_ok_iff.mp hrun
    rw [houtcome, hworld]
    exact ⟨journal, hworkflow⟩
  | error fault w₂ =>
    obtain ⟨_, hsteps⟩ := run_runSteps_of_error [] hinput (hstep.trans hrun)
    obtain ⟨journal, hworkflow⟩ := run_runWorkflow_of_runSteps hknown hsteps
    obtain ⟨houtcome, hworld⟩ := run_eq_error_iff.mp hrun
    rw [houtcome, hworld]
    exact ⟨journal, hworkflow⟩

end

section Telling

variable (step : WorkflowStep) (input : String) (outcome : Except Fault TaskResult)

/-- The workflow tells of a result exactly if there is one. -/
theorem tellOf_succeeds_iff (output model : String) :
    (∃ result, outcome = .ok result ∧ result.output = output ∧ result.modelUsed = model) ↔
      (tellOf step input outcome).success = true ∧ ∃ only,
        (tellOf step input outcome).steps = [only] ∧ only.output = output ∧
          only.modelUsed = model := by
  cases outcome with
  | ok result =>
    constructor
    · rintro ⟨_, ⟨⟩, houtput, hmodel⟩
      exact ⟨rfl, stepResult step input result, rfl, houtput, hmodel⟩
    · rintro ⟨-, _, ⟨⟩, houtput, hmodel⟩
      exact ⟨result, rfl, houtput, hmodel⟩
  | error fault => exact iff_of_false (fun ⟨_, h, _⟩ => nomatch h) fun ⟨h, _⟩ => nomatch h

/-- The workflow tells of a failure exactly if there is one, with its text at the end. -/
theorem tellOf_fails_iff (message : String) :
    (∃ fault, outcome = .error fault ∧ fault.message = message) ↔
      (tellOf step input outcome).success = false ∧ (tellOf step input outcome).error =
        "Step " ++ stepLabel 1 step.name ++ " failed: " ++ message := by
  cases outcome with
  | ok result => exact iff_of_false (fun ⟨_, h, _⟩ => nomatch h) fun ⟨h, _⟩ => nomatch h
  | error fault =>
    constructor
    · rintro ⟨_, ⟨⟩, rfl⟩
      exact ⟨rfl, rfl⟩
    · rintro ⟨-, herror⟩
      exact ⟨fault, rfl, (String.append_right_inj _).mp herror⟩

end Telling

section Main

variable {σ τ : Type} [Time τ] [Backend σ τ] {w : World σ τ} {agentId : String}
  {agent : Ref Agent}

/-- The task of the request and that of the step come to the same execution. -/
theorem routed_execution (hplugin : w.registry.plugin? "" = none) (agentId text label name : String)
    (agent : Ref Agent) (context : Option String) (journal : List Log.Record) :
    let execution : Run σ τ TaskResult := execute w.tasks.live.next agent context true
    let w₁ := withRoutedTask w agent label text journal
    let w₂ := withStepTask w agentId agent (plainStep name label text) text
    outcomeOf execution w₂ = outcomeOf execution w₁ ∧
      SameGround (worldAfter execution w₁) (worldAfter execution w₂) ∧
      ∃ record other,
        (worldAfter execution w₁).tasks.get (Identifier.issue w.issued) = .ok record ∧
        (worldAfter execution w₂).tasks.get (Identifier.issue w.issued) = .ok other ∧
        RecordsAgree record other := by
  intro execution w₁ w₂
  let ref := w.tasks.live.next
  have htask₁ : w₁.tasks.task ref = routedTask (Identifier.issue w.issued)
      w.surroundings.clock.now (w.agents.agent agent) label text := Live.get_add_next _ _
  have htask₂ : w₂.tasks.task ref = stepTask (Identifier.issue w.issued)
      w.surroundings.clock.now agentId (w.agents.agent agent) (plainStep name label text) text :=
    Live.get_add_next _ _
  have hasks : AsksSame (w₁.tasks.task ref) (w₂.tasks.task ref) := by
    rw [htask₁, htask₂]
    exact asksSame_stepTask _ agentId _ _ name label text
  -- The task names no plugin, and without a name there is none.
  have hmissing : w₁.registry.plugin? (pluginName (w₁.tasks.task ref)) = none := by
    rw [htask₁]
    exact hplugin
  have hstart : SameGround w₁ w₂ := ⟨rfl, rfl, rfl, rfl, rfl⟩
  obtain ⟨houtcome, hground, hrecords⟩ := execute_of_asksSame hstart (Live.has_add_next _ _)
    (Live.has_add_next _ _) hasks hmissing agent context
  have hrecord₁ := (executed ref agent context true w₁).get_self
  have hrecord₂ := (executed ref agent context true w₂).get_self
  rw [htask₁] at hrecord₁
  rw [htask₂] at hrecord₂
  exact ⟨houtcome, hground, _, _, hrecord₁, hrecord₂, hrecords⟩

/-- **A routed request is a workflow of one step.** Let a registered agent work on a text, by a
request whose model is chosen by the routing rules or by a workflow whose only step names no model.
If no plugin is registered without a name, the workflow always has something to tell, and both make
the same calls to the same effect: surroundings, backend, registry and agents are the same in the
end. The request has a result exactly if the workflow succeeds with a single report of the same
output and model, and it fails exactly if the workflow does, with an error that ends in the text of
the fault. Each has recorded its task under the same id, and the records agree. -/
theorem routed_as_workflow (hknown : w.agents.find? agentId = some agent)
    (hplugin : w.registry.plugin? "" = none) (text label name : String)
    (context : Option String) :
    let routed : Run σ τ TaskResult := smartRoute agentId text (.text label) context
    let workflow : Run σ τ WorkflowResult :=
      runWorkflow agentId [{ name, label, input := text }] context
    ∃ report, outcomeOf workflow w = .ok report ∧
      SameGround (worldAfter routed w) (worldAfter workflow w) ∧
      (∀ output model : String,
        (∃ result, outcomeOf routed w = .ok result ∧ result.output = output ∧
          result.modelUsed = model) ↔
        report.success = true ∧ ∃ only, report.steps = [only] ∧ only.output = output ∧
          only.modelUsed = model) ∧
      (∀ message : String, (∃ fault, outcomeOf routed w = .error fault ∧ fault.message = message) ↔
        report.success = false ∧
          report.error = "Step " ++ stepLabel 1 name ++ " failed: " ++ message) ∧
      ∃ record other,
        (worldAfter routed w).tasks.get (Identifier.issue w.issued) = .ok record ∧
        (worldAfter workflow w).tasks.get (Identifier.issue w.issued) = .ok other ∧
        RecordsAgree record other := by
  intro routed workflow
  let step := plainStep name label text
  let execution : Run σ τ TaskResult := execute w.tasks.live.next agent context true
  obtain ⟨journal, hrouted⟩ := run_smartRoute hknown text label context
  obtain ⟨journal', hworkflow⟩ := run_runWorkflow_single hknown step context
  let w₁ := withRoutedTask w agent label text journal
  let w₂ := withStepTask w agentId agent step text
  have houtcome₁ : outcomeOf routed w = outcomeOf execution w₁ := by
    rw [outcomeOf, hrouted, ← outcomeOf]
  have hworld₁ : worldAfter routed w = worldAfter execution w₁ := by
    rw [worldAfter, hrouted, ← worldAfter]
  have hreport : outcomeOf workflow w = .ok (tellOf step text (outcomeOf execution w₂)) :=
    (run_eq_ok_iff.mp hworkflow).1
  have hworld₂ : worldAfter workflow w =
      { worldAfter execution w₂ with journal := journal' } := (run_eq_ok_iff.mp hworkflow).2
  obtain ⟨houtcome, hground, hrecords⟩ :=
    routed_execution hplugin agentId text label name agent context journal
  -- What the workflow tells is about the outcome of the request.
  rw [houtcome] at hreport
  rw [houtcome₁, hworld₁, hworld₂]
  exact ⟨_, hreport, { hground with }, tellOf_succeeds_iff _ _ _, tellOf_fails_iff step _ _,
    hrecords⟩

/-- The small engine with a model, whose backend repeats the model and the prompt. -/
def echoingEngine : World (Scripted.Script Rat) Rat :=
  { smallEngine with
    backend := { default := .text Scripted.echo }
    agents := { smallEngine.agents with
      live := ⟨[{ id := "helper", name := "Helper", models := ["model"] }]⟩ } }

/-- Asked by a workflow to chat, the helper calls the backend as it does when it is asked by a
request, and reports the same reply. Nothing is put in the place of what is between the braces. -/
theorem routed_as_workflow_echoingEngine :
    echoingEngine.agents.find? "helper" = some ⟨0⟩ ∧ echoingEngine.registry.plugin? "" = none ∧
      (worldAfter (smartRoute "helper" "say \x7b\x7bstep1\x7d\x7d" (.text "chat") none)
        echoingEngine).history = [.chat "model" [⟨.user, "say \x7b\x7bstep1\x7d\x7d"⟩] none] ∧
      ∃ report, outcomeOf (runWorkflow "helper" [{
          name := "only"
          label := "chat"
          input := "say \x7b\x7bstep1\x7d\x7d" }] none) echoingEngine = .ok report ∧
        report.success = true ∧ ∃ only, report.steps = [only] ∧
          only.output = "model|say \x7b\x7bstep1\x7d\x7d" ∧ only.modelUsed = "model" := by
  have hknown : echoingEngine.agents.find? "helper" = some ⟨0⟩ := rfl
  have hplugin : echoingEngine.registry.plugin? "" = none := rfl
  obtain ⟨report, hreport, -, hsucceeds, -⟩ :=
    routed_as_workflow hknown hplugin "say \x7b\x7bstep1\x7d\x7d" "chat" "only" none
  have hreply : (outcomeOf (smartRoute "helper" "say \x7b\x7bstep1\x7d\x7d" (.text "chat") none)
      echoingEngine).toOption.map (fun result => (result.output, result.modelUsed)) =
        some ("model|say \x7b\x7bstep1\x7d\x7d", "model") := by decide +kernel
  refine ⟨hknown, hplugin, rfl, report, hreport, (hsucceeds _ _).mp ?_⟩
  cases houtcome : outcomeOf (smartRoute "helper" "say \x7b\x7bstep1\x7d\x7d" (.text "chat") none)
      echoingEngine with
  | error fault =>
    rw [houtcome] at hreply
    cases hreply
  | ok result =>
    rw [houtcome] at hreply
    obtain ⟨houtput, hmodel⟩ := Prod.mk.inj (Option.some.inj hreply)
    exact ⟨result, rfl, houtput, hmodel⟩

end Main

end Engine

end Orchestration
