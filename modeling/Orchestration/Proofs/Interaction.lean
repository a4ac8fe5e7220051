import Orchestration.Proofs.Decimal.Digits
import Orchestration.Proofs.Outcome

/-!
# What agents remember of an execution

An execution leaves at most one trace in the memories of the agents. If it succeeds, then the agent
that carried the task out remembers the interaction of the task (`interactionOf`). Inference leaves
no trace, and neither does a capability that is not there.

If it fails, then it leaves no trace, but for one case: a use of a tool or a plugin is recorded
before its output is put into words, and an integer with too many digits cannot be. The use stays on
record then, although the task has failed (`leftBehind`). All other steps that can fail come before
the one that records.

The main statement is `agents_of_execution`.
-/

namespace Orchestration

/-- Something that an agent has done, under the key by which it remembers it. -/
structure Interaction where
  key : String
  value : Value

/-- The entry of an interaction in a context window. -/
def Interaction.item (interaction : Interaction) (now : Moment) : ContextItem :=
  ⟨interaction.key, interaction.value, now, 1.0⟩

namespace Engine

variable {σ τ : Type}

/-- The interaction that an agent remembers when it has carried out a task with the given output. -/
def interactionOf (registry : Registry) (task : Task) (output : String) : Option Interaction :=
  match task.kind with
  | .generate | .chat | .embed => none
  | .tool =>
    match toolCallOf (task.parameter "tool") with
    | .error _ => none
    | .ok call => (registry.tool? call.name).map fun _ => ⟨"tool_use", .text call.name⟩
  | .plugin =>
    (registry.plugin? (pluginName task)).map fun _ => ⟨"plugin_use", .text (pluginName task)⟩
  | .reflect => some ⟨"reflection", .text output⟩
  | .custom => some ⟨"custom_task", .text task.input⟩

/-- The agents when one of them has had an interaction, if it had one. -/
def remembering (agents : AgentStore) (ref : Ref Agent) (now : Moment) :
    Option Interaction → AgentStore
  | none => agents
  | some interaction => agents.record ref now interaction.key interaction.value

/-- The interaction with the tool or plugin that a task uses, and the output that it is given. -/
def usageOf (w : World σ τ) (task : Task) : Option (Interaction × Value) :=
  let occasion : Occasion := ⟨w.surroundings.clock.now, w.history⟩
  match task.kind with
  | .tool => do
    let call ← (toolCallOf (task.parameter "tool")).toOption
    let tool ← w.registry.tool? call.name
    let output ← (toolOutput task call.name (tool.call occasion call.parameters)).toOption
    return (⟨"tool_use", .text call.name⟩, output)
  | .plugin => do
    let plugin ← w.registry.plugin? (pluginName task)
    let output ← (plugin.execute occasion task.input task.parameters).toOption
    return (⟨"plugin_use", .text (pluginName task)⟩, output)
  | _ => none

/-- The interaction of a use, if its output cannot be written. -/
def unwritten : Option (Interaction × Value) → Option Interaction
  | some (interaction, output) => if output.overlong then some interaction else none
  | none => none

/-- The interaction that stays behind when a task has been stopped by nobody and still fails, since
the output that it was given cannot be written. -/
def leftBehind [Time τ] (w : World σ τ) (context : Option String) (task : Task) :
    Option Interaction :=
  match w.surroundings.check context (some task.id) with
  | .error _ => none
  | .ok _ => unwritten (usageOf w task)

/-! ## Traces -/

/-- What work on a task leaves of the agents when it comes to an outcome. If it fails, then the
interaction `left` is what stays behind; nothing can stay behind if it succeeds. -/
inductive Traced (w : World σ τ) (task : Task) (ref : Ref Agent) (left : Option Interaction) :
    Except Fault TaskResult → AgentStore → Prop
  | returned {result : TaskResult} {agents : AgentStore} (hleft : left = none)
      (hagents : agents = remembering w.agents ref w.surroundings.clock.now
        (interactionOf w.registry task result.output)) :
      Traced w task ref left (.ok result) agents
  | failed {fault : Fault} {agents : AgentStore}
      (hagents : agents = remembering w.agents ref w.surroundings.clock.now left) :
      Traced w task ref left (.error fault) agents

/-- An operation that ends the work on a task, which started in the world `w`, leaves its trace. -/
def Leaves (w : World σ τ) (task : Task) (ref : Ref Agent) (left : Option Interaction)
    (run : Run σ τ TaskResult) (v : World σ τ) : Prop :=
  Traced w task ref left (outcomeOf run v) (worldAfter run v).agents

section

variable {α : Type} {w v v' : World σ τ} {task : Task} {ref : Ref Agent}
  {left : Option Interaction} {run : Run σ τ TaskResult}

/-- Work that succeeds leaves the interaction of its task. -/
theorem leaves_of_run_eq_ok {result : TaskResult} (h : run.run v = .ok result v')
    (hleft : left = none) (hagents : v'.agents = remembering w.agents ref w.surroundings.clock.now
      (interactionOf w.registry task result.output)) : Leaves w task ref left run v := by
  obtain ⟨houtcome, hworld⟩ := run_eq_ok_iff.mp h
  rw [Leaves, houtcome, hworld]
  exact .returned hleft hagents

/-- Work that fails before it has recorded anything leaves nothing. -/
theorem leaves_of_run_eq_error {fault : Fault} (h : run.run v = .error fault v')
    (hagents : v'.agents = w.agents) (hleft : left = none) : Leaves w task ref left run v := by
  obtain ⟨houtcome, hworld⟩ := run_eq_error_iff.mp h
  rw [Leaves, houtcome, hworld, hleft]
  exact .failed hagents

/-- The trace of work in steps is that of the last step, in the world that it finds. -/
theorem leaves_bind {first : Run σ τ α} {next : α → Run σ τ TaskResult} {a : α}
    (hfirst : first.run v = .ok a v') (h : Leaves w task ref left (next a) v') :
    Leaves w task ref left (first >>= next) v := by
  unfold Leaves at h ⊢
  rw [worldAfter_bind_of_run_eq hfirst, outcomeOf_bind, hfirst]
  exact h

/-- An operation that never touches the agents leaves no trace, whatever comes of it. -/
theorem leaves_of_same (h : (worldAfter run v).agents = w.agents) (hleft : left = none)
    (hnone : ∀ output, interactionOf w.registry task output = none) :
    Leaves w task ref left run v := by
  subst hleft
  unfold Leaves
  cases outcomeOf run v with
  | error fault => exact .failed h
  | ok result => exact .returned rfl (by rw [h, hnone]; rfl)

/-- The end of a use is remembered; whether the task has failed by then depends on the output. -/
theorem leaves_concludeUse (key name words : String) (output : Value)
    (hagents : v.agents = w.agents) (hsurroundings : v.surroundings = w.surroundings)
    (hinteraction : ∀ text, interactionOf w.registry task text = some ⟨key, .text name⟩) :
    Leaves w task ref (unwritten (some (⟨key, .text name⟩, output)))
      (concludeUse task ref key name words output) v := by
  have hresult := writtenUnless_usageResult task words output
  rw [Leaves, outcomeOf_concludeUse, worldAfter_concludeUse]
  dsimp only
  rw [hagents, hsurroundings, unwritten]
  cases hlong : output.overlong with
  | true =>
    rw [hresult.eq_error hlong]
    exact .failed rfl
  | false =>
    obtain ⟨result, hresult⟩ := hresult.exists_eq_ok hlong
    rw [hresult]
    exact .returned rfl (by rw [hinteraction]; rfl)

end

/-! ## The kinds of work -/

section Work

/-- Two worlds have the same agents, in the same states. -/
def SameAgents (w w' : World σ τ) : Prop :=
  w'.agents = w.agents

instance : IsPreorder (World σ τ) SameAgents where
  refl _ := rfl
  trans _ _ _ h h' := Eq.trans h' h

variable {w : World σ τ} {task : Task} {ref : Ref Agent}

/-- The use of a tool is left behind if its output cannot be written. -/
theorem leaves_runTool (hkind : task.kind = .tool) :
    Leaves w task ref (unwritten (usageOf w task)) (runTool task ref) w := by
  cases hcall : toolCallOf (task.parameter "tool") with
  | error fault =>
    have hrun : (runTool task ref : Run σ τ TaskResult).run w = .error fault w := by
      rw [runTool, hcall]
      rfl
    refine leaves_of_run_eq_error hrun rfl ?_
    simp [usageOf, hkind, hcall, unwritten, Except.toOption]
  | ok call =>
    have hinteraction : ∀ output, interactionOf w.registry task output =
        (w.registry.tool? call.name).map fun _ => ⟨"tool_use", .text call.name⟩ := by
      intro output
      simp only [interactionOf, hkind, hcall]
    rw [runTool, hcall]
    refine leaves_bind (a := call) rfl (leaves_bind (a := w) rfl ?_)
    split
    next hmissing =>
      refine leaves_of_run_eq_ok rfl ?_ ?_
      · simp [usageOf, hkind, hcall, hmissing, unwritten, Except.toOption]
      · rw [hinteraction, hmissing]
        rfl
    next tool hfound =>
      let occasion : Occasion := ⟨w.surroundings.clock.now, w.history⟩
      -- The call is noted before the output is looked at; only then is the tool remembered.
      refine leaves_bind (a := occasion) rfl (leaves_bind (a := ()) rfl ?_)
      have husage : usageOf w task =
          (toolOutput task call.name (tool.call occasion call.parameters)).toOption.map
            fun output => (⟨"tool_use", .text call.name⟩, output) := by
        simp only [usageOf, hkind, hcall]
        show (w.registry.tool? call.name).bind _ = _
        rw [hfound]
        exact Option.map_eq_bind.symm
      rw [husage]
      cases toolOutput task call.name (tool.call occasion call.parameters) with
      | error fault => exact leaves_of_run_eq_error rfl rfl rfl
      | ok output =>
        refine leaves_bind (a := output) rfl ?_
        exact leaves_concludeUse _ _ _ output rfl rfl fun _ => by rw [hinteraction, hfound]; rfl

/-- The use of a plugin is left behind if its output cannot be written. -/
theorem leaves_runPlugin (hkind : task.kind = .plugin) :
    Leaves w task ref (unwritten (usageOf w task)) (runPlugin task ref) w := by
  have hinteraction : ∀ output, interactionOf w.registry task output =
      (w.registry.plugin? (pluginName task)).map fun _ =>
        ⟨"plugin_use", .text (pluginName task)⟩ := by
    intro output
    simp only [interactionOf, hkind]
  refine leaves_bind (a := w) rfl ?_
  split
  next hmissing =>
    refine leaves_of_run_eq_ok rfl ?_ ?_
    · simp [usageOf, hkind, hmissing, unwritten]
    · rw [hinteraction, hmissing]
      rfl
  next plugin hfound =>
    let occasion : Occasion := ⟨w.surroundings.clock.now, w.history⟩
    refine leaves_bind (a := occasion) rfl (leaves_bind (a := ()) rfl ?_)
    have husage : usageOf w task =
        (plugin.execute occasion task.input task.parameters).toOption.map
          fun output => (⟨"plugin_use", .text (pluginName task)⟩, output) := by
      simp only [usageOf, hkind]
      show (w.registry.plugin? (pluginName task)).bind _ = _
      rw [hfound]
      exact Option.map_eq_bind.symm
    rw [husage]
    -- A plugin that raised a fault is not remembered.
    cases plugin.execute occasion task.input task.parameters with
    | error fault => exact leaves_of_run_eq_error rfl rfl rfl
    | ok output =>
      refine leaves_concludeUse _ _ _ output rfl rfl fun _ => ?_
      rw [hinteraction, hfound]
      rfl

variable [Time τ] [Backend σ τ]

/-- Asking the backend leaves all agents alone. -/
theorem sameAgents_ask : AskLaw (SameAgents (σ := σ) (τ := τ)) :=
  ⟨fun _ _ => rfl, fun _ _ _ _ _ => rfl, fun _ _ _ _ _ => rfl, fun _ _ _ _ => rfl⟩

/-- Whatever the kind of a task is, the work on it leaves the trace of that kind. -/
theorem leaves_perform (task : Task) (ref : Ref Agent) (context : Option String) (w : World σ τ) :
    Leaves w task ref (leftBehind w context task) (perform task ref context) w := by
  unfold leftBehind
  cases hcheck : w.surroundings.check context (some task.id) with
  | error fault => exact leaves_of_run_eq_error (run_perform_stopped ref hcheck) rfl rfl
  | ok _ =>
    have hlive : (check context (some task.id) : Run σ τ Unit).run w = .ok () w := by
      rw [run_check, run_lift, hcheck]
    -- Looking at the context and at the agent changes nothing; what is left is the work itself.
    refine leaves_bind hlive (leaves_bind (run_agent w ref) ?_)
    have hinference : task.kind = .generate ∨ task.kind = .chat ∨ task.kind = .embed →
        unwritten (usageOf w task) = none ∧
          ∀ output, interactionOf w.registry task output = none := by
      rintro (h | h | h) <;> simp only [interactionOf, usageOf, unwritten, h] <;> simp
    cases hkind : task.kind with
    | generate =>
      obtain ⟨hleft, hnone⟩ := hinference (.inl hkind)
      exact leaves_of_same (sameAgents_ask.runGenerate task _ context w) hleft hnone
    | chat =>
      obtain ⟨hleft, hnone⟩ := hinference (.inr (.inl hkind))
      exact leaves_of_same (sameAgents_ask.runChat task _ context w) hleft hnone
    | embed =>
      obtain ⟨hleft, hnone⟩ := hinference (.inr (.inr hkind))
      exact leaves_of_same (sameAgents_ask.runEmbed task _ context w) hleft hnone
    | tool => exact leaves_runTool hkind
    | plugin => exact leaves_runPlugin hkind
    | reflect =>
      refine leaves_of_run_eq_ok rfl ?_ ?_ <;> simp only [interactionOf, usageOf, hkind] <;> rfl
    | custom =>
      refine leaves_of_run_eq_ok rfl ?_ ?_ <;> simp only [interactionOf, usageOf, hkind] <;> rfl

end Work

/-! ## The whole execution -/

section SameTask

variable {task later : Task}

/-- Tasks that ask for the same work leave the same trace. -/
theorem interactionOf_of_sameWork (h : SameWork task later) (registry : Registry)
    (output : String) :
    interactionOf registry later output = interactionOf registry task output := by
  simp only [interactionOf, Task.kind, Task.parameter, pluginName, h.label, h.input, h.parameters]

/-- Tasks that ask for the same work make the same use of a capability. -/
theorem usageOf_of_sameWork (h : SameWork task later) (w : World σ τ) :
    usageOf w later = usageOf w task := by
  simp only [usageOf, toolOutput, toolFault, Task.kind, Task.parameter, pluginName, h.id, h.label,
    h.input, h.parameters]

end SameTask

section Execution

variable [Time τ] [Backend σ τ]

/-- Taking the task up and settling what came of it leave the agents to the work in between. -/
theorem agents_execute (ref : Ref Task) (agentRef : Ref Agent) (context : Option String)
    (tracked : Bool) (w : World σ τ) :
    Leaves w (w.tasks.task ref) agentRef (leftBehind w context (w.tasks.task ref))
      (execute ref agentRef context tracked) w := by
  obtain ⟨tasks, scope, journal, hworld⟩ := worldAfter_execute ref agentRef context tracked w
  set w₀ := takenUp w ref agentRef tracked
  set work : Run σ τ TaskResult := workOf w ref agentRef context tracked
  have hsame : SameWork (w.tasks.task ref) (w₀.tasks.task ref) :=
    sameWork_tasksTakenUp w.tasks ref ref _ tracked
  have hleft : leftBehind w₀ context (w₀.tasks.task ref) =
      leftBehind w context (w.tasks.task ref) := by
    rw [leftBehind, hsame.id, usageOf_of_sameWork hsame]
    rfl
  have hwork : Leaves w₀ (w₀.tasks.task ref) agentRef _ work w₀ :=
    leaves_perform _ agentRef context w₀
  rw [hleft] at hwork
  unfold Leaves at hwork ⊢
  rw [hworld]
  dsimp only
  generalize (worldAfter work w₀).agents = agents at hwork ⊢
  cases houtcome : outcomeOf work w₀ with
  | error fault =>
    rw [outcomeOf_execute_of_error houtcome]
    rw [houtcome] at hwork
    cases hwork with
    | failed hagents => exact .failed hagents
  | ok result =>
    -- The result is timed, but keeps its output, and the task still asks for the same work.
    obtain ⟨millis, htimed⟩ := outcomeOf_execute_of_ok houtcome
    rw [htimed]
    rw [houtcome] at hwork
    cases hwork with
    | returned hleft hagents =>
      rw [interactionOf_of_sameWork hsame] at hagents
      exact .returned hleft hagents

/-- What an execution leaves of the agents, when the agent that carries the task out is live. -/
structure AgentsLeft (w : World σ τ) (agentRef : Ref Agent) (interaction : Option Interaction)
    (agents : AgentStore) : Prop where
  index : agents.index = w.agents.index
  others : ∀ other, other ≠ agentRef → agents.agent other = w.agents.agent other
  self : agents.agent agentRef = match interaction with
    | none => w.agents.agent agentRef
    | some interaction =>
      (w.agents.agent agentRef).record w.surroundings.clock.now interaction.key interaction.value

omit [Time τ] [Backend σ τ] in
/-- An interaction that is recorded changes the one agent that remembers it. -/
theorem agentsLeft_remembering {w : World σ τ} {agentRef : Ref Agent}
    (hlive : w.agents.live.Has agentRef) (interaction : Option Interaction) :
    AgentsLeft w agentRef interaction
      (remembering w.agents agentRef w.surroundings.clock.now interaction) := by
  cases interaction with
  | none => exact ⟨rfl, fun _ _ => rfl, rfl⟩
  | some interaction =>
    exact ⟨rfl, fun _ hother => Live.get_set_of_ne _ _ hother, Live.get_set_self _ _ hlive⟩

/-- The agents are as they should be after a task has come to an outcome. If it has failed, then
every agent is as it was. If it has succeeded, then no other agent has changed, and the agent that
carried the task out remembers one interaction more, the one that belongs to the kind of the task,
or none if there is none. -/
def DulyLeft (w : World σ τ) (agentRef : Ref Agent) (task : Task)
    (outcome : Except Fault TaskResult) (agents : AgentStore) : Prop :=
  match outcome with
  | .error _ => agents = w.agents
  | .ok result => AgentsLeft w agentRef (interactionOf w.registry task result.output) agents

/-- **What agents remember of an execution.** Whatever the task, the capabilities and the backend
are: an execution leaves the agents as it should, unless the task is given an output that cannot be
written. Then the execution fails, and the agent remembers that it has used the capability. -/
theorem agents_of_execution {w : World σ τ} (ref : Ref Task) {agentRef : Ref Agent}
    (context : Option String) (tracked : Bool) (hlive : w.agents.live.Has agentRef) :
    let task := w.tasks.task ref
    let outcome := outcomeOf (execute ref agentRef context tracked) w
    let w' := worldAfter (execute ref agentRef context tracked) w
    (leftBehind w context task = none → DulyLeft w agentRef task outcome w'.agents) ∧
      ∀ interaction, leftBehind w context task = some interaction →
        (∃ fault, outcome = .error fault) ∧ AgentsLeft w agentRef (some interaction) w'.agents := by
  intro task outcome w'
  have htraced : Traced w task agentRef (leftBehind w context task) outcome w'.agents :=
    agents_execute ref agentRef context tracked w
  generalize outcome = outcome, w'.agents = agents at htraced ⊢
  cases htraced with
  | failed hagents =>
    refine ⟨fun hnone => ?_, fun interaction hleft => ⟨⟨_, rfl⟩, ?_⟩⟩
    · rw [hnone] at hagents
      exact hagents
    · rw [hagents, hleft]
      exact agentsLeft_remembering hlive _
  | returned hleft hagents =>
    refine ⟨fun _ => ?_, fun interaction hsome => nomatch hleft.symm.trans hsome⟩
    rw [DulyLeft, hagents]
    exact agentsLeft_remembering hlive _

end Execution

/-- The helper remembers the custom task that it has acknowledged, and nothing of the text that it
could not generate. -/
theorem agents_of_execution_smallEngine :
    smallEngine.agents.live.Has ⟨0⟩ ∧
      (∃ result, outcomeOf (execute ⟨0⟩ ⟨0⟩ none true) smallEngine = .ok result ∧
        AgentsLeft smallEngine ⟨0⟩ (some ⟨"custom_task", .text ""⟩)
          (worldAfter (execute ⟨0⟩ ⟨0⟩ none true) smallEngine).agents) ∧
      ∃ fault, outcomeOf (execute ⟨1⟩ ⟨0⟩ none true) smallEngine = .error fault ∧
        (worldAfter (execute ⟨1⟩ ⟨0⟩ none true) smallEngine).agents = smallEngine.agents := by
  have hlive : smallEngine.agents.live.Has ⟨0⟩ := Nat.zero_lt_one
  exact ⟨hlive, ⟨_, rfl, (agents_of_execution ⟨0⟩ none true hlive).1 rfl⟩,
    ⟨_, rfl, (agents_of_execution ⟨1⟩ none true hlive).1 rfl⟩⟩

/-! ## A use that stays behind -/

/-- A plugin that counts far. -/
def farCounter : Plugin where
  name := "count"
  description := "Counts far"
  execute _ _ _ := .ok (.int leastOverlong)

/-- A task for the plugin. -/
def farCount : Task where
  id := "far"
  label := "plugin"
  parameters := [("plugin_name", .text "count")]
  createdAt := .utc 0

/-- The small engine with the plugin and the task for it. -/
def countingEngine : World (Scripted.Script Rat) Rat :=
  { smallEngine with
    registry := { plugins := [("count", farCounter)] }
    tasks := { live := ⟨[farCount]⟩ } }

theorem leftBehind_countingEngine :
    leftBehind countingEngine none (countingEngine.tasks.task ⟨0⟩) =
      some ⟨"plugin_use", .text "count"⟩ := by
  have husage : usageOf countingEngine (countingEngine.tasks.task ⟨0⟩) =
      some (⟨"plugin_use", .text "count"⟩, .int leastOverlong) := rfl
  have hoverlong : (Value.int leastOverlong).overlong = true := isOverlong_leastOverlong
  have hopen : countingEngine.surroundings.check none
      (some (countingEngine.tasks.task ⟨0⟩).id) = .ok () := rfl
  rw [leftBehind, hopen]
  simp only [husage, unwritten, hoverlong, if_true]

/-- The task has failed, and the helper still remembers that it has used the plugin. -/
theorem left_behind_countingEngine :
    (∃ fault, outcomeOf (execute ⟨0⟩ ⟨0⟩ none true) countingEngine = .error fault) ∧
      ¬ DulyLeft countingEngine ⟨0⟩ (countingEngine.tasks.task ⟨0⟩)
        (outcomeOf (execute ⟨0⟩ ⟨0⟩ none true) countingEngine)
        (worldAfter (execute ⟨0⟩ ⟨0⟩ none true) countingEngine).agents := by
  have hleaves := agents_execute ⟨0⟩ ⟨0⟩ none true countingEngine
  rw [leftBehind_countingEngine] at hleaves
  unfold Leaves at hleaves
  generalize outcomeOf (execute ⟨0⟩ ⟨0⟩ none true) countingEngine = outcome,
    (worldAfter (execute ⟨0⟩ ⟨0⟩ none true) countingEngine).agents = agents at hleaves ⊢
  cases hleaves with
  | failed hagents =>
    refine ⟨⟨_, rfl⟩, fun hduly => ?_⟩
    have hstate : (agents.agent ⟨0⟩).state = none := by
      rw [show agents = countingEngine.agents from hduly]
      rfl
    rw [hagents] at hstate
    cases hstate
  | returned hleft => cases hleft

end Engine

end Orchestration
