import Orchestration.Proofs.Outcome

/-!
# Answers that depend on nothing but the call

A backend is impartial if what it answers depends on nothing but the arguments of the call, as long
as the context of the call does not say stop (`Impartial`). Tools and plugins are impartial if they
do not look at the occasion on which they are called. Then nothing that happens elsewhere has an
influence on what comes of a task: not the time, not the calls that were made before, and not what
the agent has done meanwhile, unless the task asks the agent to look back.

The main statement is `untimed_execute_of_peers`.
-/

namespace Orchestration

variable {σ τ : Type}

/-! ## Impartial answers -/

section Backends

variable [Time τ]

/-- The context, if there is one, does not say stop. -/
def Surroundings.Open (s : Surroundings τ) (context : Option String) : Prop :=
  (s.context context).stopped s.clock.reading = false

/-- Work on behalf of an open context is not refused. -/
theorem Surroundings.Open.check {s : Surroundings τ} {context : Option String}
    (h : s.Open context) (taskId : Option String) : s.check context taskId = .ok () := by
  rw [Surroundings.Open, CallContext.stopped, Bool.or_eq_false_iff] at h
  simp [Surroundings.check, CallContext.check, h]

/-- A context on behalf of which work is not refused is open. -/
theorem Surroundings.open_of_check {s : Surroundings τ} {context taskId : Option String}
    (h : s.check context taskId = .ok ()) : s.Open context := by
  unfold Surroundings.check CallContext.check at h
  rw [Surroundings.Open, CallContext.stopped, Bool.or_eq_false_iff]
  split at h
  · cases h
  next hcancelled =>
    split at h
    · cases h
    next hexpired => exact ⟨eq_false_of_ne_true hcancelled, eq_false_of_ne_true hexpired⟩

/-- Nobody can stop a call without a context. -/
theorem Surroundings.open_none (s : Surroundings τ) : s.Open none := rfl

/-- The context is open when the call is made, and after whatever happens meanwhile. -/
def Answer.Undisturbed {α : Type} (context : Option String) (s : Surroundings τ)
    (answer : Answer σ τ α) : Prop :=
  s.Open context ∧ (s.applyAll answer.effects).Open context

/-- The answer to an undisturbed call is the same in all good states and all surroundings, and it
leaves a good state. -/
structure Unbiased {α : Type} (good : σ → Prop) (context : Option String)
    (answer : σ → Surroundings τ → Answer σ τ α) : Prop where
  backend : ∀ {b}, good b → ∀ s, good (answer b s).backend
  value : ∀ {b b' : σ} {s s' : Surroundings τ}, good b → good b' →
    (answer b s).Undisturbed context s → (answer b' s').Undisturbed context s' →
    (answer b' s').value = (answer b s).value

/-- The backend is unbiased whatever it is asked. -/
structure Impartial (τ : Type) [Time τ] [Backend σ τ] (good : σ → Prop) : Prop where
  generate : ∀ context model prompt options, Unbiased good context fun b (s : Surroundings τ) =>
    Backend.generate b s context model prompt options
  chat : ∀ context model turns options, Unbiased good context fun b (s : Surroundings τ) =>
    Backend.chat b s context model turns options
  embed : ∀ context model text, Unbiased good context fun b (s : Surroundings τ) =>
    Backend.embed b s context model text

end Backends

/-! ## Scripted backends -/

section Scripts

variable [Time τ]

/-- A stream that does nothing to its surroundings is the same for all open contexts. -/
theorem StreamEvent.consume_of_open {events : List (StreamEvent τ)}
    (hquiet : ∀ effect, .effect effect ∉ events) {s s' : Surroundings τ} {context : Option String}
    (h : s.Open context) (h' : s'.Open context) (limit : Option Nat) :
    consume s' context limit events = consume s context limit events := by
  induction events generalizing limit with
  | nil => rfl
  | cons event rest ih =>
    have hrest := ih fun effect hmem => hquiet effect (List.mem_cons_of_mem _ hmem)
    cases event with
    | effect effect => exact absurd List.mem_cons_self (hquiet effect)
    | chunk made => simp only [consume, h.check, h'.check, hrest]
    | fail fault => rfl

/-- A script whose stages do nothing to their surroundings is impartial, and it never changes. -/
theorem Scripted.impartial_script {script : Script τ}
    (h : ∀ model prompt, (script.reply model prompt).opening = [] ∧
      ∀ effect, .effect effect ∉ (script.reply model prompt).stream) :
    Impartial τ (· = script) := by
  have hstream : ∀ context model prompt, Unbiased (· = script) context
      fun (script : Script τ) s => script.stream s context model prompt := by
    intro context model prompt
    obtain ⟨hopening, hquiet⟩ := h model prompt
    -- Neither the stream nor the fault that ends it has an effect on the outside.
    have hevents : ∀ effect, StreamEvent.effect effect ∉ (script.reply model prompt).stream ++
        ((script.reply model prompt).failure.map StreamEvent.fail).toList := by
      intro effect hmem
      rcases List.mem_append.mp hmem with hevent | hending
      · exact hquiet effect hevent
      · simp at hending
    refine ⟨?_, ?_⟩
    · rintro _ rfl s
      unfold Script.stream
      dsimp only
      split <;> rfl
    · rintro _ _ s s' rfl rfl ⟨hopen, -⟩ ⟨hopen', -⟩
      unfold Script.stream
      dsimp only
      split
      · rfl
      · have hconsume := StreamEvent.consume_of_open hevents hopen hopen' none
        simp only [hopening, Surroundings.applyAll, List.foldl_nil, hconsume]
  refine ⟨fun context model prompt _ => hstream context model prompt,
    fun context model turns _ => hstream context model (lastTurn turns), fun _ model text => ?_⟩
  exact ⟨fun h _ => h, by rintro _ _ _ _ rfl rfl - -; rfl⟩

end Scripts

/-! ## Impartial capabilities -/

/-- No capability looks at the occasion on which it is called. -/
structure Registry.Impartial (registry : Registry) : Prop where
  tool : ∀ {name tool}, registry.tool? name = some tool → ∀ occasion occasion' parameters,
    tool.call occasion' parameters = tool.call occasion parameters
  plugin : ∀ {name plugin}, registry.plugin? name = some plugin →
    ∀ occasion occasion' input parameters,
      plugin.execute occasion' input parameters = plugin.execute occasion input parameters

/-- The agent without its memories. -/
def Agent.stateless (agent : Agent) : Agent :=
  { agent with state := none }

/-- What an agent records is a matter of its memories only. -/
theorem Agent.stateless_record (agent : Agent) (now : Moment) (key : String) (value : Value) :
    (agent.record now key value).stateless = agent.stateless := rfl

/-- The result without the time that the task took. -/
def TaskResult.untimed (result : TaskResult) : TaskResult :=
  { result with metrics := { result.metrics with durationMs := none } }

namespace Engine

/-! ## Peers -/

/-- The second world offers an agent the same capabilities as the first one, and a backend that is
good if the first one is. The agent itself may remember other things. -/
structure Peers (good : σ → Prop) (ref : Ref Agent) (w v : World σ τ) : Prop where
  registry : v.registry = w.registry
  agent : (v.agents.agent ref).stateless = (w.agents.agent ref).stateless
  backend : good w.backend → good v.backend

variable {good : σ → Prop} {ref : Ref Agent} {context : Option String}

instance : IsPreorder (World σ τ) (Peers good ref) where
  refl _ := ⟨rfl, rfl, id⟩
  trans _ _ _ h h' := ⟨h'.registry.trans h.registry, h'.agent.trans h.agent, h'.backend ∘ h.backend⟩

namespace Peers

variable {w v : World σ τ} (h : Peers good ref w v)

include h

/-- The agent has the same models. -/
theorem modelFor (task : Task) :
    modelFor task (v.agents.agent ref) = modelFor task (w.agents.agent ref) := by
  have hsame := congrArg (Engine.modelFor task) h.agent
  exact hsame

/-- The agent acknowledges a task in the same words. -/
theorem acknowledgement (task : Task) :
    acknowledgement task (v.agents.agent ref) = acknowledgement task (w.agents.agent ref) := by
  have hsame := congrArg (Engine.acknowledgement task) h.agent
  exact hsame

end Peers

section Work

variable [Time τ] [Backend σ τ]

/-- The work on a task leaves a peer: a good backend stays good, and of all agents nothing but
memories changes. -/
theorem peers_perform (himpartial : Impartial τ good) (task : Task) (agentRef : Ref Agent)
    (context : Option String) :
    Guarantees (Peers good ref) (perform task agentRef context : Run σ τ TaskResult) :=
  have law : WorkLaw (Peers (σ := σ) (τ := τ) good ref) := {
    called := fun _ _ => ⟨rfl, rfl, id⟩
    generate := fun _ context model prompt options =>
      ⟨rfl, rfl, fun h => (himpartial.generate context model prompt options).backend h _⟩
    chat := fun _ context model turns options =>
      ⟨rfl, rfl, fun h => (himpartial.chat context model turns options).backend h _⟩
    embed := fun _ context model text =>
      ⟨rfl, rfl, fun h => (himpartial.embed context model text).backend h _⟩
    logged := fun _ _ => ⟨rfl, rfl, id⟩
    recorded := fun w other now key value =>
      ⟨rfl, Live.proj_get_modify w.agents.live other
        (fun agent => agent.stateless_record now key value) ref, id⟩ }
  law.perform task agentRef context

/-! ## What comes of the work -/

/-- The operation has the same outcome in two worlds in which the context is open all the time. -/
def Agrees {α : Type} (context : Option String) (run : Run σ τ α) (w v : World σ τ) : Prop :=
  w.surroundings.Open context → (worldAfter run w).surroundings.Open context →
  v.surroundings.Open context → (worldAfter run v).surroundings.Open context →
    outcomeOf run v = outcomeOf run w

omit [Backend σ τ] in
/-- What comes of a question to an unbiased backend is the same everywhere. -/
theorem agrees_ask {α β : Type} {answer : σ → Surroundings τ → Answer σ τ α}
    (hunbiased : Unbiased good context answer) {w v : World σ τ} (hw : good w.backend)
    (hv : good v.backend) (call : Call) {next : α → Run σ τ β} {read : α → Except Fault β}
    (hnext : ∀ a, next a = lift (read a)) :
    Agrees context (ask call answer >>= next) w v := by
  obtain rfl : next = fun a => lift (read a) := funext hnext
  intro hopen hopen' hopen₁ hopen₁'
  rw [worldAfter_ask_lift] at hopen' hopen₁'
  have hvalue := hunbiased.value hw hv ⟨hopen, hopen'⟩ ⟨hopen₁, hopen₁'⟩
  rw [outcomeOf_ask_lift, outcomeOf_ask_lift, hvalue]

omit [Backend σ τ] in
/-- A fault that comes up without the world is the same everywhere. -/
theorem agrees_lift_bind {α β : Type} (result : Except Fault α) {next : α → Run σ τ β}
    {w v : World σ τ} (h : ∀ a, result = .ok a → Agrees context (next a) w v) :
    Agrees context (lift result >>= next) w v := by
  cases result with
  | ok a => exact h a rfl
  | error fault => exact fun _ _ _ _ => rfl

section Capabilities

omit [Backend σ τ]

variable {w v : World σ τ} {task : Task}

omit [Time τ] in
/-- What a capability can see of the world is the time and the calls before. -/
theorem outcomeOf_occasion_bind {α : Type} (next : Occasion → Run σ τ α) (w : World σ τ) :
    outcomeOf (occasion >>= next) w =
      outcomeOf (next ⟨w.surroundings.clock.now, w.history⟩) w := rfl

/-- A tool that does not look at the occasion gives the same everywhere. -/
theorem agrees_runTool (hregistry : w.registry.Impartial) (hsame : v.registry = w.registry) :
    Agrees context (runTool task ref) w v := by
  refine agrees_lift_bind _ fun call _ _ _ _ _ => ?_
  rw [outcomeOf_bind, outcomeOf_bind]
  dsimp only [EStateM.run_get]
  rw [hsame]
  cases htool : w.registry.tool? call.name with
  | none => rfl
  | some tool =>
    dsimp only
    rw [outcomeOf_occasion_bind, outcomeOf_occasion_bind,
      hregistry.tool htool ⟨w.surroundings.clock.now, w.history⟩]
    cases toolOutput task call.name
        (tool.call ⟨w.surroundings.clock.now, w.history⟩ call.parameters) with
    | error fault => rfl
    | ok output => exact (outcomeOf_concludeUse ..).trans (outcomeOf_concludeUse ..).symm

/-- A plugin that does not look at the occasion gives the same everywhere. -/
theorem agrees_runPlugin (hregistry : w.registry.Impartial) (hsame : v.registry = w.registry) :
    Agrees context (runPlugin task ref) w v := by
  intro _ _ _ _
  unfold runPlugin
  rw [outcomeOf_bind, outcomeOf_bind]
  dsimp only [EStateM.run_get]
  rw [hsame]
  cases hplugin : w.registry.plugin? (pluginName task) with
  | none => rfl
  | some plugin =>
    dsimp only
    rw [outcomeOf_occasion_bind, outcomeOf_occasion_bind,
      hregistry.plugin hplugin ⟨w.surroundings.clock.now, w.history⟩]
    cases plugin.execute ⟨w.surroundings.clock.now, w.history⟩ task.input task.parameters with
    | error fault => rfl
    | ok output => exact (outcomeOf_concludeUse ..).trans (outcomeOf_concludeUse ..).symm

end Capabilities

/-- The work on a task that an agent gets to do when its context is open. -/
def carriedOut (task : Task) (ref : Ref Agent) (agent : Agent) (context : Option String) :
    Run σ τ TaskResult :=
  match task.kind with
  | .generate => runGenerate task agent context
  | .chat => runChat task agent context
  | .embed => runEmbed task agent context
  | .tool => runTool task ref
  | .reflect => runReflect task ref agent
  | .plugin => runPlugin task ref
  | .custom => runCustom task ref agent

/-- Work on behalf of an open context is done. -/
theorem run_perform_of_open {w : World σ τ} (h : w.surroundings.Open context) (task : Task)
    (ref : Ref Agent) :
    (perform task ref context).run w =
      (carriedOut task ref (w.agents.agent ref) context : Run σ τ TaskResult).run w := by
  rw [perform, EStateM.run_bind, run_check, run_lift, h.check]
  rfl

variable {w v : World σ τ} {task : Task}

/-- An agent does the same work whatever it remembers, unless it looks back. -/
theorem carriedOut_of_peers (hpeers : Peers good ref w v) (hkind : task.kind ≠ .reflect) :
    (carriedOut task ref (v.agents.agent ref) context : Run σ τ TaskResult) =
      carriedOut task ref (w.agents.agent ref) context := by
  unfold carriedOut
  cases h : task.kind with
  | generate => simp only [runGenerate, hpeers.modelFor]
  | chat => simp only [runChat, hpeers.modelFor]
  | embed => simp only [runEmbed, hpeers.modelFor]
  | tool => rfl
  | reflect => exact absurd h hkind
  | plugin => rfl
  | custom => simp only [runCustom, hpeers.acknowledgement]

/-- The same work has the same outcome among peers. -/
theorem agrees_carriedOut (himpartial : Impartial τ good) (hregistry : w.registry.Impartial)
    (hpeers : Peers good ref w v) (hgood : good w.backend) (agent : Agent) :
    Agrees context (carriedOut task ref agent context) w v := by
  have hgood' := hpeers.backend hgood
  unfold carriedOut
  cases task.kind with
  | generate =>
    refine agrees_lift_bind _ fun model _ => ?_
    exact agrees_ask (himpartial.generate _ _ _ _) hgood hgood' _ fun _ => rfl
  | chat =>
    refine agrees_lift_bind _ fun model _ => agrees_lift_bind _ fun turns _ => ?_
    exact agrees_ask (himpartial.chat _ _ _ _) hgood hgood' _ fun _ => rfl
  | embed =>
    refine agrees_lift_bind _ fun model _ => ?_
    exact agrees_ask (himpartial.embed _ _ _) hgood hgood' _ fun vector =>
      show _ = lift (embedded task model vector) by cases vector <;> rfl
  | tool => exact agrees_runTool hregistry hpeers.registry
  | reflect => exact fun _ _ _ _ => rfl
  | plugin => exact agrees_runPlugin hregistry hpeers.registry
  | custom => exact fun _ _ _ _ => rfl

/-- **The work of peers.** What comes of the work on a task that does not look back is the same
among peers, as long as nobody stops it. -/
theorem agrees_perform (himpartial : Impartial τ good) (hregistry : w.registry.Impartial)
    (hpeers : Peers good ref w v) (hgood : good w.backend) (hkind : task.kind ≠ .reflect) :
    Agrees context (perform task ref context) w v := by
  intro hopen hopen' hopen₁ hopen₁'
  have hrun := run_perform_of_open hopen task ref
  have hrun₁ := run_perform_of_open hopen₁ task ref
  rw [carriedOut_of_peers hpeers hkind] at hrun₁
  have hagrees : Agrees context (carriedOut task ref (w.agents.agent ref) context) w v :=
    agrees_carriedOut himpartial hregistry hpeers hgood _
  simp only [outcomeOf, worldAfter, hrun, hrun₁] at hopen' hopen₁' ⊢
  exact hagrees hopen hopen' hopen₁ hopen₁'

/-! ## Whole executions -/

/-- The outcome without the time that the task took. -/
def untimed (outcome : Except Fault TaskResult) : Except Fault TaskResult :=
  outcome.map TaskResult.untimed

/-- An execution leaves a peer. -/
theorem peers_execute (himpartial : Impartial τ good) (taskRef : Ref Task) (agentRef : Ref Agent)
    (context : Option String) (tracked : Bool) :
    Guarantees (Peers good ref)
      (execute taskRef agentRef context tracked : Run σ τ TaskResult) := by
  intro w
  obtain ⟨tasks, scope, journal, hworld⟩ := worldAfter_execute taskRef agentRef context tracked w
  let w₀ := takenUp w taskRef agentRef tracked
  have hwork : Peers good ref w₀ (worldAfter (workOf w taskRef agentRef context tracked) w₀) :=
    peers_perform himpartial _ _ _ w₀
  rw [hworld]
  exact ⟨hwork.registry, hwork.agent, hwork.backend⟩

/-- **Executions among peers.** What comes of a task that does not look back is the same among
peers, but for the time that it takes, as long as nobody stops it. -/
theorem untimed_execute_of_peers (himpartial : Impartial τ good)
    (hregistry : w.registry.Impartial) (hpeers : Peers good ref w v) (hgood : good w.backend)
    {taskRef : Ref Task} (htask : v.tasks.task taskRef = w.tasks.task taskRef)
    (hlive : w.tasks.live.Has taskRef) (hlive' : v.tasks.live.Has taskRef)
    (hkind : (w.tasks.task taskRef).kind ≠ .reflect) {tracked : Bool}
    (hopen : w.surroundings.Open context)
    (hopen' : (worldAfter (execute taskRef ref context tracked) w).surroundings.Open context)
    (hopen₁ : v.surroundings.Open context)
    (hopen₁' : (worldAfter (execute taskRef ref context tracked) v).surroundings.Open context) :
    untimed (outcomeOf (execute taskRef ref context tracked) v) =
      untimed (outcomeOf (execute taskRef ref context tracked) w) := by
  -- Both take the task up as the same one.
  have hid : (v.agents.agent ref).id = (w.agents.agent ref).id := by
    have hsame := congrArg Agent.id hpeers.agent
    exact hsame
  have htaken : (takenUp v taskRef ref tracked).tasks.task taskRef =
      (takenUp w taskRef ref tracked).tasks.task taskRef := by
    simp only [takenUp]
    rw [task_tasksTakenUp_self hlive', task_tasksTakenUp_self hlive, htask, hid]
  have hwork : (workOf v taskRef ref context tracked : Run σ τ TaskResult) =
      workOf w taskRef ref context tracked := by
    simp only [workOf, htaken]
  have hlabel :=
    (sameWork_tasksTakenUp w.tasks taskRef taskRef (w.agents.agent ref).id tracked).label
  have hkind' : ((takenUp w taskRef ref tracked).tasks.task taskRef).kind ≠ .reflect := by
    simpa only [Task.kind, takenUp, hlabel] using hkind
  have hpeers' : Peers good ref (takenUp w taskRef ref tracked) (takenUp v taskRef ref tracked) :=
    ⟨hpeers.registry, hpeers.agent, hpeers.backend⟩
  obtain ⟨_, _, _, hworld⟩ := worldAfter_execute taskRef ref context tracked w
  obtain ⟨_, _, _, hworld'⟩ := worldAfter_execute taskRef ref context tracked v
  rw [hworld] at hopen'
  rw [hworld', hwork] at hopen₁'
  have hagrees : Agrees context (workOf w taskRef ref context tracked)
      (takenUp w taskRef ref tracked) (takenUp v taskRef ref tracked) :=
    agrees_perform himpartial hregistry hpeers' hgood hkind'
  have hsame := hagrees hopen hopen' hopen₁ hopen₁'
  cases hout : outcomeOf (workOf w taskRef ref context tracked) (takenUp w taskRef ref tracked) with
  | error fault =>
    rw [outcomeOf_execute_of_error hout, outcomeOf_execute_of_error (hwork ▸ hsame.trans hout),
      htaken]
  | ok result =>
    obtain ⟨millis, htimed⟩ := outcomeOf_execute_of_ok hout
    obtain ⟨millis', htimed'⟩ := outcomeOf_execute_of_ok (hwork ▸ hsame.trans hout)
    rw [htimed, htimed']
    rfl

end Work

end Engine

end Orchestration
