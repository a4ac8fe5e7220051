import Orchestration.Engine.Execution
import Orchestration.Proofs.Run

/-!
# The ground of the work on a task

What comes of the work on a task depends on nothing but the surroundings, the backend, the registry,
the agents, and the calls that were made. In two worlds where these are the same (`SameGround`), it
has the same outcome, and they are the same when it has ended.

This is said of operations in general first: an operation respects a relation between worlds if it
has the same outcome in related worlds, and leaves related worlds (`Respects`). The work on a task
respects every relation between worlds on the same ground that its steps preserve (`GroundLaw`).

The main statement is `GroundLaw.perform`.
-/

namespace Orchestration.Engine

variable {σ τ α β : Type} {R : World σ τ → World σ τ → Prop}

/-- The operation has the same outcome in related worlds, and leaves related worlds. -/
def Respects (R : World σ τ → World σ τ → Prop) (run : Run σ τ α) : Prop :=
  ∀ w w', R w w' → outcomeOf run w' = outcomeOf run w ∧ R (worldAfter run w) (worldAfter run w')

/-! ## How operations that respect a relation are put together -/

theorem respects_pure (a : α) : Respects R (pure a : Run σ τ α) :=
  fun _ _ h => ⟨rfl, h⟩

theorem respects_throw (fault : Fault) : Respects R (throw fault : Run σ τ α) :=
  fun _ _ h => ⟨rfl, h⟩

/-- A result that is there already does not depend on the world. -/
theorem respects_lift (result : Except Fault α) : Respects R (lift result : Run σ τ α) := by
  intro w w' h
  cases result <;> exact ⟨rfl, h⟩

/-- An operation that only reads respects the relation if it reads the same in related worlds. -/
theorem respects_of_read {run : Run σ τ α} (read : World σ τ → α)
    (hrun : ∀ w, run.run w = .ok (read w) w) (h : ∀ w w', R w w' → read w' = read w) :
    Respects R run := by
  intro w w' hrelated
  rw [outcomeOf, outcomeOf, worldAfter, worldAfter, hrun, hrun]
  exact ⟨congrArg Except.ok (h w w' hrelated), hrelated⟩

/-- A change respects the relation if it leaves related worlds related. -/
theorem respects_modify {change : World σ τ → World σ τ}
    (h : ∀ w w', R w w' → R (change w) (change w')) :
    Respects R (modify change : Run σ τ PUnit) :=
  fun w w' hrelated => ⟨rfl, h w w' hrelated⟩

/-- Two operations respect the relation one after the other: the first one hands on the same result
in related worlds that are still related. -/
theorem Respects.bind {run : Run σ τ α} {next : α → Run σ τ β} (hrun : Respects R run)
    (hnext : ∀ a, Respects R (next a)) : Respects R (run >>= next) := by
  intro w w' hrelated
  obtain ⟨houtcome, hworld⟩ := hrun w w' hrelated
  -- Both runs get to the second operation, or neither does.
  cases hres : outcomeOf run w with
  | ok a =>
    obtain ⟨hfirst, hfirst_world⟩ := bind_of_ok next hres
    obtain ⟨hsecond, hsecond_world⟩ := bind_of_ok next (houtcome.trans hres)
    rw [hfirst, hfirst_world, hsecond, hsecond_world]
    exact hnext a _ _ hworld
  | error fault =>
    obtain ⟨hfirst, hfirst_world⟩ := bind_of_error next hres
    obtain ⟨hsecond, hsecond_world⟩ := bind_of_error next (houtcome.trans hres)
    rw [hfirst, hfirst_world, hsecond, hsecond_world]
    exact ⟨rfl, hworld⟩

/-- The fault of an operation is the same in related worlds, so it can be caught. -/
theorem Respects.attempt {run : Run σ τ α} (h : Respects R run) : Respects R (attempt run) := by
  intro w w' hrelated
  obtain ⟨houtcome, hworld⟩ := h w w' hrelated
  rw [outcomeOf, outcomeOf, worldAfter, worldAfter, run_attempt, run_attempt, houtcome]
  exact ⟨rfl, hworld⟩

/-- Looking at the world respects the relation if what is done next is the same in related
worlds. -/
theorem respects_get {next : World σ τ → Run σ τ β} (hsame : ∀ w w', R w w' → next w' = next w)
    (h : ∀ w, Respects R (next w)) : Respects R (get >>= next) := by
  intro w w' hrelated
  -- The world that is read is not the same, but what is done with it is.
  have hstart : (get >>= next).run w' = (next w).run w' := by
    rw [← hsame w w' hrelated]
    rfl
  have hnext := h w w w' hrelated
  unfold outcomeOf worldAfter at hnext ⊢
  rw [hstart]
  exact hnext

/-! ## The ground -/

/-- Everything that the work on a task looks at is the same in the two worlds. -/
structure SameGround (w w' : World σ τ) : Prop where
  surroundings : w'.surroundings = w.surroundings
  backend : w'.backend = w.backend
  registry : w'.registry = w.registry
  agents : w'.agents = w.agents
  history : w'.history = w.history

/-- Related worlds are on the same ground, and a step that changes both in the same way, or logs
something in each, leaves them related. -/
structure GroundLaw (R : World σ τ → World σ τ → Prop) : Prop where
  ground : ∀ {w w'}, R w w' → SameGround w w'
  called : ∀ {w w'} history, R w w' → R { w with history } { w' with history }
  answered : ∀ {w w'} surroundings backend, R w w' →
    R { w with surroundings, backend } { w' with surroundings, backend }
  recorded : ∀ {w w'} agents, R w w' → R { w with agents } { w' with agents }
  logged : ∀ {w w'} journal journal', R w w' →
    R { w with journal } { w' with journal := journal' }

/-- To be on the same ground is the weakest relation of this sort. -/
theorem groundLaw_sameGround : GroundLaw (SameGround : World σ τ → World σ τ → Prop) where
  ground := id
  called _ h := { h with history := rfl }
  answered _ _ h := { h with surroundings := rfl, backend := rfl }
  recorded _ h := { h with agents := rfl }
  logged _ _ h := { h with }

namespace GroundLaw

/-! ## The steps of the work -/

/-- The agents are part of the ground. -/
theorem agent (law : GroundLaw R) (ref : Ref Agent) : Respects R (agent ref : Run σ τ Agent) :=
  respects_of_read (fun w => w.agents.agent ref) (fun _ => rfl)
    fun _ _ h => by rw [(law.ground h).agents]

/-- The time and the calls that were made are part of the ground. -/
theorem occasion (law : GroundLaw R) : Respects R (occasion : Run σ τ Occasion) :=
  respects_of_read (fun w => ⟨w.surroundings.clock.now, w.history⟩) (fun _ => rfl)
    fun _ _ h => by rw [(law.ground h).surroundings, (law.ground h).history]

theorem log (law : GroundLaw R) (level : Log.Level) (logger message : String) :
    Respects R (log level logger message : Run σ τ Unit) :=
  respects_modify fun _ _ h => law.logged _ _ h

/-- A call is noted behind the same calls. -/
theorem noteCall (law : GroundLaw R) (call : Call) :
    Respects R (noteCall call : Run σ τ Unit) :=
  respects_modify fun w w' h => by
    rw [(law.ground h).history]
    exact law.called _ h

/-- An interaction is recorded at the same time, with the same agent. -/
theorem recordInteraction (law : GroundLaw R) (ref : Ref Agent) (key : String) (value : Value) :
    Respects R (recordInteraction ref key value : Run σ τ Unit) :=
  respects_modify fun w w' h => by
    have hagents : w'.agents.record ref w'.surroundings.clock.now key value =
        w.agents.record ref w.surroundings.clock.now key value := by
      rw [(law.ground h).agents, (law.ground h).surroundings]
    rw [hagents]
    exact law.recorded _ h

/-! ## The kinds of work that ask nothing of the backend -/

/-- Ending the use of a capability does the same on the same ground, whatever was given. -/
theorem concludeUse (law : GroundLaw R) (task : Task) (ref : Ref Agent) (key name words : String)
    (output : Value) :
    Respects R (concludeUse task ref key name words output : Run σ τ TaskResult) :=
  (law.recordInteraction _ _ _).bind fun _ => respects_lift _

/-- A tool is looked up in the same registry, and its use is recorded with the same agent. -/
theorem runTool (law : GroundLaw R) (task : Task) (ref : Ref Agent) :
    Respects R (runTool task ref : Run σ τ TaskResult) := by
  refine (respects_lift _).bind fun call => respects_get (fun w w' h => ?_) fun w => ?_
  · simp only [(law.ground h).registry]
  · split
    · exact (law.log _ _ _).bind fun _ => respects_pure _
    · refine law.occasion.bind fun _ => (law.noteCall _).bind fun _ => ?_
      exact (respects_lift _).bind fun output => law.concludeUse _ _ _ _ _ _

/-- A plugin is looked up in the same registry, and its use is recorded with the same agent. -/
theorem runPlugin (law : GroundLaw R) (task : Task) (ref : Ref Agent) :
    Respects R (runPlugin task ref : Run σ τ TaskResult) := by
  refine respects_get (fun w w' h => ?_) fun w => ?_
  · simp only [(law.ground h).registry]
  · split
    · exact (law.log _ _ _).bind fun _ => respects_pure _
    · refine law.occasion.bind fun _ => (law.noteCall _).bind fun _ => ?_
      split
      · exact respects_throw _
      · exact law.concludeUse _ _ _ _ _ _

/-- A reflection looks at the agent that is handed over, and is recorded with it. -/
theorem runReflect (law : GroundLaw R) (task : Task) (ref : Ref Agent) (agent : Agent) :
    Respects R (runReflect task ref agent : Run σ τ TaskResult) :=
  (law.recordInteraction _ _ _).bind fun _ => respects_pure _

/-- Custom work is only acknowledged, and recorded with the agent. -/
theorem runCustom (law : GroundLaw R) (task : Task) (ref : Ref Agent) (agent : Agent) :
    Respects R (runCustom task ref agent : Run σ τ TaskResult) :=
  (law.recordInteraction _ _ _).bind fun _ => respects_pure _

/-! ## The kinds of work that do -/

variable [Time τ]

/-- Whether the context is over depends on the surroundings only. -/
theorem check (law : GroundLaw R) (context taskId : Option String) :
    Respects R (check context taskId : Run σ τ Unit) := by
  intro w w' h
  have hrun : outcomeOf (Engine.check context taskId) w' =
      outcomeOf (lift (w.surroundings.check context taskId) : Run σ τ Unit) w' ∧
      worldAfter (Engine.check context taskId) w' =
        worldAfter (lift (w.surroundings.check context taskId) : Run σ τ Unit) w' := by
    rw [← (law.ground h).surroundings]
    exact ⟨rfl, rfl⟩
  rw [hrun.1, hrun.2]
  exact respects_lift _ w w' h

/-- The backend is asked in the same state, and leaves the same one. -/
theorem ask (law : GroundLaw R) (call : Call) (answer : σ → Surroundings τ → Answer σ τ α) :
    Respects R (ask call answer) := by
  refine (law.noteCall call).bind fun _ => fun w w' h => ?_
  have hanswer : answer w'.backend w'.surroundings = answer w.backend w.surroundings := by
    rw [(law.ground h).backend, (law.ground h).surroundings]
  have hsurroundings : w'.surroundings.applyAll (answer w'.backend w'.surroundings).effects =
      w.surroundings.applyAll (answer w.backend w.surroundings).effects := by
    rw [hanswer, (law.ground h).surroundings]
  constructor
  · show Except.ok (answer w'.backend w'.surroundings).value = Except.ok _
    rw [hanswer]
  · show R _ { w' with
      surroundings := w'.surroundings.applyAll (answer w'.backend w'.surroundings).effects
      backend := (answer w'.backend w'.surroundings).backend }
    rw [hsurroundings, hanswer]
    exact law.answered _ _ h

variable [Backend σ τ]

/-- A prompt is put to the backend, and the reply collected. -/
theorem runGenerate (law : GroundLaw R) (task : Task) (agent : Agent) (context : Option String) :
    Respects R (runGenerate task agent context : Run σ τ TaskResult) :=
  (respects_lift _).bind fun _ => (law.ask _ _).bind fun _ => respects_lift _

/-- A chat is put to the backend, and the reply collected. -/
theorem runChat (law : GroundLaw R) (task : Task) (agent : Agent) (context : Option String) :
    Respects R (runChat task agent context : Run σ τ TaskResult) :=
  (respects_lift _).bind fun _ => (respects_lift _).bind fun _ =>
    (law.ask _ _).bind fun _ => respects_lift _

/-- The backend is asked for a vector, which is then read. -/
theorem runEmbed (law : GroundLaw R) (task : Task) (agent : Agent) (context : Option String) :
    Respects R (runEmbed task agent context : Run σ τ TaskResult) := by
  refine (respects_lift _).bind fun _ => (law.ask _ _).bind fun vector => ?_
  cases vector with
  | error fault => exact respects_throw _
  | ok vector => exact respects_lift _

/-- **The ground of work.** Whatever the kind of a task is, the work on it has the same outcome in
related worlds and leaves related worlds. -/
theorem perform (law : GroundLaw R) (task : Task) (ref : Ref Agent) (context : Option String) :
    Respects R (perform task ref context : Run σ τ TaskResult) := by
  refine (law.check _ _).bind fun _ => (law.agent ref).bind fun agent => ?_
  cases task.kind with
  | generate => exact law.runGenerate task agent context
  | chat => exact law.runChat task agent context
  | embed => exact law.runEmbed task agent context
  | tool => exact law.runTool task ref
  | reflect => exact law.runReflect task ref agent
  | plugin => exact law.runPlugin task ref
  | custom => exact law.runCustom task ref agent

end GroundLaw

/-! ## Tasks that ask for the same -/

/-- The parameters that the work on a task looks at, when it does not hand all of them to a
plugin. -/
def workParameters : List String :=
  ["options", "messages", "system", "tool", "plugin_name"]

/-- The tasks differ at most in the agent that they belong to and in what their parameters say. -/
def SameButParameters (task other : Task) : Prop :=
  ∃ agentId parameters, other = { task with agentId, parameters }

/-- The tasks ask for the same work: where their parameters differ, no work looks at them. -/
structure AsksSame (task other : Task) : Prop where
  same : SameButParameters task other
  parameter : ∀ name ∈ workParameters, other.parameter name = task.parameter name

namespace AsksSame

variable {task other : Task}

theorem id (h : AsksSame task other) : other.id = task.id := by
  obtain ⟨_, _, rfl⟩ := h.same
  rfl

/-- Tasks that ask the same are of the same kind. -/
theorem kind (h : AsksSame task other) : other.kind = task.kind := by
  obtain ⟨_, _, rfl⟩ := h.same
  rfl

/-- Tasks that ask the same have the same options. -/
theorem optionsOf (h : AsksSame task other) : optionsOf other = optionsOf task := by
  rw [Engine.optionsOf, Engine.optionsOf, h.parameter "options" (by decide)]

/-- Tasks that ask the same have the same turns of a chat. -/
theorem chatTurns (h : AsksSame task other) : chatTurns other = chatTurns task := by
  have hsystem : systemTurn other = systemTurn task := by
    rw [systemTurn, systemTurn, h.parameter "system" (by decide)]
  obtain ⟨_, _, hother⟩ := h.same
  rw [Engine.chatTurns, Engine.chatTurns, hsystem, h.parameter "messages" (by decide), hother]

/-- Tasks that ask the same name the same plugin. -/
theorem pluginName (h : AsksSame task other) : pluginName other = pluginName task := by
  rw [Engine.pluginName, Engine.pluginName, h.parameter "plugin_name" (by decide)]

end AsksSame

section

variable [Time τ] [Backend σ τ] {task other : Task} {w w' : World σ τ}

omit [Time τ] [Backend σ τ] in
/-- A plugin that is not there is missed in the journal, and otherwise makes no difference. -/
theorem run_runPlugin_missing (hmissing : w.registry.plugin? (pluginName task) = none)
    (ref : Ref Agent) :
    (runPlugin task ref : Run σ τ TaskResult).run w =
      (log .warning executorLogger
          ("Plugin " ++ Text.quoted (pluginName task) ++ " not available for task " ++ task.id) >>=
        fun _ => pure {
          taskId := task.id
          output := "Plugin '" ++ pluginName task ++ "' not available" }).run w := by
  rw [runPlugin, EStateM.run_bind, EStateM.run_get]
  dsimp only
  rw [hmissing]

/-- Tasks that ask for the same are the same work, if it does not depend on a plugin. -/
theorem run_dispatch_of_asksSame (h : AsksSame task other)
    (hplugin : task.kind = .plugin → w.registry.plugin? (pluginName task) = none)
    (ref : Ref Agent) (context : Option String) :
    (dispatch other ref context).run w = (dispatch task ref context).run w := by
  have hoptions := h.optionsOf
  have hturns := h.chatTurns
  have htool := h.parameter "tool" (by decide)
  have hname := h.pluginName
  rw [dispatch, dispatch, EStateM.run_bind, EStateM.run_bind, run_agent, h.kind]
  dsimp only
  -- The parameters are looked at by name only, and those that any kind looks at agree. A plugin is
  -- handed all of them, but there is none.
  cases hkind : task.kind with
  | generate =>
    dsimp only
    rw [runGenerate, runGenerate, hoptions]
    obtain ⟨_, _, rfl⟩ := h.same
    rfl
  | chat =>
    dsimp only
    rw [runChat, runChat, hoptions, hturns]
    obtain ⟨_, _, rfl⟩ := h.same
    rfl
  | embed =>
    obtain ⟨_, _, rfl⟩ := h.same
    rfl
  | tool =>
    dsimp only
    rw [runTool, runTool, htool]
    obtain ⟨_, _, rfl⟩ := h.same
    rfl
  | reflect =>
    obtain ⟨_, _, rfl⟩ := h.same
    rfl
  | plugin =>
    have hmissing := hplugin hkind
    dsimp only
    rw [run_runPlugin_missing hmissing, run_runPlugin_missing (hname ▸ hmissing), hname, h.id]
  | custom =>
    obtain ⟨_, _, rfl⟩ := h.same
    rfl

/-- The work on tasks that ask for the same comes to the same on the same ground. -/
theorem perform_of_asksSame (hground : SameGround w w') (h : AsksSame task other)
    (hplugin : task.kind = .plugin → w.registry.plugin? (pluginName task) = none)
    (ref : Ref Agent) (context : Option String) :
    outcomeOf (perform other ref context) w' = outcomeOf (perform task ref context) w ∧
      SameGround (worldAfter (perform task ref context) w)
        (worldAfter (perform other ref context) w') := by
  have hrun : (perform other ref context).run w = (perform task ref context).run w := by
    rw [perform, perform, EStateM.run_bind, EStateM.run_bind, run_check, run_check, run_lift,
      run_lift, h.id]
    -- The gate leaves the world as it is, so the work starts on the same ground.
    cases w.surroundings.check context (some task.id) with
    | error fault => rfl
    | ok _ => exact run_dispatch_of_asksSame h hplugin ref context
  have hsame := groundLaw_sameGround.perform other ref context w w' hground
  unfold outcomeOf worldAfter at hsame ⊢
  rw [hrun] at hsame
  exact hsame

end

end Orchestration.Engine
