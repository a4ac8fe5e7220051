import Orchestration.Engine.Execution
import Orchestration.Proofs.Run

/-!
# The work on a task

The work on a task looks at its context, may log something, may call the backend or a capability,
and may record an interaction in the memory of an agent. It changes a world in no other way, so what
holds of these steps holds of the work on any task. Work of inference only calls the backend
(`AskLaw`); work that uses a capability or a memory leaves the backend alone (`CapabilityLaw`).

The main statement is `WorkLaw.perform`: if the steps stand in a preorder, the work on a task does.
-/

namespace Orchestration.Engine

variable {σ τ : Type}

/-! ## The steps -/

/-- The world when the backend has answered. -/
def answered [Time τ] {α : Type} (w : World σ τ) (answer : Answer σ τ α) : World σ τ :=
  { w with
    backend := answer.backend
    surroundings := w.surroundings.applyAll answer.effects }

section Asking

variable [Time τ] {α β : Type} (call : Call) (answer : σ → Surroundings τ → Answer σ τ α)

/-- A question always has an answer, and is noted among the calls. -/
theorem run_ask (w : World σ τ) :
    (ask call answer).run w = .ok (answer w.backend w.surroundings).value
      { answered w (answer w.backend w.surroundings) with history := w.history ++ [call] } := rfl

variable (finish : α → Except Fault β)

/-- What is made of an answer alone is the outcome of the question. -/
theorem outcomeOf_ask_lift (w : World σ τ) :
    outcomeOf (ask call answer >>= fun a => lift (finish a)) w =
      finish (answer w.backend w.surroundings).value := by
  rw [outcomeOf_bind, run_ask]
  cases hfinish : finish (answer w.backend w.surroundings).value with
  | ok b => simp only [hfinish, outcomeOf, run_lift]
  | error fault => simp only [hfinish, outcomeOf, run_lift]

/-- What is made of an answer alone leaves the world as the answer does. -/
theorem worldAfter_ask_lift (w : World σ τ) :
    worldAfter (ask call answer >>= fun a => lift (finish a)) w =
      { answered w (answer w.backend w.surroundings) with history := w.history ++ [call] } := by
  rw [worldAfter_bind_of_run_eq (run_ask call answer w)]
  cases hfinish : finish (answer w.backend w.surroundings).value with
  | ok b => simp only [worldAfter, run_lift]
  | error fault => simp only [worldAfter, run_lift]

end Asking

variable [Time τ] [Backend σ τ]

/-- What asking the backend does to a world. -/
structure AskLaw (R : World σ τ → World σ τ → Prop) : Prop where
  called : ∀ (w : World σ τ) call, R w { w with history := w.history ++ [call] }
  generate : ∀ (w : World σ τ) context model prompt options,
    R w (answered w (Backend.generate w.backend w.surroundings context model prompt options))
  chat : ∀ (w : World σ τ) context model turns options,
    R w (answered w (Backend.chat w.backend w.surroundings context model turns options))
  embed : ∀ (w : World σ τ) context model text,
    R w (answered w (Backend.embed w.backend w.surroundings context model text))

omit [Time τ] [Backend σ τ] in
/-- What the steps of work that asks nothing of the backend do to a world. -/
structure CapabilityLaw (R : World σ τ → World σ τ → Prop) : Prop where
  called : ∀ (w : World σ τ) call, call.isInference = false →
    R w { w with history := w.history ++ [call] }
  logged : ∀ (w : World σ τ) journal, R w { w with journal }
  recorded : ∀ (w : World σ τ) ref now key value,
    R w { w with agents := w.agents.record ref now key value }

/-- What the steps of the work on a task do to a world. -/
structure WorkLaw (R : World σ τ → World σ τ → Prop) : Prop extends AskLaw R where
  logged : ∀ (w : World σ τ) journal, R w { w with journal }
  recorded : ∀ (w : World σ τ) ref now key value,
    R w { w with agents := w.agents.record ref now key value }

/-! ## The gate -/

section Gate

variable {w : World σ τ} {task : Task} {context : Option String}

/-- A call that is over never gets as far as the work. -/
theorem run_perform_stopped {fault : Fault} (ref : Ref Agent)
    (h : w.surroundings.check context (some task.id) = .error fault) :
    (perform task ref context).run w = .error fault w := by
  rw [perform, EStateM.run_bind, run_check, run_lift, h]

end Gate

/-! ## Inference -/

namespace AskLaw

variable {R : World σ τ → World σ τ → Prop}

theorem noteCall (law : AskLaw R) (call : Call) :
    Guarantees R (noteCall call : Run σ τ Unit) :=
  guarantees_modify fun w => law.called w call

variable [IsPreorder (World σ τ) R]

/-- To ask the backend is to note the call and to take the world over that the answer leaves. -/
theorem ask (law : AskLaw R) {α : Type} (call : Call)
    {answer : σ → Surroundings τ → Answer σ τ α}
    (h : ∀ w, R w (answered w (answer w.backend w.surroundings))) :
    Guarantees R (ask call answer) :=
  (law.noteCall call).bind fun _ => guarantees_modifyGet h

/-- The work on a prompt is one question to the backend. -/
theorem runGenerate (law : AskLaw R) (task : Task) (agent : Agent) (context : Option String) :
    Guarantees R (runGenerate task agent context : Run σ τ TaskResult) :=
  (guarantees_lift _).bind fun _ =>
    (law.ask _ fun w => law.generate w _ _ _ _).bind fun _ => guarantees_lift _

/-- The work on a chat is one question to the backend. -/
theorem runChat (law : AskLaw R) (task : Task) (agent : Agent) (context : Option String) :
    Guarantees R (runChat task agent context : Run σ τ TaskResult) :=
  (guarantees_lift _).bind fun _ => (guarantees_lift _).bind fun _ =>
    (law.ask _ fun w => law.chat w _ _ _ _).bind fun _ => guarantees_lift _

/-- The work on an embedding is one question to the backend. -/
theorem runEmbed (law : AskLaw R) (task : Task) (agent : Agent) (context : Option String) :
    Guarantees R (runEmbed task agent context : Run σ τ TaskResult) := by
  refine (guarantees_lift _).bind fun _ => ?_
  refine (law.ask _ fun w => law.embed w _ _ _).bind fun vector => ?_
  -- A vector may still turn out not to be one, which is no matter of the world.
  cases vector with
  | error fault => exact guarantees_throw _
  | ok vector => exact guarantees_lift _

end AskLaw

/-! ## Capabilities and memories -/

namespace CapabilityLaw

omit [Time τ] [Backend σ τ]

variable {R : World σ τ → World σ τ → Prop}

theorem noteCall (law : CapabilityLaw R) {call : Call} (h : call.isInference = false) :
    Guarantees R (noteCall call : Run σ τ Unit) :=
  guarantees_modify fun w => law.called w call h

theorem log (law : CapabilityLaw R) (level : Log.Level) (logger message : String) :
    Guarantees R (log level logger message : Run σ τ Unit) :=
  guarantees_modify fun w => law.logged w _

theorem recordInteraction (law : CapabilityLaw R) (ref : Ref Agent) (key : String)
    (value : Value) : Guarantees R (recordInteraction ref key value : Run σ τ Unit) :=
  guarantees_modify fun w => law.recorded w ref _ key value

variable [IsPreorder (World σ τ) R]

/-- Ending the use of a capability changes a memory and nothing else. -/
theorem concludeUse (law : CapabilityLaw R) (task : Task) (ref : Ref Agent)
    (key name words : String) (output : Value) :
    Guarantees R (concludeUse task ref key name words output : Run σ τ TaskResult) :=
  (law.recordInteraction _ _ _).bind fun _ => guarantees_lift _

/-- The work with a tool is a call that is noted, and a record of its use. -/
theorem runTool (law : CapabilityLaw R) (task : Task) (ref : Ref Agent) :
    Guarantees R (runTool task ref : Run σ τ TaskResult) := by
  refine (guarantees_lift _).bind fun call => guarantees_get.bind fun w => ?_
  split
  -- A tool that is not there leaves a warning; one that is there is called.
  · exact (law.log _ _ _).bind fun _ => guarantees_pure _
  · refine (guarantees_get.bind fun _ => guarantees_pure _).bind fun occasion => ?_
    refine (law.noteCall rfl).bind fun _ => (guarantees_lift _).bind fun output => ?_
    exact law.concludeUse _ _ _ _ _ _

/-- The work with a plugin is a call that is noted, and a record of its use. -/
theorem runPlugin (law : CapabilityLaw R) (task : Task) (ref : Ref Agent) :
    Guarantees R (runPlugin task ref : Run σ τ TaskResult) := by
  refine guarantees_get.bind fun w => ?_
  split
  · exact (law.log _ _ _).bind fun _ => guarantees_pure _
  · refine (guarantees_get.bind fun _ => guarantees_pure _).bind fun occasion => ?_
    refine (law.noteCall rfl).bind fun _ => ?_
    split
    · exact guarantees_throw _
    · exact law.concludeUse _ _ _ _ _ _

/-- A reflection is recorded with the agent. -/
theorem runReflect (law : CapabilityLaw R) (task : Task) (ref : Ref Agent) (agent : Agent) :
    Guarantees R (runReflect task ref agent : Run σ τ TaskResult) :=
  (law.recordInteraction _ _ _).bind fun _ => guarantees_pure _

/-- Custom work is recorded with the agent. -/
theorem runCustom (law : CapabilityLaw R) (task : Task) (ref : Ref Agent) (agent : Agent) :
    Guarantees R (runCustom task ref agent : Run σ τ TaskResult) :=
  (law.recordInteraction _ _ _).bind fun _ => guarantees_pure _

end CapabilityLaw

/-! ## All kinds of work -/

namespace WorkLaw

variable {R : World σ τ → World σ τ → Prop}

/-- Work that asks nothing of the backend is work. -/
theorem capabilityLaw (law : WorkLaw R) : CapabilityLaw R :=
  ⟨fun w call _ => law.called w call, law.logged, law.recorded⟩

/-- **The law of work.** Whatever the kind of a task is, the work on it guarantees what its steps
do. -/
theorem perform [IsPreorder (World σ τ) R] (law : WorkLaw R) (task : Task) (ref : Ref Agent)
    (context : Option String) : Guarantees R (perform task ref context : Run σ τ TaskResult) := by
  refine (guarantees_check _ _).bind fun _ => (guarantees_agent ref).bind fun agent => ?_
  cases task.kind with
  | generate => exact law.runGenerate task agent context
  | chat => exact law.runChat task agent context
  | embed => exact law.runEmbed task agent context
  | tool => exact law.capabilityLaw.runTool task ref
  | reflect => exact law.capabilityLaw.runReflect task ref agent
  | plugin => exact law.capabilityLaw.runPlugin task ref
  | custom => exact law.capabilityLaw.runCustom task ref agent

end WorkLaw

end Orchestration.Engine
