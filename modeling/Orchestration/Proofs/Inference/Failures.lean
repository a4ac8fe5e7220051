import Orchestration.Proofs.Outcome
import Orchestration.Proofs.Text.Search

/-!
# How the failures of a backend are told

A task that asks for inference makes one call to the backend, and what the task comes to depends on
the reply alone (`Replied`). A reply can go wrong in two ways: the call is refused, or a stream or
an embedding fails. What a failing stream or embedding raises is told as a failure of inference, in
words that have the model and the original text. What a refused call for a stream raises is not: no
one but the task itself is there to catch it, so it is told as a failure of the work.

The main statement is `told_iff_not_refused`.
-/

namespace Orchestration

/-! ## Calls that are refused -/

/-- The backend refuses a call for a stream: there is a fault before there is a stream. -/
def Backend.Refuses {σ τ : Type} [Backend σ τ] (backend : σ) (s : Surroundings τ)
    (context : Option String) : Call → Prop
  | .generate model prompt options =>
    ∃ fault, (Backend.generate backend s context model prompt options).value = .refused fault
  | .chat model turns options =>
    ∃ fault, (Backend.chat backend s context model turns options).value = .refused fault
  | .embed _ _ | .tool _ _ | .plugin _ _ _ => False

namespace Engine

variable {σ τ : Type}

/-! ## What a task comes to by its reply -/

section Replies

variable [Backend σ τ]

/-- What a task comes to when it has made a call to the backend. -/
inductive Replied (task : Task) (context : Option String) (w : World σ τ) :
    Call → Except Fault TaskResult → Prop
  | generate (model prompt : String) (options : Option Options) :
    Replied task context w (.generate model prompt options)
      (collectReply task model "generate"
        (Backend.generate w.backend w.surroundings context model prompt options).value)
  | chat (model : String) (turns : List ChatMessage) (options : Option Options) :
    Replied task context w (.chat model turns options)
      (collectReply task model "chat"
        (Backend.chat w.backend w.surroundings context model turns options).value)
  | embed (model text : String) :
    Replied task context w (.embed model text)
      (embedded task model (Backend.embed w.backend w.surroundings context model text).value)

variable {task : Task} {context : Option String} {w : World σ τ} {call : Call} {fault : Fault}
  {outcome : Except Fault TaskResult}

/-- The backend raises a fault only on a call that it gets. -/
theorem isInference_of_raised
    (h : Backend.raised w.backend w.surroundings context call = some fault) :
    call.isInference = true := by
  cases call with
  | tool name parameters => cases h
  | plugin name input parameters => cases h
  | _ => rfl

omit [Backend σ τ] in
/-- What a fault becomes in the reply to a call for a stream: if the call was refused, it stays as
it is, and if it ended the stream, it becomes one of inference. -/
theorem collectReply_eq_error {reply : StreamReply} (operation model : String)
    (h : reply.fault? = some fault) :
    ((∃ refusal, reply = .refused refusal) ∧
        collectReply task model operation reply = .error fault) ∨
      (¬ ∃ refusal, reply = .refused refusal) ∧
        collectReply task model operation reply =
          .error (inferenceFault task operation model fault) := by
  cases reply with
  | refused refusal =>
    cases h
    exact .inl ⟨⟨_, rfl⟩, rfl⟩
  | delivered delivery =>
    have hended : delivery.fault = some fault := h
    refine .inr ⟨by rintro ⟨refusal, ⟨⟩⟩, ?_⟩
    rw [collectReply, collect, hended]

/-- What a fault becomes that the backend raises: one of inference, unless the call was refused. -/
theorem Replied.eq_error (h : Replied task context w call outcome)
    (hraised : Backend.raised w.backend w.surroundings context call = some fault) :
    (Backend.Refuses w.backend w.surroundings context call ∧ outcome = .error fault) ∨
      ¬ Backend.Refuses w.backend w.surroundings context call ∧
        ∃ operation model, call.model? = some model ∧
          outcome = .error (inferenceFault task operation model fault) := by
  cases h with
  | generate model prompt options =>
    exact (collectReply_eq_error "generate" model hraised).imp_right
      fun ⟨hdelivered, houtcome⟩ => ⟨hdelivered, "generate", model, rfl, houtcome⟩
  | chat model turns options =>
    exact (collectReply_eq_error "chat" model hraised).imp_right
      fun ⟨hdelivered, houtcome⟩ => ⟨hdelivered, "chat", model, rfl, houtcome⟩
  | embed model text =>
    refine .inr ⟨id, "embed", model, rfl, ?_⟩
    cases hvalue : (Backend.embed w.backend w.surroundings context model text).value with
    | ok vector =>
      rw [Backend.raised, hvalue] at hraised
      cases hraised
    | error cause =>
      rw [Backend.raised, hvalue] at hraised
      cases hraised
      rfl

end Replies

/-! ## The one call of a task -/

section Calls

/-- Between the two worlds nothing was asked of the backend. -/
def Unasked (w w' : World σ τ) : Prop :=
  ∃ calls, w'.history = w.history ++ calls ∧ ∀ call ∈ calls, call.isInference = false

instance : IsPreorder (World σ τ) Unasked where
  refl w := ⟨[], (List.append_nil _).symm, by simp⟩
  trans w₁ w₂ w₃ := by
    rintro ⟨calls, hcalls, hnone⟩ ⟨calls', hcalls', hnone'⟩
    refine ⟨calls ++ calls', by rw [hcalls', hcalls, List.append_assoc], fun call hcall => ?_⟩
    exact (List.mem_append.mp hcall).elim (hnone call) (hnone' call)

theorem unasked_of_history_eq {w w' : World σ τ} (h : w'.history = w.history) : Unasked w w' :=
  ⟨[], h.trans (List.append_nil _).symm, by simp⟩

/-- Work that uses a capability or a memory asks nothing of the backend. -/
theorem capabilityLaw_unasked : CapabilityLaw (Unasked (σ := σ) (τ := τ)) where
  called _ call h := ⟨[call], rfl, by simpa using h⟩
  logged _ _ := unasked_of_history_eq rfl
  recorded _ _ _ _ _ := unasked_of_history_eq rfl

variable [Backend σ τ]

/-- If the operation has made a call to the backend, it comes to what the reply comes to. -/
def Heeds (task : Task) (context : Option String) (run : Run σ τ TaskResult) (w : World σ τ) :
    Prop :=
  ∀ call, (worldAfter run w).history = w.history ++ [call] → call.isInference = true →
    Replied task context w call (outcomeOf run w)

variable {task : Task} {context : Option String} {w : World σ τ} {run : Run σ τ TaskResult}

theorem heeds_of_unasked (h : Unasked w (worldAfter run w)) : Heeds task context run w := by
  intro call hcall hinference
  obtain ⟨calls, hcalls, hnone⟩ := h
  have hsame : calls = [call] := List.append_cancel_left (hcalls.symm.trans hcall)
  have hno := hnone call (hsame ▸ List.mem_singleton_self call)
  rw [hinference] at hno
  cases hno

theorem heeds_lift_bind {α : Type} {result : Except Fault α} {next : α → Run σ τ TaskResult}
    (h : ∀ a, Heeds task context (next a) w) : Heeds task context (lift result >>= next) w := by
  cases result with
  | ok a => exact h a
  | error fault => exact heeds_of_unasked (unasked_of_history_eq rfl)

/-- An operation that makes a call and then only looks at the reply. -/
theorem heeds_ask [Time τ] {α : Type} {call : Call} {answer : σ → Surroundings τ → Answer σ τ α}
    {next : α → Run σ τ TaskResult} (finish : α → Except Fault TaskResult)
    (hnext : ∀ a, next a = lift (finish a))
    (h : Replied task context w call (finish (answer w.backend w.surroundings).value)) :
    Heeds task context (ask call answer >>= next) w := by
  obtain rfl : next = fun a => lift (finish a) := funext hnext
  intro other hother _
  rw [worldAfter_ask_lift] at hother
  -- The history has grown by this call, so the other call is this one.
  obtain rfl : call = other := (List.cons.inj (List.append_cancel_left hother)).1
  rwa [outcomeOf_ask_lift]

variable [Time τ]

/-- Whatever the kind of a task is, it heeds the reply to its call. -/
theorem heeds_perform (task : Task) (ref : Ref Agent) (context : Option String) (w : World σ τ) :
    Heeds task context (perform task ref context : Run σ τ TaskResult) w := by
  unfold perform
  show Heeds task context (lift _ >>= fun _ => dispatch task ref context) w
  refine heeds_lift_bind fun _ => ?_
  unfold dispatch
  cases task.kind with
  | generate =>
    exact heeds_lift_bind fun model =>
      heeds_ask (collectReply task model "generate") (fun _ => rfl) (.generate ..)
  | chat =>
    exact heeds_lift_bind fun model => heeds_lift_bind fun turns =>
      heeds_ask (collectReply task model "chat") (fun _ => rfl) (.chat ..)
  | embed =>
    exact heeds_lift_bind fun model =>
      heeds_ask (embedded task model) (fun vector => by cases vector <;> rfl) (.embed ..)
  | tool => exact heeds_of_unasked (capabilityLaw_unasked.runTool task ref w)
  | reflect => exact heeds_of_unasked (unasked_of_history_eq rfl)
  | plugin => exact heeds_of_unasked (capabilityLaw_unasked.runPlugin task ref w)
  | custom => exact heeds_of_unasked (unasked_of_history_eq rfl)

end Calls

/-! ## What an execution tells -/

/-- The outcome is a failure of inference that names the task, in words that have the model of the
call and the text of a fault. -/
def ToldAsInference (id : String) (call : Call) (fault : Fault)
    (outcome : Except Fault TaskResult) : Prop :=
  ∃ model message, call.model? = some model ∧
    outcome = .error (.execution .inference message (some id)) ∧
    Text.Names message model ∧ Text.contains message fault.message = true

section Told

variable {task : Task} {fault : Fault}

/-- A fault from outside the taxonomy is told by the task as a failure of the work. -/
theorem taskFault_of_foreign (hforeign : fault.isOrchestration = false) :
    taskFault task fault = .execution .work
      (task.label ++ " task failed: " ++ fault.message) (some task.id) := by
  rw [taskFault, hforeign]
  rfl

/-- A fault of inference is told by the task as it is. -/
theorem taskFault_inferenceFault (hforeign : fault.isOrchestration = false)
    (operation model : String) :
    taskFault task (inferenceFault task operation model fault) = .execution .inference
      (operation ++ " call failed for model " ++ Text.quoted model ++ ": " ++ fault.message)
      (some task.id) := by
  rw [inferenceFault, hforeign]
  rfl

theorem toldAsInference_inferenceFault {call : Call} {operation model : String}
    (hmodel : call.model? = some model) (hforeign : fault.isOrchestration = false) :
    ToldAsInference task.id call fault
      (.error (taskFault task (inferenceFault task operation model fault))) := by
  rw [taskFault_inferenceFault hforeign]
  refine ⟨model, _, hmodel, rfl, Text.names_of_contains_quoted ?_, ?_⟩
  · apply Text.contains_of_eq_append (operation ++ " call failed for model ")
      (": " ++ fault.message)
    simp only [String.append_assoc]
  · apply Text.contains_of_eq_append
      (operation ++ " call failed for model " ++ Text.quoted model ++ ": ") ""
    rw [String.append_empty]

end Told

variable [Time τ] [Backend σ τ]

/-- **How failures are told.** Whatever the backend does, and whatever the task, the agent and the
context are: when the backend raises a fault of its own on the call of a task, the execution tells
it as a failure of inference that names the task, with the model and the original text, exactly
unless the call for a stream was refused. A refused call is told as a failure of the work. -/
theorem told_iff_not_refused {w : World σ τ} {ref : Ref Task} {agentRef : Ref Agent}
    {context : Option String} {tracked : Bool} {call : Call} {fault : Fault}
    (hcall : (worldAfter (execute ref agentRef context tracked) w).history = w.history ++ [call])
    (hraised : Backend.raised w.backend w.surroundings context call = some fault)
    (hforeign : fault.isOrchestration = false) :
    let outcome := outcomeOf (execute ref agentRef context tracked) w
    let task := w.tasks.task ref
    (ToldAsInference task.id call fault outcome ↔
        ¬ Backend.Refuses w.backend w.surroundings context call) ∧
      (Backend.Refuses w.backend w.surroundings context call →
        outcome = .error (.execution .work
          (task.label ++ " task failed: " ++ fault.message) (some task.id))) := by
  intro outcome task
  set w₀ := takenUp w ref agentRef tracked
  have hsame : SameWork task (w₀.tasks.task ref) := sameWork_tasksTakenUp w.tasks ref ref _ tracked
  -- The work makes the call, in a world with the same backend and surroundings.
  have hhistory : (worldAfter (workOf w ref agentRef context tracked) w₀).history =
      w₀.history ++ [call] := by
    obtain ⟨tasks, scope, journal, hworld⟩ := worldAfter_execute ref agentRef context tracked w
    rw [hworld] at hcall
    exact hcall
  have hreplied := heeds_perform (w₀.tasks.task ref) agentRef context w₀ call hhistory
    (isInference_of_raised hraised)
  obtain ⟨hrefused, hwork⟩ | ⟨hdelivered, operation, model, hmodel, hwork⟩ :=
    hreplied.eq_error hraised
  · have houtcome : outcome = .error (.execution .work
        (task.label ++ " task failed: " ++ fault.message) (some task.id)) := by
      rw [← hsame.label, ← hsame.id, ← taskFault_of_foreign hforeign]
      exact outcomeOf_execute_of_error hwork
    refine ⟨iff_of_false ?_ fun hnot => hnot hrefused, fun _ => houtcome⟩
    rintro ⟨model, message, -, htold, -⟩
    cases houtcome.symm.trans htold
  · refine ⟨iff_of_true ?_ hdelivered, fun hrefused => absurd hrefused hdelivered⟩
    have houtcome : outcome = .error _ := outcomeOf_execute_of_error hwork
    rw [houtcome, ← hsame.id]
    exact toldAsInference_inferenceFault hmodel hforeign

/-- The refusing engine with another script. -/
def scriptedEngine (stage : Scripted.Stage Rat) : World (Scripted.Script Rat) Rat :=
  { refusingEngine with backend := { default := .staged stage } }

/-- A stream that breaks off is told with its model and the original text. -/
theorem told_iff_not_refused_brokenStream :
    let w := scriptedEngine { failure := some (.foreign .connection "reset by peer") }
    ToldAsInference "second" (.generate "model" "" none) (.foreign .connection "reset by peer")
      (outcomeOf (execute ⟨1⟩ ⟨0⟩ none true) w) := by
  intro w
  have hcall : (worldAfter (execute ⟨1⟩ ⟨0⟩ none true) w).history =
      w.history ++ [.generate "model" "" none] := rfl
  have hraised : Backend.raised w.backend w.surroundings none (.generate "model" "" none) =
      some (.foreign .connection "reset by peer") := rfl
  obtain ⟨htold, -⟩ := told_iff_not_refused hcall hraised rfl
  apply htold.mpr
  rintro ⟨fault, ⟨⟩⟩

/-- Not every fault of the backend is told as one of inference: a refused call is not. -/
theorem not_told_refusedCall :
    ¬ ∀ (w : World (Scripted.Script Rat) Rat) (ref : Ref Task) (agentRef : Ref Agent)
      (context : Option String) (tracked : Bool) (call : Call) (fault : Fault),
      (worldAfter (execute ref agentRef context tracked) w).history = w.history ++ [call] →
      Backend.raised w.backend w.surroundings context call = some fault →
      fault.isOrchestration = false →
        ToldAsInference (w.tasks.task ref).id call fault
          (outcomeOf (execute ref agentRef context tracked) w) := by
  intro hall
  obtain ⟨model, message, -, htold, -⟩ :=
    hall (scriptedEngine { refusal := some (.foreign .runtime "out of memory") }) ⟨1⟩ ⟨0⟩ none true
      (.generate "model" "" none) (.foreign .runtime "out of memory") rfl rfl rfl
  have houtcome : outcomeOf (execute ⟨1⟩ ⟨0⟩ none true)
      (scriptedEngine { refusal := some (.foreign .runtime "out of memory") }) =
        .error (.execution .work "generate task failed: out of memory" (some "second")) := rfl
  cases houtcome.symm.trans htold

end Engine

end Orchestration
