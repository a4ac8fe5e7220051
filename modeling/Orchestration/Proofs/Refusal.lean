import Orchestration.Proofs.Session

/-!
# What a refusal leaves behind

What callers ask of an engine about agents and conversations is either done or refused, and a
refusal leaves agents, tasks, messages, conversations and workers as they were (`Untouched`).

There is one exception. A message that delegates a task is posted before its task is made, and the
task cannot be made if its parameters are not in order, or if the model that the message names is a
number with too many digits. Such a message is `Stranded`: it is in the log and in the memories of
sender and receiver, nobody works on it, and the sender is told that sending it has failed.

The main statement is `untouched_iff_not_stranded`.
-/

namespace Orchestration.Engine

variable {σ τ : Type}

/-! ## Requests -/

/-- What callers ask of an engine about agents and conversations. -/
inductive Request where
  | createAgent (ref : Ref Agent)
  | updateAgent (ref : Ref Agent)
  | deleteAgent (id : String)
  | startConversation (participants : List String) (topic : String) (metadata : Fields)
  | send (conversationId : String) (ref : Ref Message)
  | closeConversation (id : String)

/-- Carries out a request on behalf of a call. -/
def Request.run [Time τ] (context : Option String) : Request → Run σ τ Unit
  | createAgent ref => Engine.createAgent ref context
  | updateAgent ref => Engine.updateAgent ref context
  | deleteAgent id => Engine.deleteAgent id context
  | startConversation participants topic metadata =>
    discard (Engine.startConversation participants topic metadata context)
  | send conversationId ref => discard (Engine.send conversationId ref context)
  | closeConversation id => discard (Engine.closeConversation id context)

/-- Agents, tasks, messages, conversations and workers are as they were. -/
structure Untouched (w w' : World σ τ) : Prop where
  agents : w'.agents = w.agents
  tasks : w'.tasks = w.tasks
  messages : w'.messages = w.messages
  conversations : w'.conversations = w.conversations
  workers : w'.workers = w.workers

theorem Untouched.refl (w : World σ τ) : Untouched w w :=
  ⟨rfl, rfl, rfl, rfl, rfl⟩

/-- The request is a message that is let in, but the task that it delegates cannot be made. -/
def Request.Stranded [Time τ] (w : World σ τ) (context : Option String) : Request → Prop
  | send conversationId ref => ¬ Delegable (w.messages.get ref) ∧
    ∃ admission, Admitted w conversationId (w.messages.get ref) context admission
  | _ => False

/-- Whoever does not ask for the result learns of the same faults. -/
theorem run_discard_eq_error {α : Type} {run : Run σ τ α} {w w' : World σ τ} {fault : Fault} :
    (discard run).run w = .error fault w' ↔ run.run w = .error fault w' := by
  have hrun : (discard run).run w = (run >>= fun _ => pure ⟨⟩ : Run σ τ PUnit).run w := rfl
  rw [hrun, EStateM.run_bind]
  cases run.run w <;> simp [EStateM.run_pure]

/-! ## Agents -/

section Agents

variable {w w' : World σ τ} {fault : Fault}

/-- What the store of agents refuses changes nothing. -/
theorem eq_of_replaceAgents_error {result : Except Fault AgentStore} {note : AgentStore → String}
    (h : (do
      let agents ← lift result
      modify fun w => { w with agents }
      log .info agentLogger (note agents) : Run σ τ Unit).run w = .error fault w') : w' = w := by
  cases result with
  | error refusal =>
    cases h
    rfl
  | ok agents => cases h

variable [Time τ] {context : Option String}

/-- An operation that fails was stopped, or failed on its own. -/
theorem error_of_check {α : Type} {run : Run σ τ α}
    (h : (check context none >>= fun _ => run).run w = .error fault w') :
    w' = w ∨ run.run w = .error fault w' := by
  rw [EStateM.run_bind, run_check, run_lift] at h
  cases hcheck : w.surroundings.check context none with
  | error refusal =>
    rw [hcheck] at h
    cases h
    exact .inl rfl
  | ok _ =>
    rw [hcheck] at h
    exact .inr h

theorem untouched_createAgent {ref : Ref Agent}
    (h : (createAgent ref context).run w = .error fault w') : Untouched w w' := by
  rcases error_of_check h with rfl | hrefused
  · exact .refl w'
  · -- The identifier that was issued for the agent is lost.
    have hworld : w' = { w with issued := w.issued + 1 } := eq_of_replaceAgents_error hrefused
    rw [hworld]
    exact ⟨rfl, rfl, rfl, rfl, rfl⟩

theorem untouched_updateAgent {ref : Ref Agent}
    (h : (updateAgent ref context).run w = .error fault w') : Untouched w w' := by
  rcases error_of_check h with rfl | hrefused
  · exact .refl w'
  · have hworld : w' = w := eq_of_replaceAgents_error hrefused
    exact hworld ▸ .refl w

theorem untouched_deleteAgent {id : String}
    (h : (deleteAgent id context).run w = .error fault w') : Untouched w w' := by
  rcases error_of_check h with rfl | hrefused
  · exact .refl w'
  · have hworld : w' = w := eq_of_replaceAgents_error hrefused
    exact hworld ▸ .refl w

end Agents

/-! ## Conversations -/

section Conversations

variable [Time τ] {w w' : World σ τ} {fault : Fault} {context : Option String}

/-- A conversation that is not started leaves no trace. -/
theorem untouched_startConversation {participants : List String} {topic : String}
    {metadata : Fields}
    (h : (startConversation participants topic metadata context).run w = .error fault w') :
    Untouched w w' := by
  obtain ⟨houtcome, hworld⟩ := run_eq_error_iff.mp h
  have hstarting := starting participants topic metadata context w
  rw [houtcome, hworld] at hstarting
  cases hstarting with
  | refused => exact .refl w

theorem untouched_closeConversation {id : String}
    (h : (closeConversation id context).run w = .error fault w') : Untouched w w' := by
  obtain ⟨houtcome, hworld⟩ := run_eq_error_iff.mp h
  have hclosing := closing id context w
  rw [houtcome, hworld] at hclosing
  cases hclosing with
  | refused => exact .refl w

/-! ## Messages -/

omit [Time τ] in
/-- A message that was posted has left its trace in the log of its conversation. -/
theorem Posted.not_untouched {id : String} {conversation : Conversation} {message : Message}
    (h : Posted w id conversation message w')
    (hfound : Table.find? w.conversations id = some conversation) : ¬ Untouched w w' := by
  intro huntouched
  have hsame := huntouched.conversations
  rw [h.conversations] at hsame
  have hlater := Table.find?_insert_self w.conversations id
    (appended conversation message w.surroundings.clock.now)
  rw [hsame, hfound] at hlater
  have hlength := congrArg (fun conversation => conversation.messages.length)
    (Option.some.inj hlater)
  simp [appended] at hlength

/-- Sending a message that fails leaves a trace exactly if the message is stranded. -/
theorem untouched_send_iff {conversationId : String} {ref : Ref Message}
    (h : (send conversationId ref context).run w = .error fault w') :
    Untouched w w' ↔ ¬ (Request.send conversationId ref).Stranded w context := by
  obtain ⟨houtcome, hworld⟩ := run_eq_error_iff.mp h
  have hsending := sending conversationId ref context w
  rw [houtcome, hworld] at hsending
  cases hsending with
  | refused hrefused =>
    refine iff_of_true (.refl w) ?_
    rintro ⟨-, admission, hadmitted⟩
    rw [admissionOf_eq_ok_iff.mpr hadmitted] at hrefused
    cases hrefused
  | @unstarted admission _ w₁ hadmitted hposted htype hunfit =>
    refine iff_of_false (fun huntouched => ?_) (not_not_intro ⟨hunfit, admission, hadmitted⟩)
    -- The identifier that was issued for the task does not undo the posting.
    refine hposted.not_untouched hadmitted.found ?_
    exact ⟨huntouched.agents, huntouched.tasks, huntouched.messages, huntouched.conversations,
      huntouched.workers⟩

/-- **Refusals.** A request that fails, on behalf of whatever call and for whatever reason, leaves
agents, tasks, messages, conversations and workers untouched, unless it is a message that was let in
and delegates a task that cannot be made. -/
theorem untouched_iff_not_stranded {request : Request}
    (h : (request.run context).run w = .error fault w') :
    Untouched w w' ↔ ¬ request.Stranded w context := by
  cases request with
  | createAgent ref => exact iff_of_true (untouched_createAgent h) id
  | updateAgent ref => exact iff_of_true (untouched_updateAgent h) id
  | deleteAgent id => exact iff_of_true (untouched_deleteAgent h) fun hstranded => hstranded
  | startConversation participants topic metadata =>
    exact iff_of_true (untouched_startConversation (run_discard_eq_error.mp h)) id
  | send conversationId ref => exact untouched_send_iff (run_discard_eq_error.mp h)
  | closeConversation id =>
    exact iff_of_true (untouched_closeConversation (run_discard_eq_error.mp h))
      fun hstranded => hstranded

end Conversations

/-- Two agents have closed their conversation, and one of them has more to say. -/
def lateWord : World (Scripted.Script Rat) Rat :=
  after (after quietEngine farewell)
    [.makeMessage { fromAgent := "bo", toAgent := "al", content := "wait" }]

/-- The late word is refused, and the conversation, its message and the memories of the agents stay
as they are. -/
theorem untouched_lateWord :
    Reachable lateWord ∧ (∃ conversation,
        Table.find? lateWord.conversations (Identifier.issue 2) = some conversation ∧
          conversation.status = .closed ∧ conversation.messages.length = 1) ∧
      ∃ fault w',
        ((Request.send (Identifier.issue 2) ⟨1⟩).run none).run lateWord = .error fault w' ∧
          Untouched lateWord w' := by
  obtain ⟨fault, w', hrefused⟩ : ∃ fault w',
      ((Request.send (Identifier.issue 2) ⟨1⟩).run none).run lateWord = .error fault w' :=
    ⟨_, _, rfl⟩
  refine ⟨reachable_farewell.reaches (reaches_after ⟨trivial, trivial⟩), ⟨_, rfl, rfl, rfl⟩, fault,
    w', hrefused, (untouched_iff_not_stranded hrefused).mpr ?_⟩
  rintro ⟨hunfit, -⟩
  exact hunfit ⟨rfl, [], rfl⟩

/-- An agent wants to delegate a task to itself, with a number for the name of a parameter. -/
def strandedDelegation : List (Event (Scripted.Script Rat) Rat) :=
  [.makeAgent { id := "al" },
    .createAgent ⟨0⟩ none,
    .startConversation ["al"] "" [] none,
    .makeMessage {
      fromAgent := "al"
      toAgent := "al"
      content := "hi"
      type := .taskDelegation
      context := [("task_parameters", .map [(.int 1, .text "x")])] }]

/-- The message of the stranded delegation is refused, and is in the log all the same. -/
theorem touched_strandedDelegation :
    let w := after quietEngine strandedDelegation
    Reachable w ∧ ∃ fault w',
      ((Request.send (Identifier.issue 1) ⟨0⟩).run none).run w = .error fault w' ∧
        ¬ Untouched w w' := by
  intro w
  have hrun : AdmissibleFrom quietEngine strandedDelegation :=
    ⟨trivial, Nat.zero_lt_one, trivial, trivial, trivial⟩
  obtain ⟨fault, w', hrefused⟩ : ∃ fault w',
      (send (Identifier.issue 1) ⟨0⟩ none).run w = .error fault w' := ⟨_, _, rfl⟩
  have hunfit : ¬ Delegable (w.messages.get ⟨0⟩) := by
    rintro ⟨-, parameters, ⟨⟩⟩
  have hadmitted : ∃ admission,
      admissionOf w (Identifier.issue 1) (w.messages.get ⟨0⟩) none = .ok admission := ⟨_, rfl⟩
  obtain ⟨admission, hadmitted⟩ := hadmitted
  refine ⟨⟨quietEngine, fresh_quietEngine, reaches_after hrun⟩, fault, w',
    run_discard_eq_error.mpr hrefused, fun huntouched => ?_⟩
  exact (untouched_send_iff hrefused).mp huntouched
    ⟨hunfit, admission, admissionOf_eq_ok_iff.mp hadmitted⟩

end Orchestration.Engine
