import Orchestration.Engine.Conversations
import Orchestration.Proofs.Execution
import Orchestration.Proofs.TaskRecord

/-!
# What sending a message does

Sending goes through three stages, and each of them has its law:

* a message is admitted or refused (`admissionOf`), and a refusal changes nothing;
* an admitted message is posted: it ends the log of its conversation (`Posted`), whatever its sort;
* a message that delegates a task starts a worker (`Delegated`), or the task cannot be made.

`sending` puts them together: there are four ways to come out of `send`, and they are the
constructors of `Sending`.
-/

namespace Orchestration.Engine

variable {σ τ : Type} {w : World σ τ} {conversationId : String} {message : Message}
  {context : Option String}

/-! ## Admission -/

theorem findConversation_eq_ok_iff {conversations : Table Conversation} {id : String}
    {conversation : Conversation} :
    findConversation conversations id = .ok conversation ↔
      Table.find? conversations id = some conversation := by
  unfold findConversation
  split <;> simp_all

theorem requireActive_eq_ok_iff {conversation : Conversation} {id : String} :
    requireActive conversation id = .ok () ↔ conversation.status = .active := by
  unfold requireActive
  split <;> simp_all

theorem senderOf_eq_ok_iff {agents : AgentStore} {sender : Ref Agent} :
    senderOf agents message = .ok sender ↔ agents.find? message.fromAgent = some sender := by
  unfold senderOf
  split <;> simp_all

/-- A delegation is admitted only if it names a registered receiver. -/
theorem receiver_of_delegation {agents : AgentStore} {receiver : Option (Ref Agent)}
    (htype : message.type = .taskDelegation) (h : receiverOf agents message = .ok receiver) :
    ∃ ref, receiver = some ref ∧ agents.find? message.toAgent = some ref := by
  unfold receiverOf at h
  rw [if_pos htype] at h
  split at h
  · cases h
  · split at h
    next ref hfind =>
      cases h
      exact ⟨ref, rfl, hfind⟩
    next => cases h

section

variable [Time τ]

/-- What it takes for a message to be admitted. -/
structure Admitted (w : World σ τ) (conversationId : String) (message : Message)
    (context : Option String) (admission : Admission) : Prop where
  live : w.surroundings.check context none = .ok ()
  found : Table.find? w.conversations conversationId = some admission.conversation
  active : admission.conversation.status = .active
  sender : w.agents.find? message.fromAgent = some admission.sender
  receiver : receiverOf w.agents message = .ok admission.receiver

/-- A message is admitted exactly if nothing is said against it. -/
theorem admissionOf_eq_ok_iff {admission : Admission} :
    admissionOf w conversationId message context = .ok admission ↔
      Admitted w conversationId message context admission := by
  constructor
  · intro h
    obtain ⟨⟨⟩, hlive, h⟩ := Fault.bind_eq_ok_iff.mp h
    obtain ⟨conversation, hfound, h⟩ := Fault.bind_eq_ok_iff.mp h
    obtain ⟨⟨⟩, hactive, h⟩ := Fault.bind_eq_ok_iff.mp h
    obtain ⟨sender, hsender, h⟩ := Fault.bind_eq_ok_iff.mp h
    obtain ⟨receiver, hreceiver, h⟩ := Fault.bind_eq_ok_iff.mp h
    cases h
    exact ⟨hlive, findConversation_eq_ok_iff.mp hfound, requireActive_eq_ok_iff.mp hactive,
      senderOf_eq_ok_iff.mp hsender, hreceiver⟩
  · intro h
    unfold admissionOf
    rw [h.live, findConversation_eq_ok_iff.mpr h.found, senderOf_eq_ok_iff.mpr h.sender, h.receiver]
    simp only [bind, Except.bind, requireActive_eq_ok_iff.mpr h.active]
    rfl

omit [Time τ] in
theorem isOrchestration_missingWith (entity : Entity) (id text : String) :
    (Fault.missingWith entity id text).isOrchestration = true := by
  unfold Fault.missingWith
  split <;> rfl

/-- A call that is stopped is told so with a fault of the taxonomy. -/
theorem isOrchestration_of_check {taskId : Option String} {fault : Fault}
    (h : w.surroundings.check context taskId = .error fault) : fault.isOrchestration = true := by
  unfold Surroundings.check CallContext.check at h
  split at h
  · cases h
    rfl
  · split at h <;> cases h
    rfl

omit [Time τ] in
/-- A receiver that is not there is told by a fault of the taxonomy. -/
theorem isOrchestration_of_receiverOf {agents : AgentStore} {fault : Fault}
    (h : receiverOf agents message = .error fault) : fault.isOrchestration = true := by
  unfold receiverOf at h
  split at h
  · split at h <;> cases h
    rfl
  · split at h
    · cases h
    · split at h <;> cases h
      exact isOrchestration_missingWith _ _ _

/-- Whatever keeps a message from being admitted is a fault of the taxonomy. -/
theorem isOrchestration_of_admissionOf {fault : Fault}
    (h : admissionOf w conversationId message context = .error fault) :
    fault.isOrchestration = true := by
  -- The checks are made one after the other, and the first one that fails decides.
  rcases Fault.bind_eq_error_iff.mp h with h | ⟨⟨⟩, -, h⟩
  · exact isOrchestration_of_check h
  rcases Fault.bind_eq_error_iff.mp h with h | ⟨conversation, -, h⟩
  · unfold findConversation at h
    split at h <;> cases h
    rfl
  rcases Fault.bind_eq_error_iff.mp h with h | ⟨⟨⟩, -, h⟩
  · unfold requireActive at h
    split at h <;> cases h
    rfl
  rcases Fault.bind_eq_error_iff.mp h with h | ⟨sender, -, h⟩
  · unfold senderOf at h
    split at h <;> cases h
    exact isOrchestration_missingWith _ _ _
  rcases Fault.bind_eq_error_iff.mp h with h | ⟨receiver, -, h⟩
  · exact isOrchestration_of_receiverOf h
  · cases h

/-- Nothing is admitted to a conversation that is closed. -/
theorem admissionOf_closed {conversation : Conversation}
    (hlive : w.surroundings.check context none = .ok ())
    (hfound : Table.find? w.conversations conversationId = some conversation)
    (hclosed : conversation.status = .closed) (message : Message) :
    ∃ text, admissionOf w conversationId message context = .error (.invalidRequest text) := by
  have hinactive : ∃ text, requireActive conversation conversationId =
      .error (.invalidRequest text) := by
    rw [requireActive, if_neg (by simp [hclosed])]
    exact ⟨_, rfl⟩
  -- The status is checked before anybody asks for sender and receiver.
  obtain ⟨text, hinactive⟩ := hinactive
  refine ⟨text, ?_⟩
  unfold admissionOf
  rw [hlive, findConversation_eq_ok_iff.mpr hfound]
  simp only [bind, Except.bind, hinactive]

end

/-! ## Posting -/

/-- A message was posted: it ends the log of its conversation. Nothing else has changed but the
caller's message, what agents remember, and what was logged. -/
structure Posted (w : World σ τ) (conversationId : String) (conversation : Conversation)
    (message : Message) (w' : World σ τ) : Prop where
  conversations : w'.conversations = Table.insert w.conversations conversationId
    (appended conversation message w.surroundings.clock.now)
  workers : w'.workers = w.workers
  issued : w'.issued = w.issued + 1
  tasks : w'.tasks = w.tasks
  agents : AgentStore.SameRegister w.agents w'.agents
  history : w'.history = w.history

/-- The message that is posted. -/
def stampedAt (w : World σ τ) (ref : Ref Message) : Message :=
  stamped (w.messages.get ref) (Identifier.issue w.issued) w.surroundings.clock.now

/-- An admitted message is posted. -/
theorem run_deliver (conversationId : String) (ref : Ref Message) (admission : Admission)
    (w : World σ τ) :
    ∃ w', (deliver conversationId ref admission).run w = .ok (stampedAt w ref) w' ∧
      Posted w conversationId admission.conversation (stampedAt w ref) w' := by
  have hrecord : ∀ store agent key, AgentStore.SameRegister store
      (store.record agent w.surroundings.clock.now key (.text (stampedAt w ref).content)) :=
    fun store agent key => AgentStore.sameRegister_record store agent _ key _
  rw [deliver]
  cases admission.receiver with
  | none =>
    -- Only the sender remembers it.
    refine ⟨_, rfl, rfl, rfl, rfl, rfl, ?_, rfl⟩
    exact hrecord _ _ _
  | some receiver =>
    refine ⟨_, rfl, rfl, rfl, rfl, rfl, ?_, rfl⟩
    exact IsTrans.trans _ _ _ (hrecord _ admission.sender _) (hrecord _ receiver _)

/-! ## Delegation -/

/-- A worker was started for a message: it waits at the end of the queue, with a new task for the
receiver. -/
structure Delegated (w : World σ τ) (conversationId : String) (message : Message)
    (receiver : Ref Agent) (w' : World σ τ) : Prop where
  workers : w'.workers = w.workers ++
    [{ conversationId, message, receiver, task := w.tasks.live.next }]
  tasks : ∃ task, w'.tasks = w.tasks.add task ∧
    task.agentId = (w.agents.agent receiver).id ∧ task.input = message.content ∧ task.Fresh
  conversations : w'.conversations = w.conversations
  issued : w'.issued = w.issued + 1
  agents : w'.agents = w.agents

/-- A delegated task belongs to the receiver, and is still to be done. -/
theorem delegatedTask_spec {receiver : Agent} {configured id : String} {now : Moment} {task : Task}
    (h : delegatedTask message receiver configured id now = .ok task) :
    task.agentId = receiver.id ∧ task.input = message.content ∧ task.Fresh := by
  obtain ⟨model, hmodel, h⟩ := Fault.bind_eq_ok_iff.mp h
  obtain ⟨parameters, hparameters, h⟩ := Fault.bind_eq_ok_iff.mp h
  cases h
  exact ⟨rfl, rfl, ⟨rfl, rfl, rfl, rfl⟩⟩

/-- The task that a message delegates can be made: the model that the message names can be written,
and the parameters that it gives are in order. -/
structure Delegable (message : Message) : Prop where
  model : (modelValue message).overlong = false
  parameters : ∃ parameters, Schema.fields (delegationParameters message) = .ok parameters

/-- The id and the time of a message do not matter to the task that it delegates. -/
theorem delegable_stampedAt {ref : Ref Message} :
    Delegable (stampedAt w ref) ↔ Delegable (w.messages.get ref) :=
  ⟨fun h => ⟨h.model, h.parameters⟩, fun h => ⟨h.model, h.parameters⟩⟩

/-- A delegated task can be made if its model and its parameters are in order, and otherwise what is
wrong with them is said with a fault from outside the taxonomy. -/
theorem delegatedTask_cases (message : Message) (receiver : Agent) (configured id : String)
    (now : Moment) :
    (Delegable message ∧ ∃ task, delegatedTask message receiver configured id now = .ok task) ∨
      (¬ Delegable message ∧ ∃ fault, fault.isOrchestration = false ∧
        delegatedTask message receiver configured id now = .error fault) := by
  have hwritten := writtenUnless_delegationModel message
  unfold delegatedTask
  cases hlong : (modelValue message).overlong with
  | true =>
    rw [hwritten.eq_error hlong]
    refine .inr ⟨fun h => ?_, _, rfl, rfl⟩
    cases hlong.symm.trans h.model
  | false =>
    obtain ⟨model, hmodel⟩ := hwritten.exists_eq_ok hlong
    rw [hmodel]
    cases hparameters : Schema.fields (delegationParameters message) with
    | ok parameters => exact .inl ⟨⟨hlong, parameters, hparameters⟩, _, rfl⟩
    | failed issues =>
      refine .inr ⟨fun h => ?_, _, rfl, rfl⟩
      obtain ⟨parameters, hok⟩ := h.parameters
      cases hparameters.symm.trans hok

/-- A message that asks for no work starts no worker. -/
theorem startWorker_of_ne (htype : message.type ≠ .taskDelegation) (conversationId : String)
    (receiver : Option (Ref Agent)) :
    (startWorker conversationId message receiver : Run σ τ Unit) = pure () := by
  unfold startWorker
  split
  next h => exact absurd h htype
  next => rfl

/-- A delegation starts a worker for its receiver. -/
theorem startWorker_of_eq (htype : message.type = .taskDelegation) (conversationId : String)
    (receiver : Ref Agent) :
    (startWorker conversationId message (some receiver) : Run σ τ Unit) =
      delegate conversationId message receiver := by
  unfold startWorker
  rw [htype]

/-- The worker of a delegation is started unless its task cannot be made. -/
theorem run_delegate (conversationId : String) (message : Message) (receiver : Ref Agent)
    (w : World σ τ) :
    (¬ Delegable message ∧ ∃ fault, fault.isOrchestration = false ∧
        (delegate conversationId message receiver).run w =
          .error fault { w with issued := w.issued + 1 }) ∨
      (Delegable message ∧ ∃ w', (delegate conversationId message receiver).run w = .ok () w' ∧
        Delegated w conversationId message receiver w') := by
  -- The identifier of the task is issued before it is known whether the task can be made.
  have hrun : (delegate conversationId message receiver).run w =
      (do
        let task ← lift (delegatedTask message (w.agents.agent receiver)
          w.settings.delegationLabel (Identifier.issue w.issued) w.surroundings.clock.now)
        let ref ← newTask task
        modify fun w => { w with
          workers := w.workers ++ [{ conversationId, message, receiver, task := ref }] }
        log .debug conversationLogger ("Delegated task " ++ Identifier.issue w.issued ++
          " to agent " ++ (w.agents.agent receiver).id) : Run σ τ Unit).run
        { w with issued := w.issued + 1 } := rfl
  rw [hrun, EStateM.run_bind, run_lift]
  rcases delegatedTask_cases message (w.agents.agent receiver) w.settings.delegationLabel
      (Identifier.issue w.issued) w.surroundings.clock.now with
    ⟨hdelegable, task, htask⟩ | ⟨hunfit, fault, hforeign, htask⟩
  · rw [htask]
    refine .inr ⟨hdelegable, _, rfl, rfl, ⟨task, rfl, ?_⟩, rfl, rfl, rfl⟩
    exact delegatedTask_spec htask
  · rw [htask]
    exact .inl ⟨hunfit, fault, hforeign, rfl⟩

/-! ## Sending -/

variable [Time τ]

/-- The ways in which sending a message comes out: its outcome, and the world that it leaves. -/
inductive Sending (w : World σ τ) (conversationId : String) (ref : Ref Message)
    (context : Option String) : Except Fault Message → World σ τ → Prop
  /-- The message was not admitted, and nothing has happened. -/
  | refused {fault : Fault}
      (hrefused : admissionOf w conversationId (w.messages.get ref) context = .error fault) :
      Sending w conversationId ref context (.error fault) w
  /-- The message was posted. It asks for no work. -/
  | posted {admission : Admission} {w' : World σ τ}
      (hadmitted : Admitted w conversationId (w.messages.get ref) context admission)
      (hposted : Posted w conversationId admission.conversation (stampedAt w ref) w')
      (htype : (w.messages.get ref).type ≠ .taskDelegation) :
      Sending w conversationId ref context (.ok (stampedAt w ref)) w'
  /-- The message was posted, and a worker was started for the task that it delegates. -/
  | delegated {admission : Admission} {receiver : Ref Agent} {w₁ w' : World σ τ}
      (hadmitted : Admitted w conversationId (w.messages.get ref) context admission)
      (hposted : Posted w conversationId admission.conversation (stampedAt w ref) w₁)
      (htype : (w.messages.get ref).type = .taskDelegation)
      (hreceiver : w.agents.find? (w.messages.get ref).toAgent = some receiver)
      (hdelegated : Delegated w₁ conversationId (stampedAt w ref) receiver w') :
      Sending w conversationId ref context (.ok (stampedAt w ref)) w'
  /-- The message was posted, but the task that it delegates cannot be made. -/
  | unstarted {admission : Admission} {fault : Fault} {w₁ : World σ τ}
      (hadmitted : Admitted w conversationId (w.messages.get ref) context admission)
      (hposted : Posted w conversationId admission.conversation (stampedAt w ref) w₁)
      (htype : (w.messages.get ref).type = .taskDelegation)
      (hunfit : ¬ Delegable (w.messages.get ref)) :
      Sending w conversationId ref context (.error fault) { w₁ with issued := w₁.issued + 1 }

/-- When an admitted message is posted, the worker is all that is left to start. -/
theorem run_send_of_admitted {ref : Ref Message} {admission : Admission} {w₁ : World σ τ}
    (hadmitted : Admitted w conversationId (w.messages.get ref) context admission)
    (hdeliver : (deliver conversationId ref admission).run w = .ok (stampedAt w ref) w₁) :
    (send conversationId ref context).run w =
      (startWorker conversationId (stampedAt w ref) admission.receiver >>= fun _ =>
        pure (stampedAt w ref) : Run σ τ Message).run w₁ := by
  rw [send, EStateM.run_bind, EStateM.run_get]
  simp only [EStateM.run_bind, run_lift, admissionOf_eq_ok_iff.mpr hadmitted, hdeliver]

/-- Sending a message comes out in one of the four ways. -/
theorem sending (conversationId : String) (ref : Ref Message) (context : Option String)
    (w : World σ τ) :
    Sending w conversationId ref context (outcomeOf (send conversationId ref context) w)
      (worldAfter (send conversationId ref context) w) := by
  cases hadmission : admissionOf w conversationId (w.messages.get ref) context with
  | error fault =>
    have hrun : (send conversationId ref context).run w = .error fault w := by
      rw [send, EStateM.run_bind, EStateM.run_get]
      simp only [EStateM.run_bind, run_lift, hadmission]
    obtain ⟨houtcome, hworld⟩ := run_eq_error_iff.mp hrun
    rw [houtcome, hworld]
    exact .refused hadmission
  | ok admission =>
    have hadmitted := admissionOf_eq_ok_iff.mp hadmission
    obtain ⟨w₁, hdeliver, hposted⟩ := run_deliver conversationId ref admission w
    have hrun := run_send_of_admitted hadmitted hdeliver
    -- The message is in the log by now. What its type decides is whether a worker is started.
    by_cases htype : (w.messages.get ref).type = .taskDelegation
    · obtain ⟨receiver, hsome, hreceiver⟩ := receiver_of_delegation htype hadmitted.receiver
      have hstamped : (stampedAt w ref).type = .taskDelegation := htype
      rw [hsome, startWorker_of_eq hstamped, EStateM.run_bind] at hrun
      rcases run_delegate conversationId (stampedAt w ref) receiver w₁ with
        ⟨hunfit, fault, -, hdelegate⟩ | ⟨-, w₂, hdelegate, hdelegated⟩
      · rw [hdelegate] at hrun
        obtain ⟨houtcome, hworld⟩ := run_eq_error_iff.mp hrun
        rw [houtcome, hworld]
        exact .unstarted hadmitted hposted htype (mt delegable_stampedAt.mpr hunfit)
      · rw [hdelegate] at hrun
        obtain ⟨houtcome, hworld⟩ := run_eq_ok_iff.mp hrun
        rw [houtcome, hworld]
        exact .delegated hadmitted hposted htype hreceiver hdelegated
    · have hstamped : (stampedAt w ref).type ≠ .taskDelegation := htype
      rw [startWorker_of_ne hstamped] at hrun
      obtain ⟨houtcome, hworld⟩ := run_eq_ok_iff.mp hrun
      rw [houtcome, hworld]
      exact .posted hadmitted hposted htype

/-- A message that is admitted and delegates a task that cannot be made is stranded: sending it
fails with a fault from outside the taxonomy. -/
theorem send_stranded {ref : Ref Message} {admission : Admission}
    (hadmitted : Admitted w conversationId (w.messages.get ref) context admission)
    (htype : (w.messages.get ref).type = .taskDelegation)
    (hunfit : ¬ Delegable (w.messages.get ref)) :
    ∃ fault, outcomeOf (send conversationId ref context) w = .error fault ∧
      fault.isOrchestration = false := by
  obtain ⟨w₁, hdeliver, -⟩ := run_deliver conversationId ref admission w
  have hrun := run_send_of_admitted hadmitted hdeliver
  obtain ⟨receiver, hsome, -⟩ := receiver_of_delegation htype hadmitted.receiver
  have hstamped : (stampedAt w ref).type = .taskDelegation := htype
  rw [hsome, startWorker_of_eq hstamped, EStateM.run_bind] at hrun
  rcases run_delegate conversationId (stampedAt w ref) receiver w₁ with
    ⟨-, fault, hforeign, hdelegate⟩ | ⟨hdelegable, -⟩
  · rw [hdelegate] at hrun
    exact ⟨fault, (run_eq_error_iff.mp hrun).1, hforeign⟩
  · exact absurd (delegable_stampedAt.mp hdelegable) hunfit

/-! ## What has come of a message -/

section Outcomes

variable {w' : World σ τ} {ref : Ref Message} {outcome : Except Fault Message}

/-- A message that is not let in leaves the world as it was. -/
theorem Sending.eq_or_admitted (h : Sending w conversationId ref context outcome w') :
    w' = w ∨ ∃ admission, Admitted w conversationId (w.messages.get ref) context admission := by
  cases h with
  | refused => exact .inl rfl
  | posted hadmitted => exact .inr ⟨_, hadmitted⟩
  | delegated hadmitted => exact .inr ⟨_, hadmitted⟩
  | unstarted hadmitted => exact .inr ⟨_, hadmitted⟩

/-- A message that is let in is appended to its conversation, whatever comes of it. -/
theorem Sending.conversations {admission : Admission}
    (hadmitted : Admitted w conversationId (w.messages.get ref) context admission)
    (h : Sending w conversationId ref context outcome w') :
    w'.conversations = Table.insert w.conversations conversationId
        (appended admission.conversation (stampedAt w ref) w.surroundings.clock.now) ∧
      w.issued < w'.issued := by
  -- The message is posted in the conversation that admits it, of which there is only one.
  have hposted : ∀ {other : Admission} {w₁ : World σ τ},
      Admitted w conversationId (w.messages.get ref) context other →
      Posted w conversationId other.conversation (stampedAt w ref) w₁ →
      w₁.conversations = Table.insert w.conversations conversationId
          (appended admission.conversation (stampedAt w ref) w.surroundings.clock.now) ∧
        w.issued < w₁.issued := by
    intro other w₁ hother hposted
    have hsame : other.conversation = admission.conversation :=
      Option.some.inj (hother.found.symm.trans hadmitted.found)
    rw [hposted.conversations, hposted.issued, hsame]
    exact ⟨rfl, Nat.lt_succ_self _⟩
  cases h with
  | refused hrefused =>
    rw [admissionOf_eq_ok_iff.mpr hadmitted] at hrefused
    cases hrefused
  | posted hother hpost => exact hposted hother hpost
  | delegated hother hpost _ _ hdelegated =>
    obtain ⟨htable, hissued⟩ := hposted hother hpost
    exact ⟨hdelegated.conversations.trans htable, by rw [hdelegated.issued]; omega⟩
  | unstarted hother hpost =>
    obtain ⟨htable, hissued⟩ := hposted hother hpost
    exact ⟨htable, Nat.lt_succ_of_lt hissued⟩

end Outcomes

end Orchestration.Engine
