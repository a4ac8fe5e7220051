import Orchestration.Proofs.Session

/-!
# The integrity of delegation

A message that delegates a task starts one worker, and no other message starts any. The worker
carries out the task that it was started for, as the receiver, and nothing else; if that task
completes, the worker posts one response, provided that the conversation is still active and the
receiver is still registered. The response answers a message of the same log.

What a worker does is taken apart along its code: it leaves the queue (`dequeued`), executes its
task, and responds (`responded`). The invariant of the engine says what the worker was started for.
The main statement is `delegation_integrity`.
-/

namespace Orchestration.Engine

variable {σ τ : Type}

/-! ## The response -/

/-- Whoever a message names, it has no need of a receiver unless it delegates a task. -/
theorem receiverOf_of_ne {message : Message} (htype : message.type ≠ .taskDelegation)
    (agents : AgentStore) :
    ∃ receiver, receiverOf agents message = .ok receiver := by
  unfold receiverOf
  rw [if_neg htype]
  split
  · exact ⟨_, rfl⟩
  · split
    · exact ⟨_, rfl⟩
    · exact ⟨_, rfl⟩

/-- A fault that is reported has at most left a line in the journal. -/
theorem worldAfter_report (fault : Fault) (text : String) (w : World σ τ) :
    ∃ journal, worldAfter (report fault text : Run σ τ Unit) w = { w with journal } := by
  unfold report
  split
  · exact ⟨_, rfl⟩
  · exact ⟨w.journal, rfl⟩

section Responding

variable [Time τ]

/-- A call without a context is never stopped. -/
theorem check_none (s : Surroundings τ) (taskId : Option String) :
    s.check none taskId = .ok () := rfl

/-- What asks for no work is admitted without a context if its conversation is active and its
sender is registered. -/
theorem admitted_iff {w : World σ τ} {conversationId : String} {message : Message}
    {conversation : Conversation} (htype : message.type ≠ .taskDelegation)
    (hfound : Table.find? w.conversations conversationId = some conversation) :
    (∃ admission, Admitted w conversationId message none admission) ↔
      conversation.status = .active ∧ (w.agents.find? message.fromAgent).isSome := by
  constructor
  · rintro ⟨admission, hadmitted⟩
    have hsame := hadmitted.found
    rw [hfound, Option.some.injEq] at hsame
    exact ⟨hsame ▸ hadmitted.active, by rw [hadmitted.sender]; rfl⟩
  · rintro ⟨hactive, hregistered⟩
    obtain ⟨sender, hsender⟩ := Option.isSome_iff_exists.mp hregistered
    obtain ⟨receiver, hreceiver⟩ := receiverOf_of_ne htype w.agents
    exact ⟨⟨conversation, sender, receiver⟩, check_none _ _, hfound, hactive, hsender, hreceiver⟩

/-- Sending what asks for no work is posting it, or nothing at all. -/
theorem worldAfter_send_plain {w : World σ τ} {conversationId : String} {ref : Ref Message}
    {conversation : Conversation} (htype : (w.messages.get ref).type ≠ .taskDelegation)
    (hfound : Table.find? w.conversations conversationId = some conversation) :
    let w' := worldAfter (send conversationId ref none) w
    let admissible := conversation.status = .active ∧
      (w.agents.find? (w.messages.get ref).fromAgent).isSome
    (admissible → Posted w conversationId conversation (stampedAt w ref) w') ∧
      (¬ admissible → w' = w) := by
  intro w' admissible
  -- Two of the four ways in which sending comes out are those of delegations.
  have hadmitted_iff := admitted_iff htype hfound
  have hsending := sending conversationId ref none w
  generalize outcomeOf (send conversationId ref none) w = outcome at hsending
  change Sending w conversationId ref none outcome w' at hsending
  generalize w' = sent at hsending
  cases hsending with
  | refused hrefused =>
    refine ⟨fun hadmissible => ?_, fun _ => rfl⟩
    obtain ⟨admission, hadmitted⟩ := hadmitted_iff.mpr hadmissible
    rw [admissionOf_eq_ok_iff.mpr hadmitted] at hrefused
    cases hrefused
  | @posted admission _ hadmitted hposted =>
    refine ⟨fun _ => ?_, fun hnot => absurd (hadmitted_iff.mp ⟨_, hadmitted⟩) hnot⟩
    have hsame := hadmitted.found
    rw [hfound, Option.some.injEq] at hsame
    rw [hsame]
    exact hposted
  | delegated _ _ hdelegates => exact absurd hdelegates htype
  | unstarted _ _ hdelegates _ => exact absurd hdelegates htype

/-- The message that a worker posts when its task is done. -/
def responseAt (w : World σ τ) (delegation : Delegation) (taskId output : String) : Message :=
  stamped (response delegation (w.agents.agent delegation.receiver) taskId output)
    (Identifier.issue w.issued) w.surroundings.clock.now

/-- The world in which a worker has its response ready. -/
def drafted (w : World σ τ) (delegation : Delegation) (taskId output : String) : World σ τ :=
  { w with messages :=
      w.messages.add (response delegation (w.agents.agent delegation.receiver) taskId output) }

/-- Responding is sending a new message, but for what is logged of a failure. -/
theorem worldAfter_respond (delegation : Delegation) (taskId output : String) (w : World σ τ) :
    let w' := worldAfter (send delegation.conversationId w.messages.next none)
      (drafted w delegation taskId output)
    ∃ journal, worldAfter (respond delegation taskId output) w = { w' with journal } := by
  intro w'
  rw [respond, worldAfter_bind_of_run_eq (run_agent _ _),
    worldAfter_bind_of_run_eq (run_newMessage _ _), worldAfter_bind_of_run_eq (run_attempt _ _)]
  -- What is left of the run is what it does about a failure to send.
  split
  · exact ⟨w'.journal, rfl⟩
  · exact worldAfter_report _ _ _

/-- A response is posted exactly if the conversation is active and the receiver is registered.
Nobody is asked for any work. -/
theorem responded (delegation : Delegation) (taskId output : String) {w : World σ τ}
    {conversation : Conversation}
    (hfound : Table.find? w.conversations delegation.conversationId = some conversation) :
    let w' := worldAfter (respond delegation taskId output) w
    w'.workers = w.workers ∧ w'.tasks = w.tasks ∧ w'.history = w.history ∧
      w'.conversations =
        if conversation.status = .active ∧
            (w.agents.find? (w.agents.agent delegation.receiver).id).isSome then
          Table.insert w.conversations delegation.conversationId (appended conversation
            (responseAt w delegation taskId output) w.surroundings.clock.now)
        else w.conversations := by
  intro w'
  obtain ⟨journal, hworld⟩ := worldAfter_respond delegation taskId output w
  have hmessage : (drafted w delegation taskId output).messages.get w.messages.next =
      response delegation (w.agents.agent delegation.receiver) taskId output :=
    Live.get_add_next _ _
  have htype : ((drafted w delegation taskId output).messages.get w.messages.next).type ≠
      .taskDelegation := by
    rw [hmessage]
    exact fun h => nomatch h
  -- A response delegates nothing, so sending it starts no worker.
  have hlaw := worldAfter_send_plain (w := drafted w delegation taskId output) htype hfound
  set sent := worldAfter (send delegation.conversationId w.messages.next none)
    (drafted w delegation taskId output)
  have hstamped : stampedAt (drafted w delegation taskId output) w.messages.next =
      responseAt w delegation taskId output := by
    rw [stampedAt, hmessage]
    rfl
  rw [hmessage, hstamped] at hlaw
  rw [show w' = { sent with journal } from hworld]
  by_cases hadmissible : conversation.status = .active ∧
      (w.agents.find? (w.agents.agent delegation.receiver).id).isSome
  · have hposted := hlaw.1 hadmissible
    rw [if_pos hadmissible]
    exact ⟨hposted.workers, hposted.tasks, hposted.history, hposted.conversations⟩
  · have hrefused := hlaw.2 hadmissible
    rw [if_neg hadmissible, hrefused]
    exact ⟨rfl, rfl, rfl, rfl⟩

end Responding

/-! ## The worker -/

section Working

/-- The world in which the worker at a position of the queue takes its task up. It has left the
queue, and has a thread of its own and the scope of its conversation. -/
def dequeued (w : World σ τ) (position : Nat) (delegation : Delegation) : World σ τ :=
  { w with
    workers := w.workers.eraseIdx position
    thread := delegationThread (w.tasks.task delegation.task).id
    scope := ({} : Log.Scope).enter { conversationId := some delegation.conversationId } }

variable [Time τ] [Backend σ τ]

/-- A worker runs to its end, and nobody hears of its failure. -/
theorem run_worker_of_delegation {w : World σ τ} {position : Nat} {delegation : Delegation}
    (hworker : w.workers[position]? = some delegation) :
    let w' := worldAfter (carryOut delegation) (dequeued w position delegation)
    (runQueued position).run w = .ok () { w' with scope := w.scope, thread := w.thread } := by
  intro w'
  -- The scope of the conversation is left again, and with the thread all scopes are.
  have hdelegation : ∃ scope, worldAfter (runDelegation delegation) { w with
      workers := w.workers.eraseIdx position
      scope := {}
      thread := delegationThread (w.tasks.task delegation.task).id } = { w' with scope } :=
    ⟨_, worldAfter_within _ _ _⟩
  obtain ⟨scope, hdelegation⟩ := hdelegation
  rw [run_runQueued hworker]
  simp only [runWorkerOf, EStateM.run_bind, run_task, run_inThread, run_attempt]
  rw [hdelegation]
  rfl

/-- A worker whose task has a result responds with it. -/
theorem worldAfter_carryOut_of_ok {delegation : Delegation} {w w' : World σ τ} {result : TaskResult}
    (h : (execute delegation.task delegation.receiver none true).run w = .ok result w') :
    worldAfter (carryOut delegation) w =
      worldAfter (respond delegation (w'.tasks.task delegation.task).id result.output) w' := by
  obtain ⟨houtcome, hworld⟩ := run_eq_ok_iff.mp h
  rw [carryOut, worldAfter_bind_of_run_eq (run_attempt _ _),
    worldAfter_bind_of_run_eq (run_task _ _), houtcome, hworld]

/-- A worker whose task has failed only logs that. -/
theorem worldAfter_carryOut_of_error {delegation : Delegation} {w w' : World σ τ} {fault : Fault}
    (h : (execute delegation.task delegation.receiver none true).run w = .error fault w') :
    ∃ journal, worldAfter (carryOut delegation) w = { w' with journal } := by
  obtain ⟨houtcome, hworld⟩ := run_eq_error_iff.mp h
  rw [carryOut, worldAfter_bind_of_run_eq (run_attempt _ _),
    worldAfter_bind_of_run_eq (run_task _ _), houtcome, hworld]
  exact worldAfter_report _ _ _

end Working

/-! ## Integrity -/

/-- The message posts the output of a delegated task to the sender of the delegation. -/
structure Answers (delegation : Delegation) (task : Task) (answer : Message) : Prop where
  type : answer.type = .response
  fromAgent : answer.fromAgent = delegation.message.toAgent
  toAgent : answer.toAgent = delegation.message.fromAgent
  content : answer.content = task.output
  context : answer.context =
    [("task_id", .text task.id), ("original_message_id", .text delegation.message.id)]

/-- The work that the worker at a position of the queue has done when it has run to its end. -/
structure WorkDone [Time τ] [Backend σ τ] (w : World σ τ) (position : Nat)
    (delegation : Delegation) (w' : World σ τ) : Prop where
  /-- The worker has left the queue, and nobody has joined it. -/
  workers : w'.workers = w.workers.eraseIdx position
  /-- What happened to tasks, and the calls to the outside, are those of a single execution. -/
  execution : ∃ w₁, w₁ = worldAfter (execute delegation.task delegation.receiver none true)
      (dequeued w position delegation) ∧ w'.tasks = w₁.tasks ∧ w'.history = w₁.history
  recorded : w'.tasks.index =
    Table.insert w.tasks.index (w.tasks.task delegation.task).id delegation.task
  otherTasks : ∀ other, other ≠ delegation.task → w'.tasks.task other = w.tasks.task other
  /-- The task belongs to the receiver. -/
  agentId : (w'.tasks.task delegation.task).agentId = delegation.message.toAgent

/-- What the run of the worker at a position of the queue comes to, when its conversation was as
given. -/
structure Worked [Time τ] [Backend σ τ] (w : World σ τ) (position : Nat) (delegation : Delegation)
    (conversation : Conversation) (w' : World σ τ) : Prop
    extends WorkDone w position delegation w' where
  ended : (w'.tasks.task delegation.task).status = .completed ∨
    (w'.tasks.task delegation.task).status = .failed
  /-- The output of a task that is complete ends the log, if it can still be posted. -/
  answered : (w'.tasks.task delegation.task).status = .completed →
    conversation.status = .active → (w.agents.find? delegation.message.toAgent).isSome →
      ∃ answer time, Answers delegation (w'.tasks.task delegation.task) answer ∧
        w'.conversations = Table.insert w.conversations delegation.conversationId
          (appended conversation answer time)
  /-- Otherwise no message is posted anywhere. -/
  silent : ¬ ((w'.tasks.task delegation.task).status = .completed ∧
      conversation.status = .active ∧ (w.agents.find? delegation.message.toAgent).isSome) →
    w'.conversations = w.conversations

section Queueing

variable [Time τ]

/-- A message that is sent starts a worker exactly if it delegates a task. -/
theorem workers_of_run_send {w w' : World σ τ} {conversationId : String} {ref : Ref Message}
    {context : Option String} {sent : Message}
    (h : (send conversationId ref context).run w = .ok sent w') :
    sent.type = (w.messages.get ref).type ∧
      (sent.type = .taskDelegation → ∃ receiver task, w'.workers = w.workers ++
        [{ conversationId, message := sent, receiver, task }]) ∧
      (sent.type ≠ .taskDelegation → w'.workers = w.workers) := by
  have hsending := sending conversationId ref context w
  obtain ⟨houtcome, hworld⟩ := run_eq_ok_iff.mp h
  rw [houtcome, hworld] at hsending
  cases hsending with
  | posted hadmitted hposted htype =>
    exact ⟨rfl, fun hdelegates => absurd hdelegates htype, fun _ => hposted.workers⟩
  | @delegated _ receiver w₁ _ hadmitted hposted htype hreceiver hdelegated =>
    refine ⟨rfl, fun _ => ⟨receiver, w₁.tasks.live.next, ?_⟩, fun hnot => absurd htype hnot⟩
    rw [hdelegated.workers, hposted.workers]

/-- A message that is not sent starts no worker. -/
theorem workers_of_run_send_error {w w' : World σ τ} {conversationId : String} {ref : Ref Message}
    {context : Option String} {fault : Fault}
    (h : (send conversationId ref context).run w = .error fault w') :
    w'.workers = w.workers := by
  have hsending := sending conversationId ref context w
  obtain ⟨houtcome, hworld⟩ := run_eq_error_iff.mp h
  rw [houtcome, hworld] at hsending
  cases hsending with
  | refused => rfl
  | unstarted hadmitted hposted => exact hposted.workers

end Queueing

section Integrity

variable [Time τ] [Backend σ τ]

/-- Whatever comes of the execution, a worker that was queued rightly has done its work when it has
left the tasks as the execution did. -/
theorem workDone {w w₁ w' : World σ τ} {position : Nat} {delegation : Delegation}
    {outcome : Except Fault TaskResult} (hqueued : Queued w delegation)
    (hexecuted : Executed (dequeued w position delegation) delegation.task delegation.receiver true
      outcome w₁)
    (hworld : worldAfter (execute delegation.task delegation.receiver none true)
      (dequeued w position delegation) = w₁)
    (hworkers : w'.workers = w₁.workers) (htasks : w'.tasks = w₁.tasks)
    (hhistory : w'.history = w₁.history) : WorkDone w position delegation w' where
  workers := hworkers.trans hexecuted.books.workers
  execution := ⟨w₁, hworld.symm, htasks, hhistory⟩
  recorded := htasks ▸ hexecuted.index
  otherTasks other hne := htasks ▸ hexecuted.task_of_ne hne
  agentId := by
    have hsame : SameWork (w.tasks.task delegation.task) (w₁.tasks.task delegation.task) :=
      hexecuted.sameWork delegation.task
    have hne : (w.tasks.task delegation.task).agentId ≠ "" := hqueued.taskAgent ▸ hqueued.named
    rw [htasks, hsame.agentId hne, hqueued.taskAgent]

/-- A worker that was queued rightly does its work, and answers if that is possible. -/
theorem worked {w : World σ τ} {position : Nat} {delegation : Delegation}
    {conversation : Conversation} (hworker : w.workers[position]? = some delegation)
    (hqueued : Queued w delegation)
    (hfound : Table.find? w.conversations delegation.conversationId = some conversation) :
    ∃ w', (runQueued position).run w = .ok () w' ∧
      Worked w position delegation conversation w' := by
  refine ⟨_, run_worker_of_delegation hworker, ?_⟩
  cases hrun : (execute delegation.task delegation.receiver none true).run
      (dequeued w position delegation) with
  | ok result w₁ =>
    -- The execution has not touched conversations, queue and register, so whether the response is
    -- posted is decided by the world in which the worker began.
    have hexecuted := executed_of_run_ok hrun
    obtain ⟨hstatus, houtput⟩ := hexecuted.completed hqueued.task
    have hid : (w₁.agents.agent delegation.receiver).id = delegation.message.toAgent :=
      (hexecuted.books.agents.id _).trans hqueued.receiverId
    obtain ⟨hworkers, htasks, hhistory, hconversations⟩ := responded delegation
      (w₁.tasks.task delegation.task).id result.output (hexecuted.books.conversations ▸ hfound)
    rw [← worldAfter_carryOut_of_ok hrun] at hworkers htasks hhistory hconversations
    rw [hid, hexecuted.books.agents.find?, hexecuted.books.conversations] at hconversations
    refine ⟨workDone hqueued hexecuted (run_eq_ok_iff.mp hrun).2 hworkers htasks hhistory,
      .inl (htasks ▸ hstatus), fun _ hactive hregistered => ?_, fun hnot => ?_⟩
    · refine ⟨responseAt w₁ delegation (w₁.tasks.task delegation.task).id result.output,
        w₁.surroundings.clock.now, ⟨rfl, hid, rfl, ?_, ?_⟩, ?_⟩
      · exact (htasks ▸ houtput).symm
      · exact htasks ▸ rfl
      · exact hconversations.trans (if_pos ⟨hactive, hregistered⟩)
    · refine hconversations.trans (if_neg fun hposted => hnot ⟨?_, hposted⟩)
      exact htasks ▸ hstatus
  | error fault w₁ =>
    -- Nothing follows a failed execution but a line in the journal.
    have hexecuted := executed_of_run_error hrun
    obtain ⟨hstatus, -⟩ := hexecuted.failed hqueued.task
    obtain ⟨journal, hworld⟩ := worldAfter_carryOut_of_error hrun
    rw [hworld]
    refine ⟨workDone hqueued hexecuted (run_eq_error_iff.mp hrun).2 rfl rfl rfl,
      .inr hstatus, fun hcompleted => ?_, fun _ => hexecuted.books.conversations⟩
    rw [hstatus] at hcompleted
    cases hcompleted

/-- **The integrity of delegation.** In every run of an engine, a message that is sent starts one
worker if it delegates a task, and otherwise none. Each worker in the queue was started for a
message in the log of its conversation. Whenever it runs, it runs to its end, carries out its task
for the receiver, and answers that message once if the task completes while that is possible. -/
theorem delegation_integrity {w : World σ τ} (hreachable : Reachable w) :
    (∀ conversationId ref context,
      (∀ sent w', (send conversationId ref context).run w = .ok sent w' →
        sent.type = (w.messages.get ref).type ∧
          (sent.type = .taskDelegation → ∃ receiver task, w'.workers = w.workers ++
            [{ conversationId, message := sent, receiver, task }]) ∧
          (sent.type ≠ .taskDelegation → w'.workers = w.workers)) ∧
      ∀ fault w', (send conversationId ref context).run w = .error fault w' →
        w'.workers = w.workers) ∧
    ∀ position delegation, w.workers[position]? = some delegation →
      ∃ conversation w',
        Table.find? w.conversations delegation.conversationId = some conversation ∧
        delegation.message ∈ conversation.messages ∧
        delegation.message.type = .taskDelegation ∧
        (runQueued position).run w = .ok () w' ∧
        Worked w position delegation conversation w' := by
  refine ⟨fun conversationId ref context => ⟨fun sent w' h => workers_of_run_send h,
    fun fault w' h => workers_of_run_send_error h⟩, fun position delegation hworker => ?_⟩
  have hqueued := hreachable.consistent.workers delegation (List.mem_of_getElem? hworker)
  obtain ⟨conversation, hfound, hmem⟩ := hqueued.logged
  obtain ⟨w', hrun, hworked⟩ := worked hworker hqueued hfound
  exact ⟨conversation, w', hfound, hmem, hqueued.type, hrun, hworked⟩

end Integrity

/-- An agent is registered, and delegates a task to itself. -/
def firstDelegation : List (Event (Scripted.Script Rat) Rat) :=
  [.makeAgent { id := "helper", name := "Helper" },
    .createAgent ⟨0⟩ none,
    .startConversation ["helper"] "chores" [] none,
    .makeMessage { fromAgent := "helper", toAgent := "helper", type := .taskDelegation },
    .send (Identifier.issue 1) ⟨0⟩ none]

/-- The worker of the first delegation does its work. -/
theorem delegation_integrity_firstDelegation :
    let w := after quietEngine firstDelegation
    Reachable w ∧ ∃ delegation conversation w', w.workers = [delegation] ∧
      (runQueued 0).run w = .ok () w' ∧ Worked w 0 delegation conversation w' := by
  intro w
  have hrun : AdmissibleFrom quietEngine firstDelegation :=
    ⟨trivial, Nat.zero_lt_one, trivial, trivial, trivial, trivial⟩
  have hreachable : Reachable w := ⟨quietEngine, fresh_quietEngine, reaches_after hrun⟩
  have hlength : w.workers.length = 1 := rfl
  obtain ⟨delegation, hworkers⟩ := List.length_eq_one_iff.mp hlength
  have hworker : w.workers[0]? = some delegation := by
    rw [hworkers]
    rfl
  obtain ⟨conversation, w', -, -, -, hworked⟩ :=
    (delegation_integrity hreachable).2 0 delegation hworker
  exact ⟨hreachable, delegation, conversation, w', hworkers, hworked⟩

end Orchestration.Engine
