import Orchestration.Proofs.Conversation.Opening
import Orchestration.Proofs.Identifier
import Orchestration.Proofs.Operations

/-!
# What always holds of an engine

A world is `Consistent` if its register is in order, its conversations are kept under identifiers
that were issued, and each worker in the queue belongs to a message in the log of its conversation
that delegates its task to its receiver.

From a consistent world an engine only goes to consistent ones, and what was there is still there:
agents, tasks, conversations (`Evolves`). The two are proved together, as one preorder (`Advances`),
because the identifier of a new conversation is known to be new only in a consistent world.

The main statement is `advances`: every operation advances the engine, whether it succeeds or fails.
-/

namespace Orchestration.Engine

variable {σ τ : Type}

/-! ## What stays of a conversation and of the tasks -/

/-- The second conversation is the first one at a later time: messages may have come to the end of
its log, or it may have been closed. Nothing changes in a closed one. -/
structure Continues (conversation later : Conversation) : Prop where
  id : later.id = conversation.id
  participants : later.participants = conversation.participants
  topic : later.topic = conversation.topic
  metadata : later.metadata = conversation.metadata
  createdAt : later.createdAt = conversation.createdAt
  messages : conversation.messages <+: later.messages
  closed : conversation.status = .closed → later = conversation

instance : IsPreorder Conversation Continues where
  refl _ := ⟨rfl, rfl, rfl, rfl, rfl, List.prefix_refl _, fun _ => rfl⟩
  trans a b c h h' := {
    id := h'.id.trans h.id
    participants := h'.participants.trans h.participants
    topic := h'.topic.trans h.topic
    metadata := h'.metadata.trans h.metadata
    createdAt := h'.createdAt.trans h.createdAt
    messages := h.messages.trans h'.messages
    closed := fun hclosed => by
      have hb : b = a := h.closed hclosed
      have hc : c = b := h'.closed (hb ▸ hclosed)
      rw [hc, hb] }

/-- Live tasks stay live, and ask for the same work. -/
structure KeepsWork (tasks later : TaskStore) : Prop where
  has : ∀ {ref}, tasks.live.Has ref → later.live.Has ref
  work : ∀ {ref}, tasks.live.Has ref → SameWork (tasks.task ref) (later.task ref)

instance : IsPreorder TaskStore KeepsWork where
  refl _ := ⟨fun h => h, fun _ => Std.Refl.refl _⟩
  trans _ _ _ h h' := {
    has := fun hhas => h'.has (h.has hhas)
    work := fun hhas => IsTrans.trans _ _ _ (h.work hhas) (h'.work (h.has hhas)) }

/-- A task that is made comes behind those that are live. -/
theorem keepsWork_add (tasks : TaskStore) (task : Task) : KeepsWork tasks (tasks.add task) where
  has := Live.has_add_of_has task
  work {ref} hhas := by
    have hsame : (tasks.add task).task ref = tasks.task ref :=
      Live.get_add_of_has tasks.live task hhas
    rw [hsame]
    exact Std.Refl.refl _

/-! ## The invariant -/

/-- A worker in the queue was started for a message in the log of its conversation, which delegates
the worker's task to the worker's receiver. -/
structure Queued (w : World σ τ) (delegation : Delegation) : Prop where
  receiver : w.agents.live.Has delegation.receiver
  receiverId : (w.agents.agent delegation.receiver).id = delegation.message.toAgent
  named : delegation.message.toAgent ≠ ""
  task : w.tasks.live.Has delegation.task
  taskAgent : (w.tasks.task delegation.task).agentId = delegation.message.toAgent
  type : delegation.message.type = .taskDelegation
  logged : ∃ conversation,
    Table.find? w.conversations delegation.conversationId = some conversation ∧
      delegation.message ∈ conversation.messages

/-- The invariant of an engine. -/
structure Consistent (w : World σ τ) : Prop where
  agents : w.agents.InOrder
  conversations : ∀ id conversation, Table.find? w.conversations id = some conversation →
    conversation.id = id ∧ ∃ n < w.issued, id = Identifier.issue n
  workers : ∀ delegation ∈ w.workers, Queued w delegation

/-- What is there in the first world is still there in the second one. -/
structure Evolves (w w' : World σ τ) : Prop where
  issued : w.issued ≤ w'.issued
  agents : AgentStore.Keeps w.agents w'.agents
  tasks : KeepsWork w.tasks w'.tasks
  conversations : ∀ id conversation, Table.find? w.conversations id = some conversation →
    ∃ later, Table.find? w'.conversations id = some later ∧ Continues conversation later

instance : IsPreorder (World σ τ) Evolves where
  refl _ := ⟨Nat.le_refl _, Std.Refl.refl _, Std.Refl.refl _, fun _ c h => ⟨c, h, Std.Refl.refl _⟩⟩
  trans _ _ _ h h' := {
    issued := Nat.le_trans h.issued h'.issued
    agents := IsTrans.trans _ _ _ h.agents h'.agents
    tasks := IsTrans.trans _ _ _ h.tasks h'.tasks
    conversations := fun id conversation hfound => by
      obtain ⟨later, hlater, hcontinues⟩ := h.conversations id conversation hfound
      obtain ⟨last, hlast, hcontinues'⟩ := h'.conversations id later hlater
      exact ⟨last, hlast, IsTrans.trans _ _ _ hcontinues hcontinues'⟩ }

/-- A worker that was started rightly stays in the right. -/
theorem Queued.evolves {w w' : World σ τ} {delegation : Delegation} (h : Queued w delegation)
    (hevolves : Evolves w w') : Queued w' delegation where
  receiver := hevolves.agents.has h.receiver
  receiverId := by
    -- Only an agent without an id could be given another one.
    have hne : (w.agents.agent delegation.receiver).id ≠ "" := h.receiverId ▸ h.named
    rw [hevolves.agents.id h.receiver hne, h.receiverId]
  named := h.named
  task := hevolves.tasks.has h.task
  taskAgent := by
    have hne : (w.tasks.task delegation.task).agentId ≠ "" := h.taskAgent ▸ h.named
    rw [(hevolves.tasks.work h.task).agentId hne, h.taskAgent]
  type := h.type
  logged := by
    obtain ⟨conversation, hfound, hmem⟩ := h.logged
    obtain ⟨later, hlater, hcontinues⟩ := hevolves.conversations _ _ hfound
    exact ⟨later, hlater, hcontinues.messages.subset hmem⟩

/-- From a consistent world, the engine has come to a consistent one, and what was there is still
there. -/
def Advances (w w' : World σ τ) : Prop :=
  Consistent w → Consistent w' ∧ Evolves w w'

instance : IsPreorder (World σ τ) Advances where
  refl w h := ⟨h, Std.Refl.refl w⟩
  trans _ _ _ h h' hconsistent := by
    obtain ⟨hmiddle, hevolves⟩ := h hconsistent
    obtain ⟨hlast, hevolves'⟩ := h' hmiddle
    exact ⟨hlast, IsTrans.trans _ _ _ hevolves hevolves'⟩

/-! ## How worlds advance -/

section

variable {w w' : World σ τ}

/-- A change that leaves the conversations alone, starts no worker, and keeps agents and tasks. -/
theorem advances_of_keeps (hissued : w.issued ≤ w'.issued)
    (hagents : w.agents.InOrder → w'.agents.InOrder ∧ AgentStore.Keeps w.agents w'.agents)
    (htasks : KeepsWork w.tasks w'.tasks) (hconversations : w'.conversations = w.conversations)
    (hworkers : w'.workers ⊆ w.workers) : Advances w w' := by
  intro h
  have hevolves : Evolves w w' := by
    refine ⟨hissued, (hagents h.agents).2, htasks, fun id conversation hfound => ?_⟩
    exact ⟨conversation, hconversations ▸ hfound, Std.Refl.refl _⟩
  refine ⟨⟨(hagents h.agents).1, ?_, ?_⟩, hevolves⟩
  · intro id conversation hfound
    rw [hconversations] at hfound
    obtain ⟨hid, n, hn, hissue⟩ := h.conversations id conversation hfound
    exact ⟨hid, n, Nat.lt_of_lt_of_le hn hissued, hissue⟩
  · intro delegation hmem
    exact (h.workers delegation (hworkers hmem)).evolves hevolves

/-- A change of the books and tasks that touches neither. -/
theorem advances_of_sameBooks (hbooks : SameBooks w w') (htasks : KeepsWork w.tasks w'.tasks) :
    Advances w w' :=
  advances_of_keeps (Nat.le_of_eq hbooks.issued.symm)
    (fun horder => ⟨hbooks.agents.inOrder horder, hbooks.agents.keeps⟩) htasks hbooks.conversations
    (hbooks.workers ▸ List.Subset.refl _)

/-- Work on a task that was taken up touches no task and no conversation. -/
theorem OnlyWork.advances (h : OnlyWork w w') : Advances w w' :=
  advances_of_sameBooks h.toSameBooks (h.tasks ▸ Std.Refl.refl _)

/-- An execution touches no task but its own, which asks for the same work as before. -/
theorem Executed.advances {ref : Ref Task} {agentRef : Ref Agent} {tracked : Bool}
    {outcome : Except Fault TaskResult} (h : Executed w ref agentRef tracked outcome w') :
    Advances w w' :=
  advances_of_sameBooks h.books ⟨h.has, fun _ => h.sameWork _⟩

/-- A change of one conversation, which goes on, or which is new. -/
theorem Consistent.insert {id : String} {later : Conversation} (h : Consistent w)
    (hconversations : w'.conversations = Table.insert w.conversations id later)
    (hcontinues : ∀ conversation, Table.find? w.conversations id = some conversation →
      Continues conversation later)
    (hid : later.id = id) (hissue : ∃ n < w'.issued, id = Identifier.issue n)
    (hissued : w.issued ≤ w'.issued) (hagents : AgentStore.SameRegister w.agents w'.agents)
    (htasks : w'.tasks = w.tasks) (hworkers : w'.workers = w.workers) :
    Consistent w' ∧ Evolves w w' := by
  have hfind : ∀ other, Table.find? w'.conversations other =
      if other = id then some later else Table.find? w.conversations other := by
    intro other
    rw [hconversations, Table.find?_insert]
  -- The workers in the queue rely on what stays, so that comes first.
  have hevolves : Evolves w w' := by
    refine ⟨hissued, hagents.keeps, htasks ▸ Std.Refl.refl _, fun other conversation hfound => ?_⟩
    rw [hfind]
    split
    next heq => exact ⟨later, rfl, hcontinues conversation (heq ▸ hfound)⟩
    next => exact ⟨conversation, hfound, Std.Refl.refl _⟩
  refine ⟨⟨hagents.inOrder h.agents, ?_, ?_⟩, hevolves⟩
  · intro other conversation hfound
    rw [hfind] at hfound
    split at hfound
    -- The conversation that was changed is still kept under its identifier.
    next heq =>
      cases hfound
      exact ⟨heq ▸ hid, heq ▸ hissue⟩
    next =>
      obtain ⟨hother, n, hn, hn_issue⟩ := h.conversations other conversation hfound
      exact ⟨hother, n, Nat.lt_of_lt_of_le hn hissued, hn_issue⟩
  · intro delegation hmem
    rw [hworkers] at hmem
    exact (h.workers delegation hmem).evolves hevolves

/-- A message that is posted to an active conversation ends its log. -/
theorem Posted.advances {id : String} {conversation : Conversation} {message : Message}
    (h : Posted w id conversation message w')
    (hfound : Table.find? w.conversations id = some conversation)
    (hactive : conversation.status = .active) : Advances w w' := by
  intro hconsistent
  obtain ⟨hid, n, hn, hissue⟩ := hconsistent.conversations id conversation hfound
  have hissued : w.issued ≤ w'.issued := by
    rw [h.issued]
    exact Nat.le_succ _
  refine hconsistent.insert h.conversations ?_ hid ⟨n, Nat.lt_of_lt_of_le hn hissued, hissue⟩
    hissued h.agents h.tasks h.workers
  intro other hother
  rw [hfound] at hother
  cases hother
  -- The conversation was not closed before.
  refine ⟨rfl, rfl, rfl, rfl, rfl, List.prefix_append _ _, fun hclosed => ?_⟩
  rw [hactive] at hclosed
  cases hclosed

/-- No conversation has an identifier that is still to be issued. -/
theorem Consistent.find?_issue (h : Consistent w) {n : Nat} (hn : w.issued ≤ n) :
    Table.find? w.conversations (Identifier.issue n) = none := by
  rw [Option.eq_none_iff_forall_ne_some]
  intro other hother
  obtain ⟨-, m, hm, hissue⟩ := h.conversations _ other hother
  have heq := Identifier.issue_injective hissue
  omega

/-- A conversation that is started is new: its identifier was not issued before. -/
theorem Started.advances {conversation : Conversation} (h : Started w conversation w') :
    Advances w w' := by
  intro hconsistent
  -- Here the invariant is needed: no conversation is in the place of the new one.
  have hnew := hconsistent.find?_issue (Nat.le_refl w.issued)
  have hlt : w.issued < w'.issued := by
    rw [h.issued]
    exact Nat.lt_succ_self _
  refine hconsistent.insert h.conversations ?_ h.id ⟨w.issued, hlt, rfl⟩ (Nat.le_of_lt hlt)
    h.agents h.tasks h.workers
  intro other hother
  rw [hnew] at hother
  cases hother

/-- A conversation that is closed keeps its log. -/
theorem Closed.advances {id : String} {conversation : Conversation}
    (h : Closed w id conversation w') : Advances w w' := by
  intro hconsistent
  obtain ⟨hid, n, hn, hissue⟩ := hconsistent.conversations id conversation h.found
  refine hconsistent.insert h.conversations ?_ hid ⟨n, h.issued ▸ hn, hissue⟩
    (Nat.le_of_eq h.issued.symm) h.agents h.tasks h.workers
  intro other hother
  rw [h.found] at hother
  cases hother
  refine ⟨rfl, rfl, rfl, rfl, rfl, List.prefix_refl _, fun hclosed => ?_⟩
  rw [h.active] at hclosed
  cases hclosed

/-- A worker that was started for a message in the log is queued rightly. -/
theorem Delegated.advances {id : String} {conversation : Conversation} {message : Message}
    {receiver : Ref Agent} (h : Delegated w id message receiver w')
    (hreceiver : w.agents.find? message.toAgent = some receiver)
    (htype : message.type = .taskDelegation)
    (hfound : Table.find? w.conversations id = some conversation)
    (hmem : message ∈ conversation.messages) : Advances w w' := by
  intro hconsistent
  obtain ⟨hhas, hid, hne⟩ := hconsistent.agents _ _ hreceiver
  obtain ⟨task, htasks, hagent, -, -⟩ := h.tasks
  -- Without the new worker, the world is one in which the books are kept.
  have hbefore : Advances w { w' with workers := w.workers } := by
    refine advances_of_keeps ?_ ?_ ?_ h.conversations (List.Subset.refl _)
    · exact h.issued ▸ Nat.le_succ _
    · intro horder
      rw [h.agents]
      exact ⟨horder, Std.Refl.refl _⟩
    · rw [htasks]
      exact keepsWork_add _ _
  obtain ⟨hkept, hevolves⟩ := hbefore hconsistent
  have hevolves : Evolves w w' :=
    ⟨hevolves.issued, hevolves.agents, hevolves.tasks, hevolves.conversations⟩
  refine ⟨⟨hkept.agents, hkept.conversations, ?_⟩, hevolves⟩
  intro delegation hdelegation
  rw [h.workers, List.mem_append, List.mem_singleton] at hdelegation
  rcases hdelegation with hold | rfl
  -- The workers that were in the queue before, and the new one.
  · exact (hconsistent.workers delegation hold).evolves hevolves
  · refine ⟨hevolves.agents.has hhas, ?_, hne, ?_, ?_, htype, ⟨conversation, ?_, hmem⟩⟩
    · rw [h.agents, hid]
    · rw [htasks]
      exact Live.has_add_next _ _
    · have hnew : (w.tasks.add task).task w.tasks.live.next = task := Live.get_add_next _ _
      rw [htasks, hnew, hagent, hid]
    · rw [h.conversations, hfound]

/-- A change of the register by one of the operations of the store. -/
theorem advances_withAgents {agents : AgentStore}
    (h : w.agents.InOrder → agents.InOrder ∧ AgentStore.Keeps w.agents agents) :
    Advances w { w with agents } :=
  advances_of_keeps (Nat.le_refl _) h (Std.Refl.refl _) rfl (List.Subset.refl _)

/-- What concerns neither the books nor the tasks. -/
theorem advances_idle (w : World σ τ) (surroundings : Surroundings τ) (backend : σ)
    (scope : Log.Scope) (thread : String) (journal : List Log.Record) (history : List Call) :
    Advances w { w with surroundings, backend, scope, thread, journal, history } :=
  (onlyWork_with w surroundings backend scope thread journal history).advances

/-- An identifier that is issued cannot be issued once more. -/
theorem advances_issued (w : World σ τ) : Advances w { w with issued := w.issued + 1 } :=
  advances_of_keeps (Nat.le_succ _) (fun horder => ⟨horder, Std.Refl.refl _⟩) (Std.Refl.refl _) rfl
    (List.Subset.refl _)

/-- A task may be made at any time. -/
theorem advances_addTask (w : World σ τ) (task : Task) :
    Advances w { w with tasks := w.tasks.add task } :=
  advances_of_keeps (Nat.le_refl _) (fun horder => ⟨horder, Std.Refl.refl _⟩)
    (keepsWork_add w.tasks task) rfl (List.Subset.refl _)

/-- A caller may do to messages whatever it likes: logs hold copies of them. -/
theorem advances_withMessages (w : World σ τ) (messages : Live Message) :
    Advances w { w with messages } :=
  advances_of_keeps (Nat.le_refl _) (fun horder => ⟨horder, Std.Refl.refl _⟩) (Std.Refl.refl _) rfl
    (List.Subset.refl _)

/-- What the store refuses changes nothing; otherwise the new store takes the place of the old one,
and that is logged. -/
theorem advances_replaceAgents {result : Except Fault AgentStore}
    (h : ∀ agents, result = .ok agents →
      w.agents.InOrder → agents.InOrder ∧ AgentStore.Keeps w.agents agents)
    (note : AgentStore → String) :
    Advances w (worldAfter (do
      let agents ← lift result
      modify fun w => { w with agents }
      log .info agentLogger (note agents) : Run σ τ Unit) w) := by
  cases hresult : result with
  | error fault => exact Std.Refl.refl w
  | ok agents =>
    refine IsTrans.trans _ _ _ (advances_withAgents (h agents hresult)) ?_
    exact advances_idle { w with agents } _ _ _ _ _ _

/-- However a start ends, the engine is consistent behind it. -/
theorem Starting.advances {participants : List String} {topic : String} {metadata : Fields}
    {outcome : Except Fault Conversation}
    (h : Starting w participants topic metadata outcome w') : Advances w w' := by
  cases h with
  | refused => exact Std.Refl.refl _
  | started _ hstarted _ => exact hstarted.advances

/-- However a closing ends, the engine is consistent behind it. -/
theorem Closing.advances {id : String} {outcome : Except Fault Conversation}
    (h : Closing w id outcome w') : Advances w w' := by
  cases h with
  | refused => exact Std.Refl.refl _
  | again _ _ journal => exact advances_idle w _ _ _ _ journal _
  | closed hclosed => exact hclosed.advances

variable [Time τ] {ref : Ref Agent}

/-- An operation does nothing if its context says stop. -/
theorem advances_of_check {context : Option String} {run : Run σ τ Unit}
    (h : Advances w (worldAfter run w)) :
    Advances w (worldAfter (check context none >>= fun _ => run) w) :=
  rel_of_check (R := fun _ => Advances w) (fun _ => Std.Refl.refl w) h

/-- However the registration of an agent ends, the engine is consistent behind it. -/
theorem advances_createAgent (hhas : w.agents.live.Has ref) (context : Option String) :
    Advances w (worldAfter (createAgent ref context) w) := by
  refine advances_of_check (IsTrans.trans _ _ _ (advances_issued w) ?_)
  refine advances_replaceAgents (fun agents hcreate horder => ?_) fun agents =>
    "Created agent " ++ agentLabel (agents.agent ref)
  exact AgentStore.create_spec (Identifier.issue_ne_empty _) horder hhas hcreate

/-- However the update of an agent ends, the engine is consistent behind it. -/
theorem advances_updateAgent (hhas : w.agents.live.Has ref) (context : Option String) :
    Advances w (worldAfter (updateAgent ref context) w) := by
  refine advances_of_check ?_
  refine advances_replaceAgents (fun agents hupdate horder => ?_) fun agents =>
    "Updated agent " ++ agentLabel (agents.agent ref)
  exact AgentStore.update_spec horder hhas hupdate

/-- An agent that is deleted stays live, for the workers that it has. -/
theorem advances_deleteAgent (id : String) (context : Option String) :
    Guarantees Advances (deleteAgent id context : Run σ τ Unit) := by
  intro w
  refine advances_of_check ?_
  refine advances_replaceAgents (fun agents hdelete horder => ?_) fun _ => "Deleted agent " ++ id
  exact AgentStore.delete_spec horder hdelete

/-- However a sending ends, the engine is consistent behind it. -/
theorem Sending.advances {conversationId : String} {ref : Ref Message} {context : Option String}
    {outcome : Except Fault Message} (h : Sending w conversationId ref context outcome w') :
    Advances w w' := by
  cases h with
  | refused => exact Std.Refl.refl _
  | posted hadmitted hposted => exact hposted.advances hadmitted.found hadmitted.active
  | @delegated admission _ _ _ hadmitted hposted htype hreceiver hdelegated =>
    refine IsTrans.trans _ _ _ (hposted.advances hadmitted.found hadmitted.active) ?_
    have hfound := Table.find?_insert_self w.conversations conversationId
      (appended admission.conversation (stampedAt w ref) w.surroundings.clock.now)
    rw [← hposted.conversations] at hfound
    refine hdelegated.advances ?_ htype hfound ?_
    · rw [hposted.agents.find?]
      exact hreceiver
    · exact List.mem_append_right _ (List.mem_singleton_self _)
  | unstarted hadmitted hposted =>
    exact IsTrans.trans _ _ _ (hposted.advances hadmitted.found hadmitted.active)
      (advances_issued _)

end

/-- **Every operation advances the engine.** -/
theorem advances [Time τ] [Backend σ τ] : Law (Advances (σ := σ) (τ := τ)) where
  idle := advances_idle
  issued := advances_issued
  registry _ _ := advances_of_keeps (Nat.le_refl _) (fun horder => ⟨horder, Std.Refl.refl _⟩)
    (Std.Refl.refl _) rfl (List.Subset.refl _)
  -- A worker that leaves the queue takes no other worker with it.
  workers _ _ hworkers := advances_of_keeps (Nat.le_refl _)
    (fun horder => ⟨horder, Std.Refl.refl _⟩) (Std.Refl.refl _) rfl hworkers
  agentAdded w agent := advances_withAgents fun horder =>
    ⟨horder.add agent, AgentStore.keeps_add w.agents agent⟩
  taskAdded w task _ := advances_addTask w task
  messageAdded w message := advances_withMessages w (w.messages.add message)
  createAgent _ _ context hhas := advances_createAgent hhas context
  updateAgent _ _ context hhas := advances_updateAgent hhas context
  deleteAgent := advances_deleteAgent
  startConversation participants topic metadata context w :=
    (starting participants topic metadata context w).advances
  send conversationId ref context w := (sending conversationId ref context w).advances
  closeConversation id context w := (closing id context w).advances
  execute ref agentRef context tracked w := (executed ref agentRef context tracked w).advances

end Orchestration.Engine
