import Orchestration.Proofs.Conversation.Sending

/-!
# What starting and closing a conversation does

A conversation that is started gets an identifier that was never issued before, and has no messages
yet (`Started`). One that is closed changes its status, and the time of its last update, and nothing
more (`Closed`); closing it again only leaves a line in the journal.

The ways in which the two operations come out are the constructors of `Starting` and `Closing`.
-/

namespace Orchestration.Engine

variable {σ τ : Type}

/-- A conversation was started. -/
structure Started (w : World σ τ) (conversation : Conversation) (w' : World σ τ) : Prop where
  id : conversation.id = Identifier.issue w.issued
  conversations : w'.conversations =
    Table.insert w.conversations (Identifier.issue w.issued) conversation
  messages : conversation.messages = []
  status : conversation.status = .active
  workers : w'.workers = w.workers
  issued : w'.issued = w.issued + 1
  tasks : w'.tasks = w.tasks
  agents : AgentStore.SameRegister w.agents w'.agents

/-- A conversation was closed. -/
structure Closed (w : World σ τ) (id : String) (conversation : Conversation) (w' : World σ τ) :
    Prop where
  found : Table.find? w.conversations id = some conversation
  active : conversation.status = .active
  conversations : w'.conversations = Table.insert w.conversations id
    { conversation with status := .closed, updatedAt := w.surroundings.clock.now }
  workers : w'.workers = w.workers
  issued : w'.issued = w.issued
  tasks : w'.tasks = w.tasks
  agents : AgentStore.SameRegister w.agents w'.agents

/-! ## What is noted -/

section Noting

/-- The agents when each member has recorded the start of a conversation, as often as it is
listed. -/
def announced (w : World σ τ) (id : String) (members : List (Ref Agent)) : AgentStore :=
  members.foldl (fun agents member =>
    agents.record member w.surroundings.clock.now "conversation_started" (.text id)) w.agents

theorem sameRegister_announced (w : World σ τ) (id : String) (members : List (Ref Agent)) :
    AgentStore.SameRegister w.agents (announced w id members) := by
  unfold announced
  generalize w.agents = agents
  induction members generalizing agents with
  | nil => exact Std.Refl.refl _
  | cons member rest ih =>
    exact IsTrans.trans _ _ _ (AgentStore.sameRegister_record agents member _ _ _) (ih _)

/-- Noting the start of a conversation always succeeds. Each member records it, and it is logged. -/
theorem run_noteStart (conversation : Conversation) (members : List (Ref Agent))
    (w : World σ τ) :
    ∃ journal, (noteStart conversation members).run w =
      .ok () { w with agents := announced w conversation.id members, journal } := by
  have hrecorded : ∀ w : World σ τ,
      (members.forM fun member =>
        recordInteraction member "conversation_started" (.text conversation.id)).run w =
        .ok ⟨⟩ { w with agents := announced w conversation.id members } := by
    induction members with
    | nil => exact fun _ => rfl
    | cons member rest ih =>
      intro w
      rw [List.forM_eq_forM, List.forM_cons, EStateM.run_bind]
      exact ih _
  rw [noteStart, EStateM.run_bind, hrecorded]
  exact ⟨_, rfl⟩

theorem onlyWork_recordClosing (id participant : String) :
    Guarantees OnlyWork (recordClosing id participant : Run σ τ Unit) := by
  refine guarantees_get.bind fun w => ?_
  split
  · exact onlyWork_recordInteraction _ _ _
  · exact guarantees_pure _

/-- Noting the end of a conversation leaves the books alone. -/
theorem onlyWork_noteClosing (id : String) (conversation : Conversation) :
    Guarantees OnlyWork (noteClosing id conversation : Run σ τ Unit) :=
  (guarantees_forM _ fun _ _ => onlyWork_recordClosing _ _).bind fun _ => onlyWork_log _ _ _

theorem total_recordClosing (id participant : String) :
    Total (recordClosing id participant : Run σ τ Unit) := by
  refine total_get.bind fun w => ?_
  split
  · exact total_recordInteraction _ _ _
  · exact total_pure ()

/-- Noting the end of a conversation always succeeds. -/
theorem total_noteClosing (id : String) (conversation : Conversation) :
    Total (noteClosing id conversation : Run σ τ Unit) :=
  (total_forM _ fun _ => total_recordClosing _ _).bind fun _ => total_log _ _ _

end Noting

/-! ## Starting -/

section Starting

/-- The conversation that is started. -/
def conversationOf (w : World σ τ) (participants : List String) (topic : String)
    (metadata : Fields) : Conversation where
  id := Identifier.issue w.issued
  participants := participants
  topic := topic
  metadata := metadata
  createdAt := w.surroundings.clock.now
  updatedAt := w.surroundings.clock.now

/-- The world when a new conversation is in the table. -/
def withConversation (w : World σ τ) (conversation : Conversation) : World σ τ :=
  { w with
    conversations := Table.insert w.conversations (Identifier.issue w.issued) conversation
    issued := w.issued + 1 }

/-- The ways in which starting a conversation comes out: its outcome, and the world that it
leaves. -/
inductive Starting (w : World σ τ) (participants : List String) (topic : String)
    (metadata : Fields) : Except Fault Conversation → World σ τ → Prop
  /-- No conversation was started, and nothing has happened. -/
  | refused {fault : Fault} : Starting w participants topic metadata (.error fault) w
  /-- A conversation was started among registered agents, and they have recorded that. -/
  | started {members : List (Ref Agent)} {w' : World σ τ}
      (hmembers : participants.mapM w.agents.get = .ok members)
      (hstarted : Started w (conversationOf w participants topic metadata) w')
      (hagents : w'.agents = announced w (Identifier.issue w.issued) members) :
      Starting w participants topic metadata (.ok (conversationOf w participants topic metadata)) w'

/-- A start that returns gives out the conversation that was started. -/
theorem Starting.of_ok {w w' : World σ τ} {participants : List String} {topic : String}
    {metadata : Fields} {conversation : Conversation}
    (h : Starting w participants topic metadata (.ok conversation) w') :
    Started w conversation w' ∧ conversation.participants = participants ∧
      ∃ members, participants.mapM w.agents.get = .ok members ∧
        w'.agents = announced w conversation.id members := by
  cases h with
  | started hmembers hstarted hagents => exact ⟨hstarted, rfl, _, hmembers, hagents⟩

/-- A start that does not return leaves the world as it was. -/
theorem Starting.eq_or_ok {w w' : World σ τ} {participants : List String} {topic : String}
    {metadata : Fields} {outcome : Except Fault Conversation}
    (h : Starting w participants topic metadata outcome w') :
    w' = w ∨ ∃ conversation, outcome = .ok conversation := by
  cases h with
  | refused => exact .inl rfl
  | started => exact .inr ⟨_, rfl⟩

variable [Time τ] (participants : List String) (topic : String) (metadata : Fields)
  (context : Option String) (w : World σ τ)

/-- A conversation among registered agents is started. -/
theorem run_startConversation {members : List (Ref Agent)}
    (hlive : w.surroundings.check context none = .ok ())
    (hmembers : participants.mapM w.agents.get = .ok members) :
    ∃ journal, (startConversation participants topic metadata context).run w =
      .ok (conversationOf w participants topic metadata)
        { withConversation w (conversationOf w participants topic metadata) with
          agents := announced w (Identifier.issue w.issued) members
          journal } := by
  have hrun : (startConversation participants topic metadata context).run w =
      (noteStart (conversationOf w participants topic metadata) members >>= fun _ =>
        pure (conversationOf w participants topic metadata) : Run σ τ Conversation).run
        (withConversation w (conversationOf w participants topic metadata)) := by
    rw [startConversation, EStateM.run_bind, run_check, run_lift, hlive]
    simp only [EStateM.run_bind, EStateM.run_get, run_lift, hmembers]
    rfl
  -- Once the conversation is in the table, nothing can go wrong.
  obtain ⟨journal, hnote⟩ := run_noteStart (conversationOf w participants topic metadata) members
    (withConversation w (conversationOf w participants topic metadata))
  rw [EStateM.run_bind, hnote] at hrun
  exact ⟨journal, hrun⟩

/-- A conversation is not started on behalf of a stopped call or among strangers. -/
theorem run_startConversation_refused {fault : Fault}
    (h : (w.surroundings.check context none >>= fun _ => participants.mapM w.agents.get) =
      .error fault) :
    (startConversation participants topic metadata context).run w = .error fault w := by
  rw [startConversation, EStateM.run_bind, run_check, run_lift]
  cases hlive : w.surroundings.check context none with
  | error refusal =>
    rw [hlive] at h
    cases h
    rfl
  | ok _ =>
    have hmembers : participants.mapM w.agents.get = .error fault := by rwa [hlive] at h
    simp only [EStateM.run_bind, EStateM.run_get, run_lift, hmembers]

/-- A conversation is started, or nothing happens. -/
theorem starting :
    Starting w participants topic metadata
      (outcomeOf (startConversation participants topic metadata context) w)
      (worldAfter (startConversation participants topic metadata context) w) := by
  cases hmembers : (w.surroundings.check context none >>= fun _ =>
      participants.mapM w.agents.get) with
  | error fault =>
    have hrun := run_startConversation_refused participants topic metadata context w hmembers
    obtain ⟨houtcome, hworld⟩ := run_eq_error_iff.mp hrun
    rw [houtcome, hworld]
    exact .refused
  | ok members =>
    obtain ⟨⟨⟩, hlive, hmembers⟩ := Fault.bind_eq_ok_iff.mp hmembers
    obtain ⟨journal, hrun⟩ :=
      run_startConversation participants topic metadata context w hlive hmembers
    obtain ⟨houtcome, hworld⟩ := run_eq_ok_iff.mp hrun
    rw [houtcome, hworld]
    refine .started hmembers ⟨rfl, rfl, rfl, rfl, rfl, rfl, rfl, ?_⟩ rfl
    exact sameRegister_announced _ _ _

end Starting

/-! ## Closing -/

section Closing

/-- The conversation when it is closed. -/
def closedAt (conversation : Conversation) (now : Moment) : Conversation :=
  { conversation with status := .closed, updatedAt := now }

/-- The ways in which closing a conversation comes out: its outcome, and the world that it
leaves. -/
inductive Closing (w : World σ τ) (id : String) : Except Fault Conversation → World σ τ → Prop
  /-- No conversation was closed, and nothing has happened. -/
  | refused {fault : Fault} : Closing w id (.error fault) w
  /-- The conversation was closed before, which leaves a line in the journal. -/
  | again {conversation : Conversation}
      (hfound : Table.find? w.conversations id = some conversation)
      (hclosed : conversation.status = .closed) (journal : List Log.Record) :
      Closing w id (.ok conversation) { w with journal }
  | closed {conversation : Conversation} {w' : World σ τ}
      (hclosed : Closed w id conversation w') :
      Closing w id (.ok (closedAt conversation w.surroundings.clock.now)) w'

/-- A close that does not return leaves the world as it was. -/
theorem Closing.eq_or_ok {w w' : World σ τ} {id : String} {outcome : Except Fault Conversation}
    (h : Closing w id outcome w') : w' = w ∨ ∃ conversation, outcome = .ok conversation := by
  cases h with
  | refused => exact .inl rfl
  | again => exact .inr ⟨_, rfl⟩
  | closed => exact .inr ⟨_, rfl⟩

variable [Time τ] {id : String} {context : Option String} {conversation : Conversation}
  {w : World σ τ}

/-- Closing a conversation that is closed only leaves a line in the journal. -/
theorem run_closeConversation_closed (hlive : w.surroundings.check context none = .ok ())
    (hfound : Table.find? w.conversations id = some conversation)
    (hclosed : conversation.status = .closed) :
    ∃ journal, (closeConversation id context).run w = .ok conversation { w with journal } := by
  rw [closeConversation, EStateM.run_bind, run_check, run_lift, hlive]
  simp only [EStateM.run_bind, EStateM.run_get, run_lift, findConversation_eq_ok_iff.mpr hfound]
  rw [if_pos hclosed]
  exact ⟨_, rfl⟩

/-- An active conversation is closed. -/
theorem run_closeConversation_active (hlive : w.surroundings.check context none = .ok ())
    (hfound : Table.find? w.conversations id = some conversation)
    (hactive : conversation.status = .active) :
    ∃ w', (closeConversation id context).run w =
        .ok (closedAt conversation w.surroundings.clock.now) w' ∧ Closed w id conversation w' := by
  set closed := closedAt conversation w.surroundings.clock.now
  set w₁ := { w with conversations := Table.insert w.conversations id closed }
  have hrun : (closeConversation id context).run w =
      (noteClosing id closed >>= fun _ => pure closed : Run σ τ Conversation).run w₁ := by
    rw [closeConversation, EStateM.run_bind, run_check, run_lift, hlive]
    simp only [EStateM.run_bind, EStateM.run_get, run_lift, findConversation_eq_ok_iff.mpr hfound]
    rw [if_neg (by simp [hactive])]
    rfl
  -- Once the status is changed in the table, only memories and the journal change.
  obtain ⟨hbooks, htasks⟩ := onlyWork_noteClosing id closed w₁
  obtain ⟨⟨⟩, w', hnote⟩ := total_noteClosing id closed w₁
  rw [(run_eq_ok_iff.mp hnote).2] at hbooks htasks
  rw [EStateM.run_bind, hnote] at hrun
  exact ⟨w', hrun, hfound, hactive, hbooks.conversations, hbooks.workers, hbooks.issued, htasks,
    hbooks.agents⟩

/-- A stopped call closes no conversation, and nobody closes one that does not exist. -/
theorem run_closeConversation_refused {fault : Fault}
    (h : (w.surroundings.check context none >>= fun _ => findConversation w.conversations id) =
      .error fault) :
    (closeConversation id context).run w = .error fault w := by
  rw [closeConversation, EStateM.run_bind, run_check, run_lift]
  cases hlive : w.surroundings.check context none with
  | error refusal =>
    rw [hlive] at h
    cases h
    rfl
  | ok _ =>
    have hfound : findConversation w.conversations id = .error fault := by rwa [hlive] at h
    simp only [EStateM.run_bind, EStateM.run_get, run_lift, hfound]

/-- A conversation is closed, or nothing happens but that it is logged. -/
theorem closing (id : String) (context : Option String) (w : World σ τ) :
    Closing w id (outcomeOf (closeConversation id context) w)
      (worldAfter (closeConversation id context) w) := by
  cases hfound : (w.surroundings.check context none >>= fun _ =>
      findConversation w.conversations id) with
  | error fault =>
    obtain ⟨houtcome, hworld⟩ := run_eq_error_iff.mp (run_closeConversation_refused hfound)
    rw [houtcome, hworld]
    exact .refused
  | ok conversation =>
    obtain ⟨⟨⟩, hlive, hfound⟩ := Fault.bind_eq_ok_iff.mp hfound
    have hsome := findConversation_eq_ok_iff.mp hfound
    cases hstatus : conversation.status with
    | closed =>
      obtain ⟨journal, hrun⟩ := run_closeConversation_closed hlive hsome hstatus
      obtain ⟨houtcome, hworld⟩ := run_eq_ok_iff.mp hrun
      rw [houtcome, hworld]
      exact .again hsome hstatus journal
    | active =>
      obtain ⟨w', hrun, hclosed⟩ := run_closeConversation_active hlive hsome hstatus
      obtain ⟨houtcome, hworld⟩ := run_eq_ok_iff.mp hrun
      rw [houtcome, hworld]
      exact .closed hclosed

end Closing

end Orchestration.Engine
