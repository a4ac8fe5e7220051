import Orchestration.Proofs.Session

/-!
# The life of a conversation

Once a conversation was started it is there for good, its log only grows, and closing it is final.
The main statement is `conversation_lifecycle`.
-/

namespace Orchestration.Engine

variable {σ τ : Type}

/-- The status of a conversation only goes from active to closed. -/
theorem Continues.status {conversation later : Conversation} (h : Continues conversation later) :
    later.status = conversation.status ∨
      conversation.status = .active ∧ later.status = .closed := by
  cases hbefore : conversation.status with
  | closed =>
    rw [h.closed hbefore]
    exact .inl hbefore
  | active =>
    cases later.status with
    | active => exact .inl rfl
    | closed => exact .inr ⟨rfl, rfl⟩

section

variable [Time τ]

/-- Nothing is sent in a closed conversation: a live call is told so, and nothing changes. -/
theorem run_send_closed {id : String} {context : Option String} {conversation : Conversation}
    {w : World σ τ} (hlive : w.surroundings.check context none = .ok ())
    (hfound : Table.find? w.conversations id = some conversation)
    (hclosed : conversation.status = .closed) (ref : Ref Message) :
    ∃ text, (send id ref context).run w = .error (.invalidRequest text) w := by
  obtain ⟨text, hrefused⟩ := admissionOf_closed hlive hfound hclosed (w.messages.get ref)
  refine ⟨text, ?_⟩
  rw [send, EStateM.run_bind, EStateM.run_get]
  simp only [EStateM.run_bind, run_lift, hrefused]

variable [Backend σ τ]

/-- **The life of a conversation.** Whatever happens to an engine after a conversation was started,
the conversation is still there, it is the same one, its log has only grown, and its status has at
most gone from active to closed. A closed one is as it was: no live call can send in it, and one
that closes it again gets it back and is remembered by no agent. -/
theorem conversation_lifecycle {w w' : World σ τ} (hreachable : Reachable w)
    (hlater : Reaches w w') {id : String} {conversation : Conversation}
    (hfound : Table.find? w.conversations id = some conversation) :
    ∃ later, Table.find? w'.conversations id = some later ∧
      Continues conversation later ∧
      (later.status = conversation.status ∨
        conversation.status = .active ∧ later.status = .closed) ∧
      (conversation.status = .closed →
        ∀ context, w'.surroundings.check context none = .ok () →
          (∀ ref, ∃ text, (send id ref context).run w' = .error (.invalidRequest text) w') ∧
          ∃ journal, (closeConversation id context).run w' =
            .ok conversation { w' with journal }) := by
  obtain ⟨later, hlater_found, hcontinues⟩ :=
    (hreachable.evolves hlater).conversations id conversation hfound
  refine ⟨later, hlater_found, hcontinues, hcontinues.status, fun hclosed context hlive => ?_⟩
  -- A closed conversation is the same at every later time.
  rw [hcontinues.closed hclosed] at hlater_found
  exact ⟨run_send_closed hlive hlater_found hclosed,
    run_closeConversation_closed hlive hlater_found hclosed⟩

end

/-- One of the two agents who have closed their conversation has more to say, and it is closed
again. -/
def lastWords : List (Event (Scripted.Script Rat) Rat) :=
  [.makeMessage { fromAgent := "bo", toAgent := "al", content := "wait" },
    .send (Identifier.issue 2) ⟨1⟩ none,
    .closeConversation (Identifier.issue 2) none]

/-- The conversation is as it was when it was closed, and goes on to be. -/
theorem conversation_lifecycle_farewell :
    let w := after quietEngine farewell
    let w' := after w lastWords
    Reachable w ∧ Reaches w w' ∧ w'.surroundings.check none none = .ok () ∧
      ∃ conversation, Table.find? w.conversations (Identifier.issue 2) = some conversation ∧
        conversation.participants = ["al", "bo"] ∧ conversation.messages.length = 1 ∧
        conversation.status = .closed ∧
        Table.find? w'.conversations (Identifier.issue 2) = some conversation ∧
        (∃ text, (send (Identifier.issue 2) ⟨1⟩ none).run w' = .error (.invalidRequest text) w') ∧
        ∃ journal, (closeConversation (Identifier.issue 2) none).run w' =
          .ok conversation { w' with journal } := by
  intro w w'
  have hlater : Reaches w w' := reaches_after ⟨trivial, trivial, trivial, trivial⟩
  obtain ⟨conversation, hfound, hparticipants, hmessages, hclosed⟩ :
      ∃ conversation, Table.find? w.conversations (Identifier.issue 2) = some conversation ∧
        conversation.participants = ["al", "bo"] ∧ conversation.messages.length = 1 ∧
        conversation.status = .closed := ⟨_, rfl, rfl, rfl, rfl⟩
  obtain ⟨later, hlater_found, hcontinues, -, hrefuses⟩ :=
    conversation_lifecycle reachable_farewell hlater hfound
  obtain ⟨hsend, hclose⟩ := hrefuses hclosed none rfl
  rw [hcontinues.closed hclosed] at hlater_found
  exact ⟨reachable_farewell, hlater, rfl, conversation, hfound, hparticipants, hmessages, hclosed,
    hlater_found, hsend ⟨1⟩, hclose⟩

end Orchestration.Engine
