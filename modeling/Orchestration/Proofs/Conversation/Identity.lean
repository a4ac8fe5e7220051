import Mathlib.Data.List.Nodup
import Orchestration.Proofs.Conversation.Delegation

/-!
# Which message is meant

The worker of a delegation answers with a response that names the delegation by its id. That tells
which message is meant as long as the messages of a log can be told apart by their ids
(`Identified`).

An id comes from one of two sources. The ones that the engine issues are new, provided that callers
do not guess them in advance (`Unforeseen`); so whatever the engine sends by itself can be told
from all that is in the log. But a message that has an id keeps it when it is sent, so a message
that is sent twice stands in the log twice. The main statement is `messages_identified_iff`: the
messages of every log can be told apart exactly as long as nobody sends a message under an id that
is in the log.
-/

namespace Orchestration

/-! ## Logs -/

/-- The messages of a log can be told apart: each has an id and a time, and no two of them have the
same id. -/
structure Identified (log : List Message) : Prop where
  named : ∀ message ∈ log, message.id ≠ ""
  timed : ∀ message ∈ log, message.timestamp.isSome
  different : (log.map (·.id)).Nodup

/-- Exactly one message of the log has the id. -/
def NamesOne (log : List Message) (id : String) : Prop :=
  (log.map (·.id)).count id = 1

/-- The message tells which one it answers, and there is one in the log that is meant. -/
def AnswersOne (log : List Message) (answer : Message) : Prop :=
  ∃ id, Table.find? answer.context "original_message_id" = some (.text id) ∧ NamesOne log id

namespace Identified

variable {log : List Message} {message : Message}

/-- A log without messages can be told apart. -/
theorem nil : Identified [] := by
  constructor <;> simp

/-- A message of the log is the only one with its id. -/
theorem namesOne (h : Identified log) (hmem : message ∈ log) : NamesOne log message.id :=
  List.count_eq_one_of_mem h.different (List.mem_map_of_mem hmem)

/-- A message that comes to the end of the log needs an id of its own. -/
theorem concat_iff (h : Identified log) (hid : message.id ≠ "")
    (htime : message.timestamp.isSome) :
    Identified (log ++ [message]) ↔ ¬ ∃ other ∈ log, other.id = message.id := by
  have hdifferent : ((log ++ [message]).map (·.id)).Nodup ↔
      ¬ ∃ other ∈ log, other.id = message.id := by
    rw [List.map_append, List.map_singleton, ← List.concat_eq_append,
      List.nodup_concat, List.mem_map]
    exact and_iff_left h.different
  rw [← hdifferent]
  refine ⟨fun hall => hall.different, fun hnodup => ⟨?_, ?_, hnodup⟩⟩
  · simpa [or_imp, forall_and] using ⟨h.named, hid⟩
  · simpa [or_imp, forall_and] using ⟨h.timed, htime⟩

end Identified

namespace Engine

variable {σ τ : Type}

/-! ## What happens to live messages -/

section Messages

/-- The same messages are live, in the same states. -/
def SameMessages (w w' : World σ τ) : Prop :=
  w'.messages = w.messages

instance : IsPreorder (World σ τ) SameMessages where
  refl _ := rfl
  trans _ _ _ h h' := Eq.trans h' h

variable [Time τ]

/-- To start a conversation sends nothing. -/
theorem sameMessages_startConversation (participants : List String) (topic : String)
    (metadata : Fields) (context : Option String) :
    Guarantees SameMessages
      (startConversation participants topic metadata context : Run σ τ Conversation) := by
  refine (guarantees_check _ _).bind fun _ => guarantees_get.bind fun _ => ?_
  refine (guarantees_lift _).bind fun _ => Guarantees.bind ?_ fun _ =>
    guarantees_now.bind fun _ => ?_
  · exact guarantees_modifyGet fun _ => rfl
  refine Guarantees.bind (guarantees_modify fun _ => rfl) fun _ => ?_
  refine Guarantees.bind ?_ fun _ => guarantees_pure _
  refine Guarantees.bind (guarantees_forM _ fun _ _ => ?_) fun _ => guarantees_modify fun _ => rfl
  exact guarantees_modify fun _ => rfl

/-- To close a conversation sends nothing. -/
theorem sameMessages_closeConversation (id : String) (context : Option String) :
    Guarantees SameMessages (closeConversation id context : Run σ τ Conversation) := by
  have hnote : ∀ conversation,
      Guarantees SameMessages (noteClosing id conversation : Run σ τ Unit) :=
    fun _ w => (onlyWork_noteClosing _ _ w).messages
  refine (guarantees_check _ _).bind fun _ => guarantees_get.bind fun _ => ?_
  refine (guarantees_lift _).bind fun conversation => ?_
  split
  · exact Guarantees.bind (guarantees_modify fun _ => rfl) fun _ => guarantees_pure _
  refine guarantees_now.bind fun _ => Guarantees.bind (guarantees_modify fun _ => rfl) fun _ => ?_
  exact (hnote _).bind fun _ => guarantees_pure _

omit [Time τ] in
/-- A worker that is started has not sent anything yet. -/
theorem sameMessages_startWorker (conversationId : String) (message : Message)
    (receiver : Option (Ref Agent)) :
    Guarantees SameMessages (startWorker conversationId message receiver : Run σ τ Unit) := by
  unfold startWorker
  split
  · refine Guarantees.bind (guarantees_modifyGet fun _ => rfl) fun _ => ?_
    refine (guarantees_agent _).bind fun _ => guarantees_get.bind fun _ => ?_
    refine guarantees_now.bind fun _ => (guarantees_lift _).bind fun _ => ?_
    refine Guarantees.bind (guarantees_modifyGet fun _ => rfl) fun _ => ?_
    exact Guarantees.bind (guarantees_modify fun _ => rfl) fun _ => guarantees_modify fun _ => rfl
  · exact guarantees_pure _

/-- The caller's message is the only one that sending changes. -/
theorem messages_send {w : World σ τ} {conversationId : String} {ref : Ref Message}
    {context : Option String} {admission : Admission}
    (hadmitted : Admitted w conversationId (w.messages.get ref) context admission) :
    (worldAfter (send conversationId ref context) w).messages =
      w.messages.set ref (stampedAt w ref) := by
  obtain ⟨w₁, hdeliver, -⟩ := run_deliver conversationId ref admission w
  have hposted : w₁.messages = w.messages.set ref (stampedAt w ref) := by
    rw [← (run_eq_ok_iff.mp hdeliver).2, deliver]
    cases admission.receiver <;> rfl
  have hworld : worldAfter (send conversationId ref context) w =
      worldAfter (startWorker conversationId (stampedAt w ref) admission.receiver) w₁ := by
    rw [worldAfter, run_send_of_admitted hadmitted hdeliver, ← worldAfter, worldAfter_bind_pure]
  rw [hworld, sameMessages_startWorker _ _ _ w₁, hposted]

end Messages

/-! ## Identifiers that are still to be issued -/

section Unforeseen

variable {w w' : World σ τ}

/-- All logs can be told apart by the ids of their messages. -/
def LogsIdentified (w : World σ τ) : Prop :=
  ∀ id conversation, Table.find? w.conversations id = some conversation →
    Identified conversation.messages

/-- The identifier is still to be issued. -/
def Foreseen (w : World σ τ) (id : String) : Prop :=
  ∃ n, w.issued ≤ n ∧ id = Identifier.issue n

/-- No message bears an identifier that is still to be issued. -/
structure Unforeseen (w : World σ τ) : Prop where
  live : ∀ ref, ¬ Foreseen w (w.messages.get ref).id
  logged : ∀ id conversation, Table.find? w.conversations id = some conversation →
    ∀ message ∈ conversation.messages, ¬ Foreseen w message.id

/-- What is still to be issued later is still to be issued now. -/
theorem Foreseen.mono {id : String} (h : Foreseen w' id) (hissued : w.issued ≤ w'.issued) :
    Foreseen w id := by
  obtain ⟨n, hn, hid⟩ := h
  exact ⟨n, Nat.le_trans hissued hn, hid⟩

/-- The empty identifier is never issued. -/
theorem not_foreseen_empty (w : World σ τ) : ¬ Foreseen w "" := by
  rintro ⟨n, -, hid⟩
  exact Identifier.issue_ne_empty n hid.symm

/-- An identifier that was issued is not issued again. -/
theorem not_foreseen_issue (h : w.issued < w'.issued) :
    ¬ Foreseen w' (Identifier.issue w.issued) := by
  rintro ⟨n, hn, hid⟩
  have heq := Identifier.issue_injective hid
  omega

/-- Ids stay unforeseen, and logs identified. -/
def KeepsIdentity (w w' : World σ τ) : Prop :=
  Unforeseen w → Unforeseen w' ∧ (LogsIdentified w → LogsIdentified w')

instance : IsPreorder (World σ τ) KeepsIdentity where
  refl _ h := ⟨h, id⟩
  trans _ _ _ h h' hunforeseen := by
    obtain ⟨hmiddle, hkept⟩ := h hunforeseen
    obtain ⟨hlast, hkept'⟩ := h' hmiddle
    exact ⟨hlast, hkept' ∘ hkept⟩

/-- What concerns neither messages nor conversations. -/
theorem keepsIdentity_of_same (hmessages : w'.messages = w.messages)
    (hconversations : w'.conversations = w.conversations) (hissued : w.issued ≤ w'.issued) :
    KeepsIdentity w w' := by
  intro h
  refine ⟨⟨fun ref hforeseen => ?_, fun id conversation hfound message hmem hforeseen => ?_⟩, ?_⟩
  · rw [hmessages] at hforeseen
    exact h.live ref (hforeseen.mono hissued)
  · rw [hconversations] at hfound
    exact h.logged id conversation hfound message hmem (hforeseen.mono hissued)
  · rw [LogsIdentified, LogsIdentified, hconversations]
    exact id

/-- A conversation may get another status, and a new one may come, without any messages in it. -/
theorem keepsIdentity_of_insert {id : String} {later : Conversation}
    (hmessages : w'.messages = w.messages)
    (hconversations : w'.conversations = Table.insert w.conversations id later)
    (hissued : w.issued ≤ w'.issued)
    (hlog : later.messages = [] ∨ ∃ conversation,
      Table.find? w.conversations id = some conversation ∧
        later.messages = conversation.messages) : KeepsIdentity w w' := by
  intro h
  -- Each log that is found now is empty, or was found before.
  have hfind : ∀ other conversation, Table.find? w'.conversations other = some conversation →
      conversation.messages = [] ∨ ∃ old before, Table.find? w.conversations old = some before ∧
        conversation.messages = before.messages := by
    intro other conversation hfound
    rw [hconversations, Table.find?_insert] at hfound
    split at hfound
    · cases hfound
      exact hlog.imp_right fun ⟨before, hbefore, hsame⟩ => ⟨id, before, hbefore, hsame⟩
    · exact .inr ⟨other, conversation, hfound, rfl⟩
  refine ⟨⟨fun ref hforeseen => ?_, fun other conversation hfound message hmem hforeseen => ?_⟩,
    fun hidentified other conversation hfound => ?_⟩
  · rw [hmessages] at hforeseen
    exact h.live ref (hforeseen.mono hissued)
  · rcases hfind other conversation hfound with hempty | ⟨old, before, hbefore, hsame⟩
    · simp [hempty] at hmem
    · exact h.logged old before hbefore message (hsame ▸ hmem) (hforeseen.mono hissued)
  · rcases hfind other conversation hfound with hempty | ⟨old, before, hbefore, hsame⟩
    · rw [hempty]
      exact .nil
    · rw [hsame]
      exact hidentified old before hbefore

end Unforeseen

/-! ## Sending -/

section Sending

variable [Time τ] {w : World σ τ} {conversationId : String} {ref : Ref Message}
  {context : Option String} {admission : Admission}

omit [Time τ] in
/-- A message has been given a new identifier, or has kept its own. -/
theorem id_stampedAt (w : World σ τ) (ref : Ref Message) :
    (stampedAt w ref).id =
      if (w.messages.get ref).id = "" then Identifier.issue w.issued
      else (w.messages.get ref).id := rfl

omit [Time τ] in
/-- A message that is stamped has an id. -/
theorem stampedAt_id_ne_empty (w : World σ τ) (ref : Ref Message) : (stampedAt w ref).id ≠ "" := by
  rw [id_stampedAt]
  split
  · exact Identifier.issue_ne_empty _
  next hne => exact hne

omit [Time τ] in
/-- A message that is sent bears no identifier that is still to be issued afterwards. -/
theorem not_foreseen_stampedAt {w' : World σ τ} (h : Unforeseen w) (hissued : w.issued < w'.issued)
    (ref : Ref Message) : ¬ Foreseen w' (stampedAt w ref).id := by
  rw [id_stampedAt]
  split
  · exact not_foreseen_issue hissued
  · exact fun hforeseen => h.live ref (hforeseen.mono (Nat.le_of_lt hissued))

/-- A message that is admitted stands in the log of its conversation already, as far as its id
tells. -/
def Repeated (w : World σ τ) (conversationId : String) (ref : Ref Message)
    (context : Option String) : Prop :=
  ∃ admission, Admitted w conversationId (w.messages.get ref) context admission ∧
    (w.messages.get ref).id ≠ "" ∧
    ∃ message ∈ admission.conversation.messages, message.id = (w.messages.get ref).id

/-- What is sent is in the log already exactly if it has kept an id that is. -/
theorem logged_iff_repeated (h : Unforeseen w)
    (hadmitted : Admitted w conversationId (w.messages.get ref) context admission) :
    (∃ message ∈ admission.conversation.messages, message.id = (stampedAt w ref).id) ↔
      Repeated w conversationId ref context := by
  have hunique : ∀ {other}, Admitted w conversationId (w.messages.get ref) context other →
      other.conversation = admission.conversation :=
    fun hother => Option.some.inj (hother.found.symm.trans hadmitted.found)
  rw [id_stampedAt]
  constructor
  · rintro ⟨message, hmem, hid⟩
    split at hid
    · -- A new identifier is in no log.
      have hforeseen : Foreseen w message.id := ⟨w.issued, Nat.le_refl _, hid⟩
      exact absurd hforeseen (h.logged _ _ hadmitted.found message hmem)
    next hne => exact ⟨admission, hadmitted, hne, message, hmem, hid⟩
  · rintro ⟨other, hother, hne, message, hmem, hid⟩
    rw [hunique hother] at hmem
    exact ⟨message, hmem, by rw [if_neg hne, hid]⟩

/-- **Sending.** Whatever comes of it, ids stay unforeseen. Logs stay identified exactly if the
message is not in the log already. -/
theorem sent_identified (h : Unforeseen w) (conversationId : String) (ref : Ref Message)
    (context : Option String) :
    Unforeseen (worldAfter (send conversationId ref context) w) ∧
      (LogsIdentified w → (LogsIdentified (worldAfter (send conversationId ref context) w) ↔
        ¬ Repeated w conversationId ref context)) := by
  have hsending := sending conversationId ref context w
  by_cases hrefused : ∀ admission,
      ¬ Admitted w conversationId (w.messages.get ref) context admission
  · have hsame := hsending.eq_or_admitted.resolve_right (not_exists.mpr hrefused)
    rw [hsame]
    exact ⟨h, fun hidentified =>
      iff_of_true hidentified fun ⟨admission, hadmitted, _⟩ => hrefused admission hadmitted⟩
  obtain ⟨admission, hadmitted⟩ := not_forall_not.mp hrefused
  have hmessages := messages_send hadmitted
  obtain ⟨hconversations, hissued⟩ := hsending.conversations hadmitted
  have hrepeated := logged_iff_repeated h hadmitted
  set w' := worldAfter (send conversationId ref context) w
  have hstamped := not_foreseen_stampedAt h hissued ref
  have hfind : ∀ id, Table.find? w'.conversations id = if id = conversationId then
      some (appended admission.conversation (stampedAt w ref) w.surroundings.clock.now)
      else Table.find? w.conversations id := by
    intro id
    rw [hconversations, Table.find?_insert]
  refine ⟨⟨fun other hforeseen => ?_, fun id conversation hfound message hmem hforeseen => ?_⟩,
    fun hidentified => ?_⟩
  · rw [hmessages] at hforeseen
    rcases Live.get_set_eq_or w.messages ref other (stampedAt w ref) with hsent | hleft
    · exact hstamped (hsent ▸ hforeseen)
    · rw [hleft] at hforeseen
      exact h.live other (hforeseen.mono (Nat.le_of_lt hissued))
  · have hbefore := hforeseen.mono (Nat.le_of_lt hissued)
    rw [hfind] at hfound
    split at hfound
    · cases hfound
      rcases List.mem_append.mp hmem with hold | hnew
      · exact h.logged _ _ hadmitted.found message hold hbefore
      · rw [List.mem_singleton.mp hnew] at hforeseen
        exact hstamped hforeseen
    · exact h.logged id conversation hfound message hmem hbefore
  · have hlog := hidentified _ _ hadmitted.found
    -- Only the log to which the message comes is in question.
    have hconcat : Identified (admission.conversation.messages ++ [stampedAt w ref]) ↔ _ :=
      hlog.concat_iff (stampedAt_id_ne_empty w ref) rfl
    rw [← hrepeated, ← hconcat]
    constructor
    · intro hall
      exact hall conversationId _ (by rw [hfind, if_pos rfl])
    · intro hsent id conversation hfound
      rw [hfind] at hfound
      split at hfound
      · cases hfound
        exact hsent
      · exact hidentified id conversation hfound

end Sending

/-! ## Runs -/

section Runs

variable {w : World σ τ}

/-- Messages may change as long as they take no identifier that is still to be issued. -/
theorem Unforeseen.withMessages (h : Unforeseen w) {messages : Live Message}
    (hlive : ∀ ref, messages.get ref = w.messages.get ref ∨ ¬ Foreseen w (messages.get ref).id) :
    Unforeseen { w with messages } where
  live ref := by
    rcases hlive ref with hsame | hnot
    · exact hsame ▸ h.live ref
    · exact hnot
  logged := h.logged

/-- A message may be made with any id that is not still to be issued. -/
theorem Unforeseen.add (h : Unforeseen w) {message : Message} (hid : ¬ Foreseen w message.id) :
    Unforeseen { w with messages := w.messages.add message } := by
  refine h.withMessages fun ref => ?_
  rw [Live.get_add]
  split
  · exact .inr hid
  · exact .inl rfl

/-- A message may be changed to any id that is not still to be issued. -/
theorem Unforeseen.set (h : Unforeseen w) (ref : Ref Message) {message : Message}
    (hid : ¬ Foreseen w message.id) :
    Unforeseen { w with messages := w.messages.set ref message } := by
  refine h.withMessages fun other => ?_
  rcases Live.get_set_eq_or w.messages ref other message with hset | hsame
  · exact .inr (hset.symm ▸ hid)
  · exact .inl hsame

/-- What happens to the register of agents does not concern messages. -/
theorem registerLaw_keepsIdentity : RegisterLaw (KeepsIdentity (σ := σ) (τ := τ)) where
  issued _ := keepsIdentity_of_same rfl rfl (Nat.le_succ _)
  replaced _ _ := keepsIdentity_of_same rfl rfl (Nat.le_refl _)
  logged _ _ := keepsIdentity_of_same rfl rfl (Nat.le_refl _)

variable [Time τ]

/-- A conversation starts with an empty log. -/
theorem keepsIdentity_startConversation (participants : List String) (topic : String)
    (metadata : Fields) (context : Option String) :
    Guarantees KeepsIdentity
      (startConversation participants topic metadata context : Run σ τ Conversation) := by
  intro w
  have hmessages := sameMessages_startConversation participants topic metadata context w
  have hstarting := starting participants topic metadata context w
  rcases hstarting.eq_or_ok with hsame | ⟨conversation, houtcome⟩
  · rw [hsame]
    exact Std.Refl.refl w
  · rw [houtcome] at hstarting
    have hstarted := hstarting.of_ok.1
    exact keepsIdentity_of_insert hmessages hstarted.conversations
      (hstarted.issued ▸ Nat.le_succ _) (.inl hstarted.messages)

/-- A conversation is closed with the log that it has. -/
theorem keepsIdentity_closeConversation (id : String) (context : Option String) :
    Guarantees KeepsIdentity (closeConversation id context : Run σ τ Conversation) := by
  intro w
  have hmessages := sameMessages_closeConversation id context w
  have hclosing := closing id context w
  generalize outcomeOf (closeConversation id context) w = outcome,
    worldAfter (closeConversation id context) w = w' at hmessages hclosing ⊢
  cases hclosing with
  | refused => exact Std.Refl.refl w
  | again _ _ journal => exact keepsIdentity_of_same rfl rfl (Nat.le_refl _)
  | @closed conversation _ hclosed =>
    exact keepsIdentity_of_insert hmessages hclosed.conversations (Nat.le_of_eq hclosed.issued.symm)
      (.inr ⟨conversation, hclosed.found, rfl⟩)

variable [Backend σ τ]

/-- What the engine sends by itself gets an id that is in no log yet. -/
theorem serviceLaw_keepsIdentity : ServiceLaw (KeepsIdentity (σ := σ) (τ := τ)) where
  idle _ _ _ _ _ _ _ := keepsIdentity_of_same rfl rfl (Nat.le_refl _)
  issued := registerLaw_keepsIdentity.issued
  registry _ _ := keepsIdentity_of_same rfl rfl (Nat.le_refl _)
  workers _ _ _ := keepsIdentity_of_same rfl rfl (Nat.le_refl _)
  taskAdded _ _ _ := keepsIdentity_of_same rfl rfl (Nat.le_refl _)
  startConversation := keepsIdentity_startConversation
  sendNew w message conversationId context hid h := by
    have hmade := h.add (hid ▸ not_foreseen_empty w)
    obtain ⟨hsent, hlogs⟩ := sent_identified hmade conversationId w.messages.next context
    refine ⟨hsent, fun hidentified => (hlogs hidentified).mpr ?_⟩
    rintro ⟨admission, -, hne, -⟩
    rw [Live.get_add_next] at hne
    exact hne hid
  closeConversation := keepsIdentity_closeConversation
  execute ref agentRef context tracked w := by
    have hbooks := (executed ref agentRef context tracked w).books
    exact keepsIdentity_of_same hbooks.messages hbooks.conversations
      (Nat.le_of_eq hbooks.issued.symm)

/-- A caller sends a message that stands in the log of the conversation already. -/
def Event.Repeats (w : World σ τ) : Event σ τ → Prop
  | send conversationId ref context => Repeated w conversationId ref context
  | _ => False

/-- A caller gives a message an identifier that is still to be issued. -/
def Event.Foresees (w : World σ τ) : Event σ τ → Prop
  | makeMessage message | changeMessage _ message => Foreseen w message.id
  | _ => False

/-- **Step law.** Ids stay unforeseen, and logs identified, unless a caller repeats a message. -/
theorem identified_event {event : Event σ τ} (h : Unforeseen w) (hnot : ¬ event.Foresees w) :
    Unforeseen (worldAfter event.run w) ∧
      (LogsIdentified w → (LogsIdentified (worldAfter event.run w) ↔ ¬ event.Repeats w)) := by
  -- Only sending a message can repeat one; all other events keep what they find.
  have hkept : KeepsIdentity w (worldAfter event.run w) → ¬ event.Repeats w →
      Unforeseen (worldAfter event.run w) ∧
        (LogsIdentified w → (LogsIdentified (worldAfter event.run w) ↔ ¬ event.Repeats w)) := by
    intro hkeeps hrepeats
    obtain ⟨hunforeseen, hlogs⟩ := hkeeps h
    exact ⟨hunforeseen, fun hidentified => iff_of_true (hlogs hidentified) hrepeats⟩
  have hservice : ¬ event.Direct → KeepsIdentity w (worldAfter event.run w) := fun hindirect =>
    serviceLaw_keepsIdentity.event fun hdirect => absurd hdirect hindirect
  cases event with
  | send conversationId ref context =>
    have hworld : worldAfter (Event.send conversationId ref context).run w =
        worldAfter (Engine.send conversationId ref context) w := worldAfter_bind_pure _ _ _
    rw [hworld]
    exact sent_identified h conversationId ref context
  | makeMessage message => exact ⟨h.add hnot, fun hlogs => iff_of_true hlogs id⟩
  | changeMessage ref message => exact ⟨h.set ref hnot, fun hlogs => iff_of_true hlogs id⟩
  | makeAgent _ | changeAgent _ _ | makeTask _ =>
    exact hkept (keepsIdentity_of_same rfl rfl (Nat.le_refl _)) id
  | createAgent ref context => exact hkept (registerLaw_keepsIdentity.createAgent ref context w) id
  | updateAgent ref context => exact hkept (registerLaw_keepsIdentity.updateAgent ref context w) id
  | deleteAgent other context =>
    exact hkept (registerLaw_keepsIdentity.deleteAgent other context w) id
  | createDefaultAgent context =>
    exact hkept ((registerLaw_keepsIdentity.createDefaultAgent context).discard w) id
  | createSpecializedAgent type domain context =>
    refine hkept ?_ id
    exact (registerLaw_keepsIdentity.createSpecializedAgent type domain context).discard w
  | _ => exact hkept (hservice id) id

/-- **The answer of a worker.** Whatever the worker of a delegation adds to the log of its
conversation is a response, and the log then has exactly one message that is meant by it. -/
theorem answersOne_of_worker (hconsistent : Consistent w) (hunforeseen : Unforeseen w)
    (hidentified : LogsIdentified w) {position : Nat} {delegation : Delegation}
    (hworker : w.workers[position]? = some delegation) :
    ∃ w' before log, (runQueued position).run w = .ok () w' ∧
      Table.find? w.conversations delegation.conversationId = some before ∧
      Table.find? w'.conversations delegation.conversationId = some log ∧
      ∀ answer ∈ log.messages, answer ∉ before.messages →
        answer.type = .response ∧ AnswersOne log.messages answer := by
  have hqueued := hconsistent.workers delegation (List.mem_of_getElem? hworker)
  obtain ⟨before, hbefore, hmem⟩ := hqueued.logged
  obtain ⟨w', hrun, hworked⟩ := worked hworker hqueued hbefore
  have hlogs : LogsIdentified (worldAfter (Event.runQueued position).run w) :=
    ((identified_event hunforeseen id).2 hidentified).mpr id
  have hworld : worldAfter (Event.runQueued position).run w = w' := (run_eq_ok_iff.mp hrun).2
  rw [hworld] at hlogs
  by_cases hanswered : (w'.tasks.task delegation.task).status = .completed ∧
      before.status = .active ∧ (w.agents.find? delegation.message.toAgent).isSome
  · obtain ⟨hcompleted, hactive, hregistered⟩ := hanswered
    obtain ⟨answer, time, hanswers, htable⟩ := hworked.answered hcompleted hactive hregistered
    have hfound : Table.find? w'.conversations delegation.conversationId =
        some (appended before answer time) := by
      rw [htable, Table.find?_insert_self]
    refine ⟨w', before, _, hrun, hbefore, hfound, fun other hother hnew => ?_⟩
    -- The answer is the only message that was not there before.
    have hanswer : other = answer :=
      List.mem_singleton.mp ((List.mem_append.mp hother).resolve_left hnew)
    subst hanswer
    refine ⟨hanswers.type, delegation.message.id, by rw [hanswers.context]; rfl, ?_⟩
    exact (hlogs _ _ hfound).namesOne (List.mem_append_left _ hmem)
  · have hsame := hworked.silent hanswered
    exact ⟨w', before, before, hrun, hbefore, hsame ▸ hbefore,
      fun answer hanswer hnew => absurd hanswer hnew⟩

/-- **Which message is meant.** Take a run that starts with a fresh engine, in which callers do not
give messages identifiers that are still to be issued. In every world on the way, the messages of
all logs have ids and times, and no two messages of a log have the same id, exactly as long as
nobody sends a message under an id that is in the log. As long as that is so, every response of a
worker names exactly one message of its log, and a message that was logged once remains the only
one with its id. -/
theorem messages_identified_iff {events : List (Event σ τ)} (hfresh : Fresh w)
    (hunforeseen : ∀ ref, ¬ Foreseen w (w.messages.get ref).id)
    (hadmissible : AdmissibleFrom w events)
    (hunguessed : Throughout (fun w event => ¬ event.Foresees w) w events) :
    ((∀ earlier, earlier <+: events → LogsIdentified (after w earlier)) ↔
      Throughout (fun w event => ¬ event.Repeats w) w events) ∧
    (∀ earlier, earlier <+: events → LogsIdentified (after w earlier) →
      ∀ position delegation, (after w earlier).workers[position]? = some delegation →
        ∃ w' before log, (runQueued position).run (after w earlier) = .ok () w' ∧
          Table.find? (after w earlier).conversations delegation.conversationId = some before ∧
          Table.find? w'.conversations delegation.conversationId = some log ∧
          ∀ answer ∈ log.messages, answer ∉ before.messages →
            answer.type = .response ∧ AnswersOne log.messages answer) ∧
    ∀ earlier later, earlier ++ later <+: events → LogsIdentified (after w (earlier ++ later)) →
      ∀ id before, Table.find? (after w earlier).conversations id = some before →
        ∃ log, Table.find? (after w (earlier ++ later)).conversations id = some log ∧
          ∀ message ∈ before.messages, NamesOne log.messages message.id := by
  have hstart : Consistent w ∧ Unforeseen w := by
    refine ⟨hfresh.consistent, hunforeseen, fun id conversation hfound => ?_⟩
    rw [hfresh.conversations] at hfound
    cases hfound
  have hallowed := (admissibleFrom_iff.mp hadmissible).and hunguessed
  -- The invariant is that the engine is consistent and that no message bears an identifier of the
  -- future; then a step spoils the logs exactly if it repeats a message.
  have hstep : ∀ {w : World σ τ} {event : Event σ τ}, Consistent w ∧ Unforeseen w →
      event.Admissible w ∧ ¬ event.Foresees w →
      (Consistent (worldAfter event.run w) ∧ Unforeseen (worldAfter event.run w)) ∧
        (LogsIdentified w → (LogsIdentified (worldAfter event.run w) ↔ ¬ event.Repeats w)) := by
    rintro w event ⟨hconsistent, hunforeseen⟩ ⟨hadmissible, hunguessed⟩
    obtain ⟨hkept, hlogs⟩ := identified_event hunforeseen hunguessed
    exact ⟨⟨(advances_event event hadmissible hconsistent).1, hkept⟩, hlogs⟩
  have hinvariant : ∀ earlier, earlier <+: events →
      Consistent (after w earlier) ∧ Unforeseen (after w earlier) := by
    rintro earlier ⟨rest, rfl⟩
    exact (throughout_append.mp hallowed).1.invariant (fun w => Consistent w ∧ Unforeseen w)
      (fun hinv h => (hstep hinv h).1) hstart
  refine ⟨?_, fun earlier hprefix hidentified position delegation hworker => ?_,
    fun earlier later hprefix hidentified id before hbefore => ?_⟩
  · refine hallowed.always_iff _ _ hstep hstart fun id conversation hfound => ?_
    rw [hfresh.conversations] at hfound
    cases hfound
  -- A worker answers with a message that is new, whose id is issued then.
  · obtain ⟨hconsistent, hunforeseen⟩ := hinvariant earlier hprefix
    exact answersOne_of_worker hconsistent hunforeseen hidentified hworker
  · -- Logs only grow, so what was in one is in it still.
    have hconsistent := (hinvariant earlier ((List.prefix_append _ _).trans hprefix)).1
    obtain ⟨rest, rfl⟩ := hprefix
    rw [admissibleFrom_iff, throughout_append, throughout_append, ← admissibleFrom_iff,
      ← admissibleFrom_iff] at hadmissible
    have hevolves := ((reaches_after hadmissible.1.2).advances hconsistent).2
    obtain ⟨log, hlog, hcontinues⟩ := hevolves.conversations id before hbefore
    rw [after_append] at hidentified ⊢
    exact ⟨log, hlog, fun message hmem =>
      (hidentified id log hlog).namesOne (hcontinues.messages.subset hmem)⟩

end Runs

/-! ## A delegation and its echo -/

/-- The delegation is answered, and its answer can be told from it. -/
theorem messages_identified_firstDelegation :
    let events := firstDelegation ++ [.runQueued 0]
    Fresh quietEngine ∧ AdmissibleFrom quietEngine events ∧
      (∀ earlier, earlier <+: events → LogsIdentified (after quietEngine earlier)) ∧
      ∃ w' before log, (runQueued 0).run (after quietEngine firstDelegation) = .ok () w' ∧
        Table.find? (after quietEngine firstDelegation).conversations (Identifier.issue 1) =
          some before ∧
        Table.find? w'.conversations (Identifier.issue 1) = some log ∧
        before.messages.length = 1 ∧ log.messages.length = 2 ∧
        ∀ answer ∈ log.messages, answer ∉ before.messages →
          answer.type = .response ∧ AnswersOne log.messages answer := by
  intro events
  have hadmissible : AdmissibleFrom quietEngine events :=
    ⟨trivial, Nat.zero_lt_one, trivial, trivial, trivial, trivial, trivial⟩
  have hunforeseen : ∀ ref, ¬ Foreseen quietEngine (quietEngine.messages.get ref).id :=
    fun _ => not_foreseen_empty _
  -- The only message that a caller makes has no id before it is sent.
  have hunguessed : Throughout (fun w event => ¬ event.Foresees w) quietEngine events :=
    ⟨id, id, id, not_foreseen_empty _, id, id, trivial⟩
  have hunrepeated : Throughout (fun w event => ¬ event.Repeats w) quietEngine events :=
    ⟨id, id, id, id, fun ⟨_, _, hne, _⟩ => hne rfl, id, trivial⟩
  obtain ⟨hlogs, hanswers, -⟩ :=
    messages_identified_iff fresh_quietEngine hunforeseen hadmissible hunguessed
  have hidentified := hlogs.mpr hunrepeated
  have hprefix : firstDelegation <+: events := List.prefix_append _ _
  have hworker : ∃ delegation, (after quietEngine firstDelegation).workers[0]? = some delegation ∧
      delegation.conversationId = Identifier.issue 1 := ⟨_, rfl, rfl⟩
  obtain ⟨delegation, hworker, hconversation⟩ := hworker
  obtain ⟨w', before, log, hrun, hbefore, hlog, hall⟩ :=
    hanswers firstDelegation hprefix (hidentified _ hprefix) 0 delegation hworker
  rw [hconversation] at hbefore hlog
  refine ⟨fresh_quietEngine, hadmissible, hidentified, w', before, log, hrun, hbefore, hlog, ?_, ?_,
    hall⟩
  · cases hbefore
    rfl
  · cases hrun
    cases hlog
    rfl

/-- A message that is sent twice stands in the log twice, under the same id, and a worker that is
started for it answers both. -/
theorem not_identified_echo :
    let events := firstDelegation ++ [.send (Identifier.issue 1) ⟨0⟩ none]
    let w := after quietEngine events
    Reachable w ∧ Throughout (fun w event => ¬ event.Foresees w) quietEngine events ∧
      ∃ log, Table.find? w.conversations (Identifier.issue 1) = some log ∧
        log.messages.map (·.id) = [Identifier.issue 2, Identifier.issue 2] ∧
        ∀ delegation ∈ w.workers, delegation.conversationId = Identifier.issue 1 ∧
          ¬ NamesOne log.messages delegation.message.id := by
  intro events w
  have hreaches : Reaches quietEngine w :=
    reaches_after ⟨trivial, Nat.zero_lt_one, trivial, trivial, trivial, trivial, trivial⟩
  obtain ⟨log, hlog, hids⟩ : ∃ log,
      Table.find? w.conversations (Identifier.issue 1) = some log ∧
        log.messages.map (·.id) = [Identifier.issue 2, Identifier.issue 2] := ⟨_, rfl, rfl⟩
  refine ⟨⟨quietEngine, fresh_quietEngine, hreaches⟩,
    ⟨id, id, id, not_foreseen_empty _, id, id, trivial⟩, log, hlog, hids, ?_⟩
  have hambiguous : ¬ NamesOne log.messages (Identifier.issue 2) := by
    rw [NamesOne, hids, List.count_cons_self, List.count_cons_self]
    simp
  -- Two workers wait in the queue, one for each time that the message was sent.
  rintro delegation (_ | ⟨_, _ | ⟨_, ⟨⟩⟩⟩)
  · exact ⟨rfl, hambiguous⟩
  · exact ⟨rfl, hambiguous⟩

end Engine

end Orchestration
