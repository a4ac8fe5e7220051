import Orchestration.Proofs.Session

/-!
# The proceedings of a run

The proceedings of a run tell what has happened in conversations (`Proceeds`): a conversation was
started, a message was appended to one, a close has returned. It does not matter who brought that
about, and whatever has failed without appending a message is not told. Every run has proceedings
(`Reaches.proceeds`), and whichever proceedings of a run one takes, the table of conversations has
nothing but what they tell (`Documented`).
-/

namespace Orchestration

/-! ## Proceedings -/

/-- What happens in conversations. -/
inductive Happening where
  | started (id : String) (participants : List String)
  | appended (id : String) (message : Message)
  /-- A conversation is closed, or was closed before. -/
  | closed (id : String)

namespace Happening

/-- The conversation that is started, with its participants. -/
@[simp]
def start? : Happening → Option (String × List String)
  | started id participants => some (id, participants)
  | appended _ _ | closed _ => none

/-- The message that is appended. -/
@[simp]
def message? : Happening → Option Message
  | appended _ message => some message
  | started _ _ | closed _ => none

/-- The conversation that is closed. -/
@[simp]
def closed? : Happening → Option String
  | closed id => some id
  | started _ _ | appended _ _ => none

end Happening

/-- The conversations that were started, in this order, each with its participants. -/
def startsIn (log : List Happening) : List (String × List String) :=
  log.filterMap Happening.start?

/-- The messages that were appended. -/
def messagesIn (log : List Happening) : List Message :=
  log.filterMap Happening.message?

/-- The conversations that were closed. -/
def closingsIn (log : List Happening) : List String :=
  log.filterMap Happening.closed?

section Append

variable (log later : List Happening) (happening : Happening)

@[simp]
theorem startsIn_singleton : startsIn [happening] = happening.start?.toList := by
  cases happening <;> rfl

@[simp]
theorem messagesIn_singleton : messagesIn [happening] = happening.message?.toList := by
  cases happening <;> rfl

@[simp]
theorem closingsIn_singleton : closingsIn [happening] = happening.closed?.toList := by
  cases happening <;> rfl

/-- The starts of a longer record are those of its parts. -/
@[simp]
theorem startsIn_append : startsIn (log ++ later) = startsIn log ++ startsIn later :=
  List.filterMap_append

/-- The messages of a longer record are those of its parts. -/
@[simp]
theorem messagesIn_append : messagesIn (log ++ later) = messagesIn log ++ messagesIn later :=
  List.filterMap_append

/-- The closings of a longer record are those of its parts. -/
@[simp]
theorem closingsIn_append : closingsIn (log ++ later) = closingsIn log ++ closingsIn later :=
  List.filterMap_append

end Append

namespace Engine

variable {σ τ : Type}

section

variable [Time τ] {w w' : World σ τ}

/-! ## What proceedings tell -/

/-- The proceedings tell what has happened in conversations on the way from the first world to the
second one. -/
inductive Proceeds : World σ τ → List Happening → World σ τ → Prop
  /-- Nothing happens in conversations. -/
  | quiet {w w' : World σ τ} (hconversations : w'.conversations = w.conversations)
      (hissued : w.issued ≤ w'.issued) : Proceeds w [] w'
  /-- The start of a conversation returns. -/
  | started {w : World σ τ} {participants : List String} {topic : String} {metadata : Fields}
      {context : Option String} {conversation : Conversation}
      (h : outcomeOf (startConversation participants topic metadata context) w =
        .ok conversation) :
      Proceeds w [.started conversation.id participants]
        (worldAfter (startConversation participants topic metadata context) w)
  /-- A message is let in, whatever comes of the task that it may delegate. -/
  | appended {w : World σ τ} {id : String} {ref : Ref Message} {context : Option String}
      {admission : Admission} (h : Admitted w id (w.messages.get ref) context admission) :
      Proceeds w [.appended id (stampedAt w ref)] (worldAfter (send id ref context) w)
  /-- The close of a conversation returns. -/
  | closed {w : World σ τ} {id : String} {context : Option String} {conversation : Conversation}
      (h : outcomeOf (closeConversation id context) w = .ok conversation) :
      Proceeds w [.closed id] (worldAfter (closeConversation id context) w)
  | append {w w₁ w' : World σ τ} {log later : List Happening} (h : Proceeds w log w₁)
      (h' : Proceeds w₁ later w') : Proceeds w (log ++ later) w'

/-- There are proceedings that lead from the first world to the second one. -/
def HasProceedings (w w' : World σ τ) : Prop :=
  ∃ log, Proceeds w log w'

instance : IsPreorder (World σ τ) HasProceedings where
  refl _ := ⟨[], .quiet rfl (Nat.le_refl _)⟩
  trans _ _ _ := fun ⟨_, h⟩ ⟨_, h'⟩ => ⟨_, h.append h'⟩

/-- Where the conversations are as before, nothing has happened in them. -/
theorem hasProceedings_quiet (hconversations : w'.conversations = w.conversations)
    (hissued : w.issued ≤ w'.issued) : HasProceedings w w' :=
  ⟨[], .quiet hconversations hissued⟩

/-- A start is one happening, or none if it is refused. -/
theorem hasProceedings_startConversation (participants : List String) (topic : String)
    (metadata : Fields) (context : Option String) :
    Guarantees HasProceedings
      (startConversation participants topic metadata context : Run σ τ Conversation) := by
  intro w
  rcases (starting participants topic metadata context w).eq_or_ok with hsame | ⟨_, houtcome⟩
  · rw [hsame]
    exact Std.Refl.refl w
  · exact ⟨_, .started houtcome⟩

/-- A message is one happening, or none if it is refused. -/
theorem hasProceedings_send (id : String) (ref : Ref Message) (context : Option String) :
    Guarantees HasProceedings (send id ref context : Run σ τ Message) := by
  intro w
  rcases (sending id ref context w).eq_or_admitted with hsame | ⟨_, hadmitted⟩
  · rw [hsame]
    exact Std.Refl.refl w
  · exact ⟨_, .appended hadmitted⟩

/-- A closing is one happening, or none if it is refused or comes a second time. -/
theorem hasProceedings_closeConversation (id : String) (context : Option String) :
    Guarantees HasProceedings (closeConversation id context : Run σ τ Conversation) := by
  intro w
  rcases (closing id context w).eq_or_ok with hsame | ⟨_, houtcome⟩
  · rw [hsame]
    exact Std.Refl.refl w
  · exact ⟨_, .closed houtcome⟩

/-- Nothing happens in conversations when agents are registered. -/
theorem registerLaw_hasProceedings : RegisterLaw (HasProceedings (σ := σ) (τ := τ)) where
  issued _ := hasProceedings_quiet rfl (Nat.le_succ _)
  replaced _ _ := hasProceedings_quiet rfl (Nat.le_refl _)
  logged _ _ := hasProceedings_quiet rfl (Nat.le_refl _)

/-- Whatever an engine does has proceedings. -/
theorem hasProceedings [Backend σ τ] : Law (HasProceedings (σ := σ) (τ := τ)) where
  idle _ _ _ _ _ _ _ := hasProceedings_quiet rfl (Nat.le_refl _)
  issued := registerLaw_hasProceedings.issued
  registry _ _ := hasProceedings_quiet rfl (Nat.le_refl _)
  workers _ _ _ := hasProceedings_quiet rfl (Nat.le_refl _)
  agentAdded _ _ := registerLaw_hasProceedings.replaced _ _
  taskAdded _ _ _ := hasProceedings_quiet rfl (Nat.le_refl _)
  messageAdded _ _ := hasProceedings_quiet rfl (Nat.le_refl _)
  createAgent w ref context _ := registerLaw_hasProceedings.createAgent ref context w
  updateAgent w ref context _ := registerLaw_hasProceedings.updateAgent ref context w
  deleteAgent := registerLaw_hasProceedings.deleteAgent
  startConversation := hasProceedings_startConversation
  send := hasProceedings_send
  closeConversation := hasProceedings_closeConversation
  execute ref agentRef context tracked w := by
    have hbooks := (executed ref agentRef context tracked w).books
    exact hasProceedings_quiet hbooks.conversations (Nat.le_of_eq hbooks.issued.symm)

/-- **Run law.** Every run has proceedings. -/
theorem Reaches.proceeds [Backend σ τ] (h : Reaches w w') : ∃ log, Proceeds w log w' := by
  induction h with
  | refl => exact Std.Refl.refl (r := HasProceedings) w
  | @step w' _ event hadmissible ih =>
    refine IsTrans.trans (r := HasProceedings) _ _ _ ih ?_
    refine hasProceedings.event hadmissible fun hown => ?_
    -- What callers do on their own has nothing to do with conversations.
    cases event with
    | changeAgent | makeTask | changeMessage => exact hasProceedings_quiet rfl (Nat.le_refl _)
    | _ => cases hown

end

/-! ## What proceedings document -/

section

variable {w w' : World σ τ}

/-- The table of conversations has what the proceedings tell, and nothing else. -/
structure Documented (log : List Happening) (w : World σ τ) : Prop where
  /-- The conversations are in the order of their starts. -/
  starts : w.conversations.map (fun entry => (entry.1, entry.2.participants)) = startsIn log
  different : (Table.keys w.conversations).Nodup
  identified : ∀ id conversation, Table.find? w.conversations id = some conversation →
    conversation.id = id ∧ ∃ n < w.issued, id = Identifier.issue n
  status : ∀ id conversation, Table.find? w.conversations id = some conversation →
    (conversation.status = .active ↔ id ∉ closingsIn log)
  closings : ∀ id ∈ closingsIn log, (Table.find? w.conversations id).isSome
  messages : ((Table.values w.conversations).flatMap (·.messages)).Perm (messagesIn log)

namespace Documented

variable {log : List Happening}

/-- Nothing has happened in a fresh engine. -/
theorem of_fresh (h : Fresh w) : Documented [] w := by
  constructor <;> simp [h.conversations, startsIn, messagesIn, closingsIn, Table.keys, Table.values]

/-- What happens elsewhere changes nothing that is documented. -/
theorem quiet (h : Documented log w) (hconversations : w'.conversations = w.conversations)
    (hissued : w.issued ≤ w'.issued) : Documented log w' := by
  refine ⟨?_, ?_, ?_, ?_, ?_, ?_⟩ <;> rw [hconversations]
  · exact h.starts
  · exact h.different
  · intro id conversation hfound
    obtain ⟨hid, n, hn, hissue⟩ := h.identified id conversation hfound
    exact ⟨hid, n, Nat.lt_of_lt_of_le hn hissued, hissue⟩
  · exact h.status
  · exact h.closings
  · exact h.messages

/-- An identifier that is still to be issued names no conversation. -/
theorem find?_issue (h : Documented log w) :
    Table.find? w.conversations (Identifier.issue w.issued) = none := by
  rw [Option.eq_none_iff_forall_ne_some]
  intro conversation hfound
  obtain ⟨-, n, hn, hissue⟩ := h.identified _ conversation hfound
  have heq := Identifier.issue_injective hissue
  omega

/-- The start of a conversation is documented. -/
theorem started {conversation : Conversation} (h : Documented log w)
    (hstarted : Started w conversation w') :
    Documented (log ++ [.started conversation.id conversation.participants]) w' := by
  have hnew := h.find?_issue
  have htable : w'.conversations = w.conversations ++ [(conversation.id, conversation)] := by
    rw [hstarted.conversations, Table.insert_of_find?_eq_none conversation hnew, hstarted.id]
  have hfind : ∀ id, Table.find? w'.conversations id =
      if id = conversation.id then some conversation else Table.find? w.conversations id := by
    intro id
    rw [hstarted.conversations, Table.find?_insert, hstarted.id]
  refine ⟨?_, ?_, ?_, ?_, ?_, ?_⟩
  · rw [htable, List.map_append, h.starts, startsIn_append]
    rfl
  · rw [hstarted.conversations]
    exact Table.nodup_keys_insert h.different _ _
  · intro id other hfound
    rw [hstarted.issued]
    rw [hfind] at hfound
    split at hfound
    next heq =>
      cases hfound
      exact ⟨heq.symm, w.issued, Nat.lt_succ_self _, heq.trans hstarted.id⟩
    next =>
      obtain ⟨hid, n, hn, hissue⟩ := h.identified id other hfound
      exact ⟨hid, n, Nat.lt_succ_of_lt hn, hissue⟩
  · intro id other hfound
    rw [closingsIn_append, closingsIn_singleton, Happening.closed?, Option.toList_none,
      List.append_nil]
    rw [hfind] at hfound
    split at hfound
    next heq =>
      cases hfound
      -- Nobody has closed the conversation before it was started.
      refine iff_of_true hstarted.status fun hmem => ?_
      have hknown := h.closings id hmem
      rw [heq, hstarted.id, hnew] at hknown
      cases hknown
    next => exact h.status id other hfound
  · intro id hmem
    rw [closingsIn_append, closingsIn_singleton, Happening.closed?, Option.toList_none,
      List.append_nil] at hmem
    rw [hfind]
    split
    · rfl
    · exact h.closings id hmem
  · have hvalues : Table.values w'.conversations =
        Table.values w.conversations ++ [conversation] := by
      rw [htable, Table.values, List.map_append]
      rfl
    rw [hvalues, List.flatMap_append, messagesIn_append, List.flatMap_singleton,
      hstarted.messages]
    exact h.messages.append_right []

/-- What happens to a conversation that was started before is documented. -/
theorem rewritten {happening : Happening} {id : String} {old later : Conversation}
    (h : Documented log w) (hfound : Table.find? w.conversations id = some old)
    (hid : later.id = old.id) (hparticipants : later.participants = old.participants)
    (hmessages : later.messages = old.messages ++ happening.message?.toList)
    (hstart : happening.start? = none) (hclosed : ∀ other ∈ happening.closed?, other = id)
    (hstatus : later.status = .active ↔ old.status = .active ∧ happening.closed? = none)
    (hconversations : w'.conversations = Table.insert w.conversations id later)
    (hissued : w.issued ≤ w'.issued) : Documented (log ++ [happening]) w' := by
  have hfind : ∀ other, Table.find? w'.conversations other =
      if other = id then some later else Table.find? w.conversations other := by
    intro other
    rw [hconversations, Table.find?_insert]
  have hclosings : closingsIn (log ++ [happening]) =
      closingsIn log ++ happening.closed?.toList := by
    rw [closingsIn_append, closingsIn_singleton]
  -- The conversations are those of before but for the one that is rewritten, so each clause is that
  -- of the record before, and the clause about this conversation is seen to on its own.
  refine ⟨?_, ?_, ?_, ?_, ?_, ?_⟩
  · have hsame : (id, later.participants) = (id, old.participants) := by rw [hparticipants]
    rw [hconversations, Table.map_insert_of_find?_eq_some hfound hsame, h.starts, startsIn_append,
      startsIn_singleton, hstart, Option.toList_none, List.append_nil]
  · rw [hconversations]
    exact Table.nodup_keys_insert h.different _ _
  · intro other conversation hother
    rw [hfind] at hother
    split at hother
    next heq =>
      cases hother
      obtain ⟨hold, n, hn, hissue⟩ := h.identified id old hfound
      exact ⟨hid.trans (hold.trans heq.symm), n, Nat.lt_of_lt_of_le hn hissued, heq.trans hissue⟩
    next =>
      obtain ⟨hkept, n, hn, hissue⟩ := h.identified other conversation hother
      exact ⟨hkept, n, Nat.lt_of_lt_of_le hn hissued, hissue⟩
  · intro other conversation hother
    rw [hclosings, List.mem_append, not_or]
    rw [hfind] at hother
    split at hother
    next heq =>
      cases hother
      subst heq
      rw [hstatus, h.status other old hfound]
      refine and_congr_right fun _ => ?_
      -- The conversation is closed by the last happening, or it was closed already.
      cases hhappening : happening.closed? with
      | none => simp
      | some closed => simp [hclosed closed hhappening]
    next hne =>
      rw [h.status other conversation hother]
      refine (and_iff_left fun hmem => hne ?_).symm
      exact hclosed other (Option.mem_toList.mp hmem)
  · intro other hmem
    rw [hfind]
    split
    · rfl
    next hne =>
      rw [hclosings, List.mem_append] at hmem
      rcases hmem with hbefore | hnow
      · exact h.closings other hbefore
      · exact absurd (hclosed other (Option.mem_toList.mp hnow)) hne
  · rw [hconversations, messagesIn_append, messagesIn_singleton]
    exact (Table.flatMap_insert_perm hfound hmessages).trans (h.messages.append_right _)

variable [Time τ]

/-- **Step law.** What proceedings tell of a conversation is documented. -/
theorem proceeds {later : List Happening} (h : Documented log w) (hproceeds : Proceeds w later w') :
    Documented (log ++ later) w' := by
  induction hproceeds generalizing log with
  | quiet hconversations hissued =>
    rw [List.append_nil]
    exact h.quiet hconversations hissued
  | @started w participants topic metadata context conversation houtcome =>
    have hstarting := starting participants topic metadata context w
    rw [houtcome] at hstarting
    obtain ⟨hstarted, rfl, -⟩ := hstarting.of_ok
    exact h.started hstarted
  | @appended w id ref context admission hadmitted =>
    obtain ⟨hconversations, hissued⟩ := (sending id ref context w).conversations hadmitted
    refine h.rewritten hadmitted.found ?_ ?_ ?_ ?_ ?_ ?_ hconversations (Nat.le_of_lt hissued)
    · rfl
    · rfl
    · rfl
    · rfl
    · exact nofun
    · exact (and_iff_left rfl).symm
  | @closed w id context conversation houtcome =>
    have hclosing := closing id context w
    rw [houtcome] at hclosing
    generalize worldAfter (closeConversation id context) w = w' at *
    cases hclosing with
    | again hfound hstatus journal =>
      -- What is in the table could as well have been written there again.
      have hwritten := (Table.insert_of_find?_eq_some hfound).symm
      refine h.rewritten hfound rfl rfl ?_ rfl ?_ ?_ hwritten (Nat.le_refl _)
      · exact (List.append_nil _).symm
      · rintro other ⟨⟩
        rfl
      · exact iff_of_false (by simp [hstatus]) (by simp [hstatus])
    | closed hclosed =>
      refine h.rewritten hclosed.found ?_ ?_ ?_ rfl ?_ ?_ hclosed.conversations
        (Nat.le_of_eq hclosed.issued.symm)
      · rfl
      · rfl
      · exact (List.append_nil _).symm
      · rintro other ⟨⟩
        rfl
      · exact iff_of_false nofun nofun
  | append _ _ ih ih' =>
    rw [← List.append_assoc]
    exact ih' (ih h)

end Documented

end

/-- **Run law.** Whichever proceedings of a run one takes, the table of conversations has what they
tell. -/
theorem Proceeds.documented [Time τ] {fresh w : World σ τ} {log : List Happening}
    (hfresh : Fresh fresh) (h : Proceeds fresh log w) : Documented log w :=
  (Documented.of_fresh hfresh).proceeds h

end Engine

end Orchestration
