import Mathlib.Algebra.Field.Rat
import Mathlib.Data.Rat.Cast.Defs
import Orchestration.Conversation.Overview
import Orchestration.Proofs.Conversation.Proceedings
import Orchestration.Proofs.Collections

/-!
# What the figures of conversations say

The figures of conversations are computed from the table as it is when somebody asks for them, but
they tell what has happened in the run (`Conserved`): how many conversations were started, how many
of them were never closed, and how many messages of which sort were appended by whomever. Whoever
lists the conversations of an agent gets those that name it as a participant, each of them once,
from the oldest to the newest one, and ties in the order of their starts (`Listed`).

The main statement is `figures_conserved`.
-/

namespace Orchestration

/-! ## Figures over a list of conversations -/

/-- Types of messages have different labels. -/
theorem MessageType.label_injective : Function.Injective MessageType.label := by
  intro type other h
  revert h
  cases type <;> cases other <;> decide

namespace ConversationMetrics

variable {δ : Type} [Duration δ] (conversations : List Conversation)

/-- The messages of all conversations. -/
def messages (conversations : List Conversation) : List Message :=
  conversations.flatMap (·.messages)

/-- All messages of all conversations are counted. -/
theorem totalMessages_ofConversations :
    (ofConversations conversations : ConversationMetrics δ).totalMessages =
      (messages conversations).length := by
  rw [messages, List.length_flatMap]
  rfl

/-- The labels that are counted are those of the messages. -/
theorem messageLabels_eq :
    messageLabels conversations = (messages conversations).map (·.type.label) := by
  rw [messageLabels, messages, List.map_flatMap]

/-- The messages of all sorts are all messages. -/
theorem sum_messageTypes :
    (Table.values (ofConversations conversations : ConversationMetrics δ).messageTypes).sum =
      (messages conversations).length := by
  rw [ofConversations, Table.sum_values_countAll, messageLabels_eq, List.length_map]

/-- Each entry counts the messages of one sort, and there is one. -/
theorem of_mem_messageTypes {entry : String × Nat}
    (h : entry ∈ (ofConversations conversations : ConversationMetrics δ).messageTypes) :
    0 < entry.2 ∧ ∃ type, entry.1 = MessageType.label type ∧
      entry.2 = (messages conversations).countP (·.type = type) := by
  obtain ⟨hpositive, hcount⟩ := Table.eq_count_of_mem_countAll h
  rw [messageLabels_eq] at hcount
  have hmem : entry.1 ∈ (messages conversations).map (·.type.label) :=
    List.count_pos_iff.mp (hcount ▸ hpositive)
  obtain ⟨message, -, hlabel⟩ := List.mem_map.mp hmem
  refine ⟨hpositive, message.type, hlabel.symm, ?_⟩
  rw [hcount, ← hlabel, List.count, List.countP_map]
  refine List.countP_congr fun other _ => ?_
  simp [MessageType.label_injective.eq_iff]

/-- Everybody who is named in a list of participants is counted as often as it is named. -/
theorem sum_participation :
    (Table.values (ofConversations conversations : ConversationMetrics δ).participation).sum =
      (conversations.map (·.participants.length)).sum := by
  rw [ofConversations, Table.sum_values_countAll, participants, List.length_flatMap]

/-- The exact average goes with the totals. -/
structure Averaged (metrics : ConversationMetrics Rat) : Prop where
  average : metrics.averageMessages * metrics.totalConversations = metrics.totalMessages
  none : metrics.totalConversations = 0 → metrics.averageMessages = 0

/-- The average is that of messages over conversations. -/
theorem averaged_ofConversations : Averaged (ofConversations conversations) := by
  have htotal := totalMessages_ofConversations (δ := Rat) conversations
  constructor
  · show average _ conversations.length * (conversations.length : Rat) = _
    unfold average
    split
    next hnone =>
      -- Without conversations there are no messages.
      have hnil : conversations = [] := List.length_eq_zero_iff.mp hnone
      rw [htotal, hnil]
      exact mul_zero _
    next hsome =>
      have hne : (conversations.length : Rat) ≠ 0 := Nat.cast_ne_zero.mpr hsome
      exact div_mul_cancel₀ _ hne
  · intro hnone
    exact if_pos hnone

end ConversationMetrics

/-- The list of an agent is sorted by age. -/
theorem Conversation.sortedBy_ofParticipant (conversations : List Conversation)
    (agentId : String) :
    SortedBy (·.createdAt.instant)
      (conversations.filter fun conversation => agentId ∈ conversation.participants)
      (ofParticipant conversations agentId) := by
  have hnamed : conversations.filter (fun conversation =>
      conversation.participants.contains agentId) =
      conversations.filter fun conversation => agentId ∈ conversation.participants :=
    List.filter_congr fun conversation _ => by simp
  rw [← hnamed]
  exact sortedBy_mergeSort _ _

/-! ## What figures and lists say -/

/-- The figures tell what has happened in the run with the given proceedings. -/
structure Conserved {δ : Type} (log : List Happening) (metrics : ConversationMetrics δ) :
    Prop where
  conversations : metrics.totalConversations = (startsIn log).length
  /-- The conversations that were never closed are active. -/
  active : metrics.activeConversations =
    (startsIn log).countP fun start => start.1 ∉ closingsIn log
  messages : metrics.totalMessages = (messagesIn log).length
  messageTypes : metrics.totalMessages = (Table.values metrics.messageTypes).sum
  different : (Table.keys metrics.messageTypes).Nodup
  messageType : ∀ entry ∈ metrics.messageTypes, 0 < entry.2 ∧
    ∃ type, entry.1 = MessageType.label type ∧
      entry.2 = (messagesIn log).countP (·.type = type)
  participation : (Table.values metrics.participation).sum =
    ((startsIn log).map (·.2.length)).sum

/-- The list has the conversations that name an agent as a participant, each of them once, from the
oldest to the newest one; those of the same age are in the order of their starts. -/
structure Listed (log : List Happening) (conversations : List Conversation) (agentId : String)
    (found : List Conversation) : Prop where
  /-- The conversations are in the order of their starts. -/
  kept : conversations.map (fun conversation => (conversation.id, conversation.participants)) =
    startsIn log
  sorted : SortedBy (·.createdAt.instant)
    (conversations.filter fun conversation => agentId ∈ conversation.participants) found
  once : (found.map (·.id)).Nodup

namespace Engine

variable {σ τ : Type} {fresh w : World σ τ} {log : List Happening}

namespace Documented

/-- A conversation that is there is found under its id. -/
theorem find?_of_mem (h : Documented log w) {entry : String × Conversation}
    (hmem : entry ∈ w.conversations) : Table.find? w.conversations entry.1 = some entry.2 :=
  Table.find?_of_mem h.different hmem

/-- The conversations are in the order of their starts, each under its own id. -/
theorem kept (h : Documented log w) :
    (Table.values w.conversations).map
      (fun conversation => (conversation.id, conversation.participants)) = startsIn log := by
  rw [← h.starts, Table.values, List.map_map]
  refine List.map_congr_left fun entry hmem => ?_
  have hid := (h.identified entry.1 entry.2 (h.find?_of_mem hmem)).1
  exact congrArg (·, entry.2.participants) hid

/-- The conversations that are active are those that were started and not closed. -/
theorem countP_active (h : Documented log w) :
    (Table.values w.conversations).countP (·.status = .active) =
      (startsIn log).countP fun start => start.1 ∉ closingsIn log := by
  rw [← h.starts, Table.values, List.countP_map, List.countP_map]
  refine List.countP_congr fun entry hmem => ?_
  simpa using h.status entry.1 entry.2 (h.find?_of_mem hmem)

/-- The figures account for all starts, messages and closings. -/
theorem conserved {δ : Type} [Duration δ] (h : Documented log w) :
    Conserved log
      (ConversationMetrics.ofConversations (Table.values w.conversations) :
        ConversationMetrics δ) where
  conversations := by
    rw [← h.kept, List.length_map]
    rfl
  active := h.countP_active
  messages := (ConversationMetrics.totalMessages_ofConversations _).trans h.messages.length_eq
  messageTypes := by
    rw [ConversationMetrics.totalMessages_ofConversations, ConversationMetrics.sum_messageTypes]
  different := Table.nodup_keys_countAll _
  messageType entry hmem := by
    obtain ⟨hpositive, type, hlabel, hcount⟩ := ConversationMetrics.of_mem_messageTypes _ hmem
    exact ⟨hpositive, type, hlabel, hcount.trans (h.messages.countP_eq _)⟩
  participation := by
    rw [ConversationMetrics.sum_participation, ← h.kept, List.map_map]
    rfl

/-- No two conversations have the same id. -/
theorem nodup_ids (h : Documented log w) : ((Table.values w.conversations).map (·.id)).Nodup := by
  have hkeys : (Table.values w.conversations).map (·.id) = Table.keys w.conversations := by
    have hstarts := congrArg (List.map Prod.fst) (h.kept.trans h.starts.symm)
    rwa [List.map_map, List.map_map] at hstarts
  rw [hkeys]
  exact h.different

/-- The list of a participant holds just its conversations. -/
theorem listed (h : Documented log w) (agentId : String) :
    Listed log (Table.values w.conversations) agentId
      (Conversation.ofParticipant (Table.values w.conversations) agentId) where
  kept := h.kept
  sorted := Conversation.sortedBy_ofParticipant _ agentId
  once := by
    -- The list has a part of the table in another order.
    have hperm := (Conversation.sortedBy_ofParticipant (Table.values w.conversations) agentId).perm
    rw [(hperm.map Conversation.id).nodup_iff]
    exact h.nodup_ids.sublist (List.filter_sublist.map Conversation.id)

end Documented

/-! ## The main statement -/

section

variable [Time τ] [Backend σ τ]

omit [Backend σ τ] in
/-- Callers whose request is admitted get the conversations of the agent. -/
theorem outcomeOf_listConversations {context : Option String}
    (hopen : w.surroundings.check context none = .ok ()) (agentId : String) :
    outcomeOf (listConversations agentId context) w =
      .ok (Conversation.ofParticipant (Table.values w.conversations) agentId) := by
  rw [listConversations, outcomeOf_bind, run_check, run_lift, hopen]
  rfl

/-- **Figures are conserved.** Every run has proceedings, and whichever of them one takes, the
figures that everybody gets tell what has happened in the run, and so does the list of the
conversations of an agent that callers get whose request is admitted. -/
theorem figures_conserved {δ : Type} [Duration δ] (hfresh : Fresh fresh)
    (hrun : Reaches fresh w) :
    (∃ log, Proceeds fresh log w) ∧
      ∀ log, Proceeds fresh log w →
        (∃ metrics : ConversationMetrics δ,
          outcomeOf conversationMetrics w = .ok metrics ∧ Conserved log metrics) ∧
        (∃ metrics : ConversationMetrics Rat,
          outcomeOf conversationMetrics w = .ok metrics ∧ metrics.Averaged) ∧
        ∀ agentId context, w.surroundings.check context none = .ok () →
          ∃ found, outcomeOf (listConversations agentId context) w = .ok found ∧
            Listed log (Table.values w.conversations) agentId found := by
  refine ⟨hrun.proceeds, fun log hproceeds => ?_⟩
  have hdocumented := hproceeds.documented hfresh
  refine ⟨⟨_, rfl, hdocumented.conserved⟩,
    ⟨_, rfl, ConversationMetrics.averaged_ofConversations _⟩, fun agentId context hopen => ?_⟩
  exact ⟨_, outcomeOf_listConversations hopen agentId, hdocumented.listed agentId⟩

end

/-- Two agents talk with each other. One of them starts another conversation after the first one is
closed. -/
def dialogue : List (Event (Scripted.Script Rat) Rat) :=
  [.makeAgent { id := "al" }, .createAgent ⟨0⟩ none,
    .makeAgent { id := "bo" }, .createAgent ⟨1⟩ none,
    .startConversation ["al", "bo"] "" [] none,
    .makeMessage { fromAgent := "al", content := "hi" },
    .send (Identifier.issue 2) ⟨0⟩ none,
    .closeConversation (Identifier.issue 2) none,
    .startConversation ["al"] "" [] none]

theorem reaches_dialogue : Reaches quietEngine (after quietEngine dialogue) :=
  reaches_after ⟨trivial, Nat.zero_lt_one, trivial, Nat.one_lt_two, trivial, trivial, trivial,
    trivial, trivial, trivial⟩

/-- Two conversations were started, of which one is active, with one message in both together. -/
theorem figures_conserved_dialogue :
    let w := after quietEngine dialogue
    ∃ log, Proceeds quietEngine log w ∧ (startsIn log).length = 2 ∧
      ((startsIn log).countP fun start => start.1 ∉ closingsIn log) = 1 ∧
      (messagesIn log).length = 1 ∧
      ∃ found, outcomeOf (listConversations "al" none) w = .ok found ∧
        Listed log (Table.values w.conversations) "al" found := by
  intro w
  obtain ⟨⟨log, hproceeds⟩, hall⟩ :=
    figures_conserved (δ := Rat) fresh_quietEngine reaches_dialogue
  obtain ⟨⟨metrics, hmetrics, hconserved⟩, -, hlists⟩ := hall log hproceeds
  have hopen : w.surroundings.check none none = .ok () := rfl
  obtain rfl : _ = metrics := Except.ok.inj hmetrics
  exact ⟨log, hproceeds, hconserved.conversations.symm, hconserved.active.symm,
    hconserved.messages.symm, hlists "al" none hopen⟩

end Engine

end Orchestration
