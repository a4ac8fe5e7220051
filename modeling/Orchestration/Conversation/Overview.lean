import Orchestration.Conversation
import Orchestration.Statistics

/-!
# What conversations have come to

Figures over a list of conversations, and the conversations of one agent. The figures are computed
in any number type that averages can be expressed in.
-/

namespace Orchestration

/-- Figures over a list of conversations. -/
structure ConversationMetrics (δ : Type) where
  totalConversations : Nat := 0
  activeConversations : Nat := 0
  totalMessages : Nat := 0
  /-- How many messages there are of each sort. -/
  messageTypes : Table Nat := []
  /-- How often each agent is named as a participant. -/
  participation : Table Nat := []
  averageMessages : δ

namespace ConversationMetrics

variable {δ : Type} [Duration δ]

/-- The labels of all messages, from the first to the last conversation. -/
def messageLabels (conversations : List Conversation) : List String :=
  conversations.flatMap fun conversation => conversation.messages.map (·.type.label)

/-- The participants of all conversations, from the first to the last one. -/
def participants (conversations : List Conversation) : List String :=
  conversations.flatMap (·.participants)

/-- The number of messages in each conversation on average; zero if there are no conversations. -/
def average (messages conversations : Nat) : δ :=
  if conversations = 0 then Duration.zero
  else Duration.quotient (Duration.ofCount messages) (Duration.ofCount conversations)

/-- The figures over a list of conversations. -/
def ofConversations (conversations : List Conversation) : ConversationMetrics δ :=
  let messages := (conversations.map (·.messages.length)).foldr (· + ·) 0
  { totalConversations := conversations.length
    activeConversations := conversations.countP (·.status = .active)
    totalMessages := messages
    messageTypes := Table.countAll (messageLabels conversations)
    participation := Table.countAll (participants conversations)
    averageMessages := average messages conversations.length }

/-- The figures as a record. -/
def toValue (metrics : ConversationMetrics Float) : Value :=
  .record [("total_conversations", .int metrics.totalConversations),
    ("active_conversations", .int metrics.activeConversations),
    ("total_messages", .int metrics.totalMessages),
    ("message_types", .counts metrics.messageTypes),
    ("agent_participation", .counts metrics.participation),
    ("average_messages_per_conversation", .float metrics.averageMessages)]

end ConversationMetrics

namespace Conversation

/-- Conversations from the oldest to the newest one; those of the same age keep their order. -/
def oldestFirst (conversations : List Conversation) : List Conversation :=
  conversations.mergeSort fun a b => decide (a.createdAt.instant ≤ b.createdAt.instant)

/-- The conversations that an agent participates in, oldest first. -/
def ofParticipant (conversations : List Conversation) (agentId : String) : List Conversation :=
  oldestFirst (conversations.filter fun conversation => conversation.participants.contains agentId)

end Conversation

end Orchestration
