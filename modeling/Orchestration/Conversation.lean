import Orchestration.Task

/-!
# Conversations

A conversation is a log of messages between agents. It is active until it is closed. A conversation
workflow sends a list of templated messages, one step after the other.
-/

namespace Orchestration

/-- The sorts of messages. -/
inductive MessageType where
  | request
  | response
  | notification
  | taskDelegation
  | reflectionShare
  | broadcast
deriving DecidableEq, Repr, Inhabited

namespace MessageType

/-- The label of a sort of message. -/
def label : MessageType → String
  | .request => "request"
  | .response => "response"
  | .notification => "notification"
  | .taskDelegation => "task_delegation"
  | .reflectionShare => "reflection_share"
  | .broadcast => "broadcast"

/-- The sort of message with the given label. -/
def ofLabel? (label : String) : Option MessageType :=
  [request, response, notification, taskDelegation, reflectionShare, broadcast].find?
    (·.label = label)

end MessageType

/-- Whether messages can still be sent. -/
inductive ConversationStatus where
  | active
  | closed
deriving DecidableEq, Repr, Inhabited

namespace ConversationStatus

/-- The label of a status. -/
def label : ConversationStatus → String
  | .active => "active"
  | .closed => "closed"

/-- The status with the given label. -/
def ofLabel? (label : String) : Option ConversationStatus :=
  [active, closed].find? (·.label = label)

end ConversationStatus

/-- A message between agents. -/
structure Message where
  /-- Empty until the message is sent, unless the sender chooses one. -/
  id : String := ""
  fromAgent : String
  /-- The receiver; empty if the message goes to all. -/
  toAgent : String := ""
  content : String := ""
  type : MessageType := .request
  context : Fields := []
  timestamp : Option Moment := none
deriving Inhabited

/-- A log of messages. -/
structure Conversation where
  id : String
  participants : List String := []
  /-- The messages in the order in which they were sent. -/
  messages : List Message := []
  status : ConversationStatus := .active
  topic : String := ""
  metadata : Fields := []
  createdAt : Moment
  updatedAt : Moment
deriving Inhabited

/-- A templated message. -/
structure ConversationStep where
  id : String
  fromAgent : String
  toAgent : String := ""
  template : String := ""
  type : MessageType := .request
  parameters : Fields := []

/-- A list of templated messages for one conversation. -/
structure ConversationWorkflow where
  id : String
  name : String := ""
  description : String := ""
  participants : List String := []
  steps : List ConversationStep := []

/-- What a step of a conversation workflow has sent. -/
structure ConversationStepResult where
  stepId : String
  message : Message
  success : Bool := true
  durationMs : Float := 0.0

/-- The outcome of a conversation workflow. -/
structure ConversationWorkflowResult where
  conversationId : String
  success : Bool := true
  stepResults : List ConversationStepResult := []
  insights : List String := []
  finalOutcome : String := ""
  error : String := ""
  durationMs : Float := 0.0

/-! ## Records -/

namespace Message

/-- The message as a record. -/
def toValue (message : Message) : Value :=
  .record [("id", .text message.id), ("from_agent_id", .text message.fromAgent),
    ("to_agent_id", .text message.toAgent), ("content", .text message.content),
    ("type", .text message.type.label), ("context", .record message.context),
    ("timestamp", Moment.toValue? message.timestamp)]

/-- Reads a message. -/
def read (v : Value) : Checked Message :=
  match Schema.record v with
  | .failed issues => .failed issues
  | .ok es =>
    Message.mk <$> Schema.optional es "id" Schema.text ""
      <*> Schema.required es "from_agent_id" Schema.text
      <*> Schema.optional es "to_agent_id" Schema.text ""
      <*> Schema.optional es "content" Schema.text ""
      <*> Schema.optional es "type" (Schema.labelled MessageType.ofLabel? .enumeration) .request
      <*> Schema.optional es "context" Schema.fields []
      <*> Schema.optional es "timestamp" (Schema.nullable Schema.moment) none

end Message

namespace Conversation

/-- The conversation as a record. -/
def toValue (conversation : Conversation) : Value :=
  .record [("id", .text conversation.id), ("participants", .texts conversation.participants),
    ("messages", .list (conversation.messages.map Message.toValue)),
    ("status", .text conversation.status.label), ("topic", .text conversation.topic),
    ("metadata", .record conversation.metadata), ("created_at", conversation.createdAt.toValue),
    ("updated_at", conversation.updatedAt.toValue)]

/-- Reads a conversation; its id is `id` and its times are now, unless they are given. -/
def read (id : String) (now : Moment) (v : Value) : Checked Conversation :=
  match Schema.record v with
  | .failed issues => .failed issues
  | .ok es =>
    let status := Schema.labelled ConversationStatus.ofLabel? .enumeration
    Conversation.mk <$> Schema.optional es "id" Schema.text id
      <*> Schema.optional es "participants" (Schema.list Schema.text) []
      <*> Schema.optional es "messages" (Schema.list Message.read) []
      <*> Schema.optional es "status" status .active
      <*> Schema.optional es "topic" Schema.text ""
      <*> Schema.optional es "metadata" Schema.fields []
      <*> Schema.optional es "created_at" Schema.moment now
      <*> Schema.optional es "updated_at" Schema.moment now

end Conversation

namespace ConversationStep

/-- The step as a record. -/
def toValue (step : ConversationStep) : Value :=
  .record [("id", .text step.id), ("from_agent_id", .text step.fromAgent),
    ("to_agent_id", .text step.toAgent), ("message_template", .text step.template),
    ("message_type", .text step.type.label), ("parameters", .record step.parameters)]

/-- Reads a step. -/
def read (v : Value) : Checked ConversationStep :=
  match Schema.record v with
  | .failed issues => .failed issues
  | .ok es =>
    let type := Schema.labelled MessageType.ofLabel? .enumeration
    ConversationStep.mk <$> Schema.required es "id" Schema.text
      <*> Schema.required es "from_agent_id" Schema.text
      <*> Schema.optional es "to_agent_id" Schema.text ""
      <*> Schema.optional es "message_template" Schema.text ""
      <*> Schema.optional es "message_type" type .request
      <*> Schema.optional es "parameters" Schema.fields []

end ConversationStep

namespace ConversationWorkflow

/-- The workflow as a record. -/
def toValue (workflow : ConversationWorkflow) : Value :=
  .record [("id", .text workflow.id), ("name", .text workflow.name),
    ("description", .text workflow.description), ("participants", .texts workflow.participants),
    ("steps", .list (workflow.steps.map ConversationStep.toValue))]

/-- Reads a workflow; its id is `id` unless it is given. -/
def read (id : String) (v : Value) : Checked ConversationWorkflow :=
  match Schema.record v with
  | .failed issues => .failed issues
  | .ok es =>
    ConversationWorkflow.mk <$> Schema.optional es "id" Schema.text id
      <*> Schema.optional es "name" Schema.text ""
      <*> Schema.optional es "description" Schema.text ""
      <*> Schema.optional es "participants" (Schema.list Schema.text) []
      <*> Schema.optional es "steps" (Schema.list ConversationStep.read) []

end ConversationWorkflow

namespace ConversationStepResult

/-- The step's outcome as a record. -/
def toValue (step : ConversationStepResult) : Value :=
  .record [("step_id", .text step.stepId), ("message", step.message.toValue),
    ("success", .bool step.success), ("duration_ms", .float step.durationMs)]

/-- Reads a step's outcome. -/
def read (v : Value) : Checked ConversationStepResult :=
  match Schema.record v with
  | .failed issues => .failed issues
  | .ok es =>
    ConversationStepResult.mk <$> Schema.required es "step_id" Schema.text
      <*> Schema.required es "message" Message.read
      <*> Schema.optional es "success" Schema.bool true
      <*> Schema.optional es "duration_ms" Schema.float 0.0

end ConversationStepResult

namespace ConversationWorkflowResult

/-- The outcome as a record. -/
def toValue (result : ConversationWorkflowResult) : Value :=
  .record [("conversation_id", .text result.conversationId), ("success", .bool result.success),
    ("step_results", .list (result.stepResults.map ConversationStepResult.toValue)),
    ("insights", .texts result.insights), ("final_outcome", .text result.finalOutcome),
    ("error", .text result.error), ("duration_ms", .float result.durationMs)]

/-- Reads an outcome. -/
def read (v : Value) : Checked ConversationWorkflowResult :=
  match Schema.record v with
  | .failed issues => .failed issues
  | .ok es =>
    ConversationWorkflowResult.mk <$> Schema.required es "conversation_id" Schema.text
      <*> Schema.optional es "success" Schema.bool true
      <*> Schema.optional es "step_results" (Schema.list ConversationStepResult.read) []
      <*> Schema.optional es "insights" (Schema.list Schema.text) []
      <*> Schema.optional es "final_outcome" Schema.text ""
      <*> Schema.optional es "error" Schema.text ""
      <*> Schema.optional es "duration_ms" Schema.float 0.0

end ConversationWorkflowResult

end Orchestration
