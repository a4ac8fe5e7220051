import Orchestration.Chat
import Orchestration.Capability
import Orchestration.Conversation
import Orchestration.Statistics
import Orchestration.SystemStatus
import Orchestration.Workflow

/-!
# Inspection of records

Reads data as a record that is given by name, and gives the record back in full, with the figures
that are derived from it.
-/

namespace Orchestration

namespace Inspection

/-- Reads data as a record and gives it back. -/
def plain {α : Type} (read : Value → Checked α) (toValue : α → Value) (v : Value) :
    Checked Value :=
  (fun a => Value.record [("value", toValue a)]) <$> read v

/-- Reads data as a record and gives it back with a figure that is derived from it. -/
def derived {α : Type} (read : Value → Checked α) (toValue : α → Value) (name : String)
    (figure : α → Value) (v : Value) : Checked Value :=
  (fun a => Value.record [("value", toValue a), (name, figure a)]) <$> read v

/-- The readers of the records of conversations and workflows. -/
def correspondence (id : String) (now : Moment) : Table (Value → Checked Value) :=
  [("WorkflowStep", plain WorkflowStep.read WorkflowStep.toValue),
    ("WorkflowStepResult", plain WorkflowStepResult.read WorkflowStepResult.toValue),
    ("WorkflowResult", plain WorkflowResult.read WorkflowResult.toValue),
    ("Message", plain Message.read Message.toValue),
    ("Conversation", plain (Conversation.read id now) Conversation.toValue),
    ("ConversationStep", plain ConversationStep.read ConversationStep.toValue),
    ("ConversationWorkflow", plain (ConversationWorkflow.read id) ConversationWorkflow.toValue),
    ("ConversationStepResult",
      plain ConversationStepResult.read ConversationStepResult.toValue),
    ("ConversationWorkflowResult",
      plain ConversationWorkflowResult.read ConversationWorkflowResult.toValue),
    ("ChatMessage", plain ChatMessage.read ChatMessage.toValue),
    ("StreamChunk", plain StreamChunk.read StreamChunk.toValue)]

/-- The readers of the records of agents and their tasks. -/
def work (ids : Nat → String) (now : Moment) : Table (Value → Checked Value) :=
  [("Agent", derived (Agent.read now) Agent.toValue "default_model" (.text ·.defaultModel)),
    ("AgentState", plain (AgentState.read now) AgentState.toValue),
    ("ContextItem", plain (ContextItem.read now) ContextItem.toValue),
    ("ToolCall", plain ToolCall.read ToolCall.toValue),
    ("ToolResult", plain ToolResult.read ToolResult.toValue),
    ("Task", derived (Task.read (ids 0) now) Task.toValue "kind" (.text ·.kind.label)),
    ("TaskMetrics", plain TaskMetrics.read TaskMetrics.toValue),
    ("TaskResult", plain TaskResult.read TaskResult.toValue),
    ("TaskRequest", plain TaskRequest.read TaskRequest.toValue),
    ("OrchestrationRequest", plain OrchestrationRequest.read OrchestrationRequest.toValue),
    ("OrchestrationResponse",
      plain (OrchestrationResponse.read ids now) OrchestrationResponse.toValue),
    ("SystemStatus", plain (SystemStatus.read now) SystemStatus.toValue),
    ("AgentTaskStats",
      derived AgentTaskStats.read AgentTaskStats.toValue "failure_rate" (.float ·.failureRate))]

end Inspection

/-- Reads data as the record with the given name, with the given ids for those that are missing. -/
def inspect (ids : Nat → String) (now : Moment) (name : String) (v : Value) : Except Fault Value :=
  match Table.find? (Inspection.work ids now ++ Inspection.correspondence (ids 0) now) name with
  | some read => (read v).orFault name
  | none => .error (Fault.unknownKey name)

end Orchestration
