import Orchestration.Conversation.Overview
import Orchestration.Engine.Conversations
import Orchestration.Engine.Workflow

/-!
# Conversation workflows and queries

A conversation workflow starts one conversation and sends a message for each of its steps, in order.
What a step has sent is known to the templates of the later ones under the position of the step and
under its name, unless their own parameters have the same names. The first message that cannot be
sent ends the workflow; those before it stay in the conversation.
-/

namespace Orchestration.Engine

/-- The content that a step sends, when earlier steps have sent the given contents. -/
def stepContent (contents : Fields) (step : ConversationStep) : Except Fault String :=
  Template.render (Table.merge contents step.parameters) step.template

/-- The message of a step with the given content. -/
def stepMessage (step : ConversationStep) (content : String) : Message where
  fromAgent := step.fromAgent
  toAgent := step.toAgent
  content := content
  type := step.type
  context := step.parameters

/-- What is said of a step that has sent its message. -/
def insight (position : Nat) (step : ConversationStep) : String :=
  "Step " ++ Decimal.integerText position ++ ": " ++ step.fromAgent ++ " -> " ++
    (if step.toAgent = "" then "all" else step.toAgent) ++ " completed successfully"

/-- The outcome of a workflow whose step at a position, counted from one, could not send its
message. -/
def stoppedAt (conversationId : String) (position : Nat) (step : ConversationStep) (fault : Fault) :
    ConversationWorkflowResult where
  conversationId := conversationId
  success := false
  error := "Step " ++ stepLabel position step.id ++ " failed: " ++ fault.message

/-- The outcome with another step before those that it lists. -/
def preceded (result : ConversationWorkflowResult) (position : Nat) (step : ConversationStep)
    (sent : Message) (durationMs : Float) : ConversationWorkflowResult :=
  { result with
    stepResults := { stepId := step.id, message := sent, durationMs } :: result.stepResults
    insights := insight position step :: result.insights }

/-- What a workflow with so many steps has come to. -/
def finalOutcome (result : ConversationWorkflowResult) (steps : Nat) : String :=
  "Conversation workflow completed " ++ Decimal.integerText result.stepResults.length ++ " of " ++
    Decimal.integerText steps ++ " steps"

variable {σ τ : Type} [Time τ]

/-- The milliseconds since a reading of the monotonic clock. -/
def millisSince (start : τ) : Run σ τ Float := do
  return Time.millis (Time.minus (← reading) start)

/-- Sends the messages of the steps from the given position on, up to the first one that cannot be
sent. Only a fault of the taxonomy is part of the outcome. -/
def sendSteps (workflowId conversationId : String) (context : Option String) :
    (position : Nat) → (contents : Fields) → List ConversationStep →
      Run σ τ ConversationWorkflowResult
  | _, _, [] => return { conversationId }
  | position, contents, step :: rest => do
    let start ← reading
    -- A template that cannot be filled in ends the run with a fault, not with an outcome.
    let content ← lift (stepContent contents step)
    let message ← newMessage (stepMessage step content)
    match ← attempt (send conversationId message context) with
    | .error fault =>
      if fault.isOrchestration then
        let result := stoppedAt conversationId position step fault
        log .warning conversationLogger
          ("Conversation workflow " ++ workflowId ++ " aborted: " ++ result.error)
        return result
      else throw fault
    | .ok sent =>
      let durationMs ← millisSince start
      let contents := publish contents position step.id sent.content
      let later ← sendSteps workflowId conversationId context (position + 1) contents rest
      return preceded later position step sent durationMs

/-- The topic of the conversation of a workflow. -/
def topicOf (workflow : ConversationWorkflow) : String :=
  if workflow.description = "" then workflow.name else workflow.description

/-- Runs a conversation workflow. -/
def runConversationWorkflow (workflow : ConversationWorkflow) (context : Option String) :
    Run σ τ ConversationWorkflowResult := do
  let conversation ← startConversation workflow.participants (topicOf workflow)
    [("workflow_id", .text workflow.id)] context
  let start ← reading
  let result ← sendSteps workflow.id conversation.id context 1 [] workflow.steps
  let durationMs ← millisSince start
  log .info conversationLogger ("Conversation workflow " ++ workflow.id ++ " finished: success=" ++
    boolText result.success ++ ", " ++ Decimal.integerText result.stepResults.length ++ " steps")
  return { result with durationMs, finalOutcome := finalOutcome result workflow.steps.length }

/-- A conversation as it is now. -/
def getConversation (id : String) (context : Option String) : Run σ τ Conversation := do
  check context none
  lift (findConversation (← get).conversations id)

/-- The conversations of an agent, oldest first. -/
def listConversations (agentId : String) (context : Option String) :
    Run σ τ (List Conversation) := do
  check context none
  return Conversation.ofParticipant (← get).conversations.values agentId

/-- The figures over all conversations. -/
def conversationMetrics {δ : Type} [Duration δ] : Run σ τ (ConversationMetrics δ) := do
  return .ofConversations (← get).conversations.values

end Orchestration.Engine
