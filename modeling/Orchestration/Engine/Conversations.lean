import Orchestration.Engine.Execution

/-!
# Conversations

Conversations are started among registered agents, take messages while they are active, and are
closed for good. A message that delegates a task starts a worker, which runs apart from its sender:
it carries the task out with the receiver and posts the output to the conversation as a response.
-/

namespace Orchestration.Engine

/-- The logger of conversations. -/
def conversationLogger : String :=
  "agentweave.engine.conversations"

/-! ## Conversations and messages -/

/-- The conversation with the given id, or the fault that there is none. -/
def findConversation (conversations : Table Conversation) (id : String) :
    Except Fault Conversation :=
  match Table.find? conversations id with
  | some conversation => .ok conversation
  | none => .error (.missing .conversation id)

/-- A conversation that is active, or the fault that it is not. -/
def requireActive (conversation : Conversation) (id : String) : Except Fault Unit :=
  if conversation.status = .active then .ok ()
  else .error (.invalidRequest ("conversation is not active: " ++ id ++ " (" ++
    conversation.status.label ++ ")"))

/-- The agent that sends a message. -/
def senderOf (agents : AgentStore) (message : Message) : Except Fault (Ref Agent) :=
  match agents.find? message.fromAgent with
  | some ref => .ok ref
  | none =>
    .error (.missingWith .agent message.fromAgent
      ("sender agent not found: " ++ message.fromAgent))

/-- The agent that receives a message, if it names a registered one. A delegation must. -/
def receiverOf (agents : AgentStore) (message : Message) : Except Fault (Option (Ref Agent)) :=
  if message.toAgent = "" then
    if message.type = .taskDelegation then
      .error (.invalidRequest "task delegation message must specify a receiver agent")
    else .ok none
  else
    match agents.find? message.toAgent with
    | some ref => .ok (some ref)
    | none =>
      if message.type = .taskDelegation then
        .error (.missingWith .agent message.toAgent
          ("receiver agent not found: " ++ message.toAgent))
      else .ok none

/-- A message as it is sent: with an id and a time. -/
def stamped (message : Message) (fresh : String) (now : Moment) : Message :=
  { message with
    id := if message.id = "" then fresh else message.id
    timestamp := some (message.timestamp.getD now) }

/-- The conversation with another message. -/
def appended (conversation : Conversation) (message : Message) (now : Moment) : Conversation :=
  { conversation with messages := conversation.messages ++ [message], updatedAt := now }

/-! ## Delegated tasks -/

/-- The label of a delegated task: the one that the message gives, or the configured one. -/
def delegationLabel (message : Message) (configured : String) : String :=
  match (Table.find? message.context "task_type").bind Value.text? with
  | some "" | none => configured
  | some label => label

/-- What a message says about the model of the task that it delegates. -/
def modelValue (message : Message) : Value :=
  (Table.find? message.context "model_name").getD .null

/-- The model of a delegated task, if the message names one. -/
def delegationModel (message : Message) : Except Fault String :=
  if (modelValue message).truthy then (modelValue message).display else .ok ""

theorem writtenUnless_delegationModel (message : Message) :
    WrittenUnless (modelValue message).overlong (delegationModel message) := by
  unfold delegationModel
  split
  next => exact (modelValue message).writtenUnless_display
  next hempty =>
    rw [eq_false_of_ne_true fun h => hempty (Value.truthy_of_overlong h)]
    exact writtenUnless_ok _

/-- The parameters of a delegated task. -/
def delegationParameters (message : Message) : Value :=
  match Table.find? message.context "task_parameters" with
  | some (.map entries) => .map entries
  | _ => .map []

/-- The task that a message delegates, if its model can be written and its parameters are in order.
-/
def delegatedTask (message : Message) (receiver : Agent) (configured id : String) (now : Moment) :
    Except Fault Task := do
  let modelName ← delegationModel message
  let reading := (Schema.fields (delegationParameters message)).within (.field "parameters")
  return {
    id
    label := delegationLabel message configured
    input := message.content
    agentId := receiver.id
    modelName
    parameters := ← reading.orFault "Task"
    createdAt := now }

/-! ## Operations of callers -/

section

variable {σ τ : Type} [Time τ]

/-- Records that a conversation was started, in the memories of its members and in the journal. -/
def noteStart (conversation : Conversation) (members : List (Ref Agent)) : Run σ τ Unit := do
  members.forM fun member =>
    recordInteraction member "conversation_started" (.text conversation.id)
  log .info conversationLogger ("Started conversation " ++ conversation.id ++ ": " ++
    Decimal.integerText conversation.participants.length ++ " participants, topic=" ++
    Text.quoted conversation.topic)

/-- Starts a conversation among registered agents. -/
def startConversation (participants : List String) (topic : String) (metadata : Fields)
    (context : Option String) : Run σ τ Conversation := do
  check context none
  let members ← lift (participants.mapM (← get).agents.get)
  let id ← freshId
  let time ← now
  let conversation : Conversation :=
    { id, participants, topic, metadata, createdAt := time, updatedAt := time }
  modify fun w => { w with conversations := Table.insert w.conversations id conversation }
  noteStart conversation members
  return conversation

/-- Records in the memory of a participant, if it is still registered, that a conversation is
closed. -/
def recordClosing (id participant : String) : Run σ τ Unit := do
  match (← get).agents.find? participant with
  | some ref => recordInteraction ref "conversation_closed" (.text id)
  | none => return

/-- Records that a conversation was closed, in the memories of its participants and in the journal.
-/
def noteClosing (id : String) (conversation : Conversation) : Run σ τ Unit := do
  conversation.participants.forM (recordClosing id)
  log .info conversationLogger ("Closed conversation " ++ id)

/-- Closes a conversation. Closing it again changes nothing. -/
def closeConversation (id : String) (context : Option String) : Run σ τ Conversation := do
  check context none
  let conversation ← lift (findConversation (← get).conversations id)
  if conversation.status = .closed then
    log .debug conversationLogger ("Conversation " ++ id ++ " already closed")
    return conversation
  else
    let closed := { conversation with status := .closed, updatedAt := ← now }
    modify fun w => { w with conversations := Table.insert w.conversations id closed }
    noteClosing id closed
    return closed

/-- Starts a worker for a message that delegates a task. -/
def delegate (conversationId : String) (message : Message) (receiver : Ref Agent) :
    Run σ τ Unit := do
  let id ← freshId
  let receiving ← agent receiver
  let task ← lift (delegatedTask message receiving (← get).settings.delegationLabel id (← now))
  let ref ← newTask task
  modify fun w => { w with
    workers := w.workers ++ [{ conversationId, message, receiver, task := ref }] }
  log .debug conversationLogger ("Delegated task " ++ id ++ " to agent " ++ receiving.id)

/-- Starts a worker for a message if it delegates a task. -/
def startWorker (conversationId : String) (message : Message) (receiver : Option (Ref Agent)) :
    Run σ τ Unit :=
  match message.type, receiver with
  | .taskDelegation, some receiver => delegate conversationId message receiver
  | _, _ => return

/-- Appends a message to a conversation and records it in the memories of sender and receiver. -/
def post (conversationId : String) (conversation : Conversation) (message : Message)
    (sender : Ref Agent) (receiver : Option (Ref Agent)) : Run σ τ Unit := do
  let conversation := appended conversation message (← now)
  modify fun w => { w with
    conversations := Table.insert w.conversations conversationId conversation }
  recordInteraction sender "message_sent" (.text message.content)
  match receiver with
  | some receiver => recordInteraction receiver "message_received" (.text message.content)
  | none => return

/-- What is logged when a message is sent. -/
def sendingNote (conversationId : String) (message : Message) : String :=
  "Message " ++ message.id ++ " sent in " ++ conversationId ++ ": " ++ message.fromAgent ++
    " -> " ++ (if message.toAgent = "" then "*" else message.toAgent) ++
    " (" ++ message.type.label ++ ")"

/-- Who is concerned when a message is sent. -/
structure Admission where
  conversation : Conversation
  sender : Ref Agent
  /-- The receiver, if the message names a registered one. -/
  receiver : Option (Ref Agent)

/-- Whether a message can be sent. -/
def admissionOf (w : World σ τ) (conversationId : String) (message : Message)
    (context : Option String) : Except Fault Admission := do
  w.surroundings.check context none
  let conversation ← findConversation w.conversations conversationId
  requireActive conversation conversationId
  let sender ← senderOf w.agents message
  let receiver ← receiverOf w.agents message
  return { conversation, sender, receiver }

/-- Posts a message that was admitted. The caller's message gets the id and the time, too. -/
def deliver (conversationId : String) (ref : Ref Message) (admission : Admission) :
    Run σ τ Message := do
  let message := stamped ((← get).messages.get ref) (← freshId) (← now)
  modify fun w => { w with messages := w.messages.set ref message }
  post conversationId admission.conversation message admission.sender admission.receiver
  log .info conversationLogger (sendingNote conversationId message)
  return message

/-- Sends a message in an active conversation. -/
def send (conversationId : String) (ref : Ref Message) (context : Option String) :
    Run σ τ Message := do
  let w ← get
  let admission ← lift (admissionOf w conversationId (w.messages.get ref) context)
  -- Up to here nothing has changed; from here on only the worker of a delegation can fail to start.
  let message ← deliver conversationId ref admission
  startWorker conversationId message admission.receiver
  return message

end

/-! ## Workers -/

section

variable {σ τ : Type} [Time τ] [Backend σ τ]

/-- The message that posts the output of a delegated task. -/
def response (delegation : Delegation) (receiver : Agent) (taskId output : String) : Message where
  fromAgent := receiver.id
  toAgent := delegation.message.fromAgent
  content := output
  type := .response
  context := [("task_id", .text taskId), ("original_message_id", .text delegation.message.id)]

/-- Logs what a fault of the taxonomy has led to. Any other fault is let through. -/
def report (fault : Fault) (message : String) : Run σ τ Unit :=
  if fault.isOrchestration then log .error conversationLogger message else throw fault

/-- Posts the output of a delegated task. -/
def respond (delegation : Delegation) (taskId output : String) : Run σ τ Unit := do
  let message ← newMessage (response delegation (← agent delegation.receiver) taskId output)
  match ← attempt (send delegation.conversationId message none) with
  | .ok _ => return
  | .error fault =>
    report fault ("Failed to post response for delegated task " ++ taskId ++ ": " ++ fault.message)

/-- Carries out a delegated task and posts its output. -/
def carryOut (delegation : Delegation) : Run σ τ Unit := do
  -- The sender has its answer already, so no context of a call can stop the worker.
  let outcome ← attempt (execute delegation.task delegation.receiver none true)
  let task ← task delegation.task
  match outcome with
  | .ok result => respond delegation task.id result.output
  | .error fault =>
    report fault ("Delegated task " ++ task.id ++ " from message " ++ delegation.message.id ++
      " failed: " ++ fault.message)

/-- Carries out a delegated task in the scope of its conversation. -/
def runDelegation (delegation : Delegation) : Run σ τ Unit :=
  within { conversationId := some delegation.conversationId } (carryOut delegation)

/-- The name of the thread of a delegation. -/
def delegationThread (taskId : String) : String :=
  "agentweave-delegation-" ++ String.ofList (taskId.toList.take 8)

/-- Runs a worker to its end. A fault that it lets through ends its own thread and nothing else. -/
def runWorkerOf (delegation : Delegation) : Run σ τ Unit := do
  let name := delegationThread (← task delegation.task).id
  let _ ← inThread name (attempt (runDelegation delegation))

/-- Runs the worker at a position of the queue to its end. -/
def runQueued (position : Nat) : Run σ τ Unit := do
  let w ← get
  match w.workers[position]? with
  | none => return
  | some delegation =>
    set { w with workers := w.workers.eraseIdx position }
    runWorkerOf delegation

/-- Runs all workers that are in the queue, in the order in which they were started. Workers start
no others. -/
def drain : Run σ τ Unit := do
  -- The queue is emptied first: a worker that ran to its end is never run again.
  let workers := (← get).workers
  modify fun w => { w with workers := [] }
  workers.forM runWorkerOf

end

end Orchestration.Engine
