import Orchestration.Decimal.Fixed
import Orchestration.Engine.World
import Orchestration.Reflection

/-!
# Carrying out a task

A task is carried out by an agent, according to its kind. It is running while it is carried out;
then it is completed and has an output, or it has failed and has an error. Each way to carry out a
task fails in its own words, and all faults are brought into the taxonomy of orchestration before
they are passed on.

Only tasks that used a capability, looked back, or asked for custom work are recorded in the memory
of the agent, and only when they succeed. One of them can still fail after that: if what a
capability has given cannot be written, its use stays on record.
-/

namespace Orchestration.Engine

/-- The logger of the executor. -/
def executorLogger : String :=
  "agentweave.engine.executor"

/-! ## Faults of a task -/

/-- The fault that a failed task is reported with: a fault of the taxonomy as it is, with the task's
id if it can have one, and anything else as a failure of the task. -/
def taskFault (task : Task) (fault : Fault) : Fault :=
  if fault.isOrchestration then fault.withTask task.id
  else .execution .work (task.label ++ " task failed: " ++ fault.message) (some task.id)

/-! ## What a task asks the backend for -/

/-- The model that a task is carried out with: its own, or the first one of the agent. -/
def modelFor (task : Task) (agent : Agent) : Except Fault String :=
  let model := if task.modelName = "" then agent.defaultModel else task.modelName
  if model = "" then .error (.noModel task.label) else .ok model

/-- The options of an inference call. -/
def optionsOf (task : Task) : Option Options :=
  match task.parameter "options" with
  | .map entries => some entries
  | _ => none

/-- A fault of the backend that does not belong to the taxonomy, as a fault of inference. -/
def inferenceFault (task : Task) (operation model : String) (fault : Fault) : Fault :=
  if fault.isOrchestration then fault
  else .execution .inference (operation ++ " call failed for model " ++ Text.quoted model ++ ": " ++
    fault.message) (some task.id)

/-! ## Replies of the backend -/

/-- The token counts of the last chunk that is marked as done. -/
def tokenMetrics (chunks : List StreamChunk) : TaskMetrics :=
  match chunks.reverse.find? (·.done) with
  | none => {}
  | some last =>
    { inputTokens := last.inputTokens
      outputTokens := last.outputTokens
      tokensUsed :=
        if last.inputTokens.isSome || last.outputTokens.isSome then
          some (last.inputTokens.getD 0 + last.outputTokens.getD 0)
        else none }

/-- The text of all chunks. -/
def chunkText (chunks : List StreamChunk) : String :=
  String.join (chunks.map (·.content))

/-- The result of a streamed reply. -/
def collect (task : Task) (model operation : String) (delivery : Delivery) :
    Except Fault TaskResult :=
  match delivery.fault with
  | some fault => .error (inferenceFault task operation model fault)
  | none =>
    let output := chunkText delivery.chunks
    if output = "" then
      .error (.execution .inference (operation ++ " call for model " ++ Text.quoted model ++
        " produced no output") (some task.id))
    else
      .ok { taskId := task.id, output, modelUsed := model, metrics := tokenMetrics delivery.chunks }

/-- The result of a call for a stream. -/
def collectReply (task : Task) (model operation : String) : StreamReply → Except Fault TaskResult
  | .refused fault => .error fault
  | .delivered delivery => collect task model operation delivery

/-! ## Chats and embeddings -/

/-- The turns of a chat that a task gives. Each of them must be a turn. -/
def historyTurns (turns : Value) : Except Fault (List ChatMessage) :=
  if turns.truthy then
    match turns with
    | .list turns => turns.mapM fun turn =>
      match ChatMessage.read turn with
      | .ok turn => .ok turn
      | .failed issues =>
        .error (.invalidRequest ("invalid chat history: " ++
          (Fault.schema "ChatMessage" issues).message))
    | _ => .error (.invalidRequest "chat task parameter 'messages' must be a list")
  else .ok []

/-- The turn with which the system opens a chat, if the task gives one. -/
def systemTurn (task : Task) : List ChatMessage :=
  match (task.parameter "system").text? with
  | some "" | none => []
  | some text => [⟨.system, text⟩]

/-- The turns of a chat: the system, the history, and the input of the task. -/
def chatTurns (task : Task) : Except Fault (List ChatMessage) := do
  let history ← historyTurns (task.parameter "messages")
  return systemTurn task ++ history ++ [⟨.user, task.input⟩]

/-- The number of items of a value that has items. -/
def lengthOf (v : Value) : Except Fault Nat :=
  match v with
  | .list items => .ok items.length
  | .text s => .ok s.length
  | .map entries => .ok entries.length
  | v => .error (.wrongType ("object of type '" ++ v.typeName ++ "' has no len()"))

/-- The items of a value that has items, as a list. -/
def asList (v : Value) : Value :=
  match v with
  | .text s => .list (s.toList.map fun c => .text (String.ofList [c]))
  | .map entries => .list (entries.map fun (k, _) => k.toValue)
  | v => v

/-- The result of a call for an embedding. -/
def embeddingResult (task : Task) (model : String) (vector : Value) : Except Fault TaskResult := do
  let dimension ← lengthOf vector
  let reading := (Schema.list Schema.float (asList vector)).within (.field "embedding")
  let embedding ← reading.orFault "TaskResult"
  return {
    taskId := task.id
    output := "Embedding generated with dimension " ++ Decimal.integerText dimension
    modelUsed := model
    embedding := some embedding }

/-! ## Tools and plugins -/

/-- The tool call that a task asks for. -/
def toolCallOf (v : Value) : Except Fault ToolCall :=
  match v with
  | .toolCall name parameters => .ok { name, parameters }
  | .map entries =>
    let name := ((Value.entry? entries "name").bind Value.text?).getD ""
    let parameters := match Value.entry? entries "parameters" with
      | some (.map parameters) => .map parameters
      | _ => .map []
    let call := ToolCall.read (.record [("name", .text name), ("parameters", parameters)])
    call.orFault "ToolCall"
  | _ => .ok {}

/-- The fault of a tool that could not do its work. -/
def toolFault (task : Task) (name reason : String) : Fault :=
  .execution .capability ("tool call failed: " ++ name ++ ": " ++ reason) (some task.id)

/-- What a tool has given, or the fault that it failed. -/
def toolOutput (task : Task) (name : String) (outcome : Except Fault ToolResult) :
    Except Fault Value :=
  match outcome with
  | .error fault => .error (toolFault task name fault.message)
  | .ok result =>
    if result.success then .ok result.output
    else
      .error (toolFault task name
        (match result.error with
          | some "" | none => "unknown error"
          | some error => error))

/-- The result of a task whose capability has given an output. There is none if the output cannot be
written. -/
def usageResult (task : Task) (words : String) (output : Value) : Except Fault TaskResult := do
  return { taskId := task.id, output := words ++ (← output.display) }

theorem writtenUnless_usageResult (task : Task) (words : String) (output : Value) :
    WrittenUnless output.overlong (usageResult task words output) :=
  output.writtenUnless_display.map _

/-- The name of the plugin that a task asks for. -/
def pluginName (task : Task) : String :=
  (task.parameter "plugin_name").text?.getD ""

/-- What a custom task is answered with. -/
def acknowledgement (task : Task) (agent : Agent) : String :=
  "Custom task '" ++ task.label ++ "' acknowledged by " ++ agent.type.label ++ " agent '" ++
    agent.title ++ "'" ++
    (if agent.type = .reflective then " (with self-reflection capabilities)" else "")

/-! ## The kinds of work -/

section

variable {σ τ : Type} [Time τ] [Backend σ τ]

/-- Carries out a task that asks for a text. -/
def runGenerate (task : Task) (agent : Agent) (context : Option String) : Run σ τ TaskResult := do
  let model ← lift (modelFor task agent)
  let options := optionsOf task
  let reply ← ask (.generate model task.input options) fun backend s =>
    Backend.generate backend s context model task.input options
  lift (collectReply task model "generate" reply)

/-- Carries out a task that asks for a reply in a chat. -/
def runChat (task : Task) (agent : Agent) (context : Option String) : Run σ τ TaskResult := do
  let model ← lift (modelFor task agent)
  let turns ← lift (chatTurns task)
  let options := optionsOf task
  let reply ← ask (.chat model turns options) fun backend s =>
    Backend.chat backend s context model turns options
  lift (collectReply task model "chat" reply)

/-- Carries out a task that asks for an embedding. -/
def runEmbed (task : Task) (agent : Agent) (context : Option String) : Run σ τ TaskResult := do
  let model ← lift (modelFor task agent)
  let vector ← ask (.embed model task.input) fun backend s =>
    Backend.embed backend s context model task.input
  match vector with
  | .error fault => throw (inferenceFault task "embed" model fault)
  | .ok vector => lift (embeddingResult task model vector)

/-- Ends the use of a capability: it is recorded in the memory of the agent, and what it has given
is put into words. -/
def concludeUse (task : Task) (ref : Ref Agent) (key name words : String) (output : Value) :
    Run σ τ TaskResult := do
  -- The use is on record before it is known whether the output can be written.
  recordInteraction ref key (.text name)
  lift (usageResult task words output)

/-- Carries out a task that asks for a tool. -/
def runTool (task : Task) (ref : Ref Agent) : Run σ τ TaskResult := do
  let call ← lift (toolCallOf (task.parameter "tool"))
  match (← get).registry.tool? call.name with
  | none =>
    log .warning executorLogger
      ("Tool " ++ Text.quoted call.name ++ " not available for task " ++ task.id)
    return { taskId := task.id, output := "Tool '" ++ call.name ++ "' not available" }
  | some tool =>
    let outcome := tool.call (← occasion) call.parameters
    -- The call is noted whatever came of it.
    noteCall (.tool call.name call.parameters)
    let output ← lift (toolOutput task call.name outcome)
    concludeUse task ref "tool_use" call.name
      ("Tool '" ++ call.name ++ "' executed successfully: ") output

/-- Carries out a task that asks for a plugin. -/
def runPlugin (task : Task) (ref : Ref Agent) : Run σ τ TaskResult := do
  let name := pluginName task
  match (← get).registry.plugin? name with
  | none =>
    log .warning executorLogger
      ("Plugin " ++ Text.quoted name ++ " not available for task " ++ task.id)
    return { taskId := task.id, output := "Plugin '" ++ name ++ "' not available" }
  | some plugin =>
    let outcome := plugin.execute (← occasion) task.input task.parameters
    noteCall (.plugin name task.input task.parameters)
    match outcome with
    | .error fault =>
      throw (.execution .capability ("plugin execution failed: " ++ name ++ ": " ++ fault.message)
        (some task.id))
    | .ok value =>
      concludeUse task ref "plugin_use" name ("Plugin '" ++ name ++ "' result: ") value

/-- Carries out a task that asks to look back. -/
def runReflect (task : Task) (ref : Ref Agent) (agent : Agent) : Run σ τ TaskResult := do
  let reflection := agent.reflection task.input
  recordInteraction ref "reflection" (.text reflection)
  return { taskId := task.id, output := reflection }

/-- Carries out a task that asks for custom work. -/
def runCustom (task : Task) (ref : Ref Agent) (agent : Agent) : Run σ τ TaskResult := do
  recordInteraction ref "custom_task" (.text task.input)
  return { taskId := task.id, output := acknowledgement task agent }

/-- Carries out a task according to its kind. -/
def dispatch (task : Task) (ref : Ref Agent) (context : Option String) : Run σ τ TaskResult := do
  let agent ← agent ref
  match task.kind with
  | .generate => runGenerate task agent context
  | .chat => runChat task agent context
  | .embed => runEmbed task agent context
  | .tool => runTool task ref
  | .reflect => runReflect task ref agent
  | .plugin => runPlugin task ref
  | .custom => runCustom task ref agent

/-- Carries out a task unless its context says stop. -/
def perform (task : Task) (ref : Ref Agent) (context : Option String) : Run σ τ TaskResult := do
  check context (some task.id)
  dispatch task ref context

end

/-! ## The life of a task -/

/-- The result with the time that the task took, unless it tells the time itself. -/
def timed (result : TaskResult) (millis : Float) : TaskResult :=
  { result with
    metrics := { result.metrics with
      durationMs := some (result.metrics.durationMs.getD millis) } }

/-- What is logged when a task is complete. -/
def completionNote (task : Task) (result : TaskResult) : String :=
  "Task " ++ task.id ++ " completed: type=" ++ task.label ++ ", model=" ++
    (if result.modelUsed = "" then "-" else result.modelUsed) ++ ", " ++
    Decimal.fixedText (result.metrics.durationMs.getD 0.0) 1 ++ "ms"

section

variable {σ τ : Type} [Time τ] [Backend σ τ]

/-- Ends a task that has failed. -/
def fail (ref : Ref Task) (fault : Fault) : Run σ τ TaskResult := do
  let task ← task ref
  let fault := taskFault task fault
  changeTask ref (Task.afterFailure fault)
  log .error executorLogger
    ("Task " ++ task.id ++ " (" ++ task.label ++ ") failed: " ++ fault.message)
  throw fault

/-- Ends a task that has a result. -/
def complete (ref : Ref Task) (start : τ) (result : TaskResult) : Run σ τ TaskResult := do
  let result := timed result (Time.millis (Time.minus (← reading) start))
  changeTask ref (Task.afterCompletion (← now) result.output)
  log .info executorLogger (completionNote (← task ref) result)
  return result

/-- Ends a task according to what came of the work on it. -/
def settle (ref : Ref Task) (start : τ) (outcome : Except Fault TaskResult) : Run σ τ TaskResult :=
  match outcome with
  | .error fault => fail ref fault
  | .ok result => complete ref start result

/-- Gives a task to an agent, unless it belongs to one, and records it if it is tracked. -/
def assign (ref : Ref Task) (agent : Agent) (tracked : Bool) : Run σ τ Unit := do
  changeTask ref (Task.assignedTo agent.id)
  if tracked then modify fun w => { w with tasks := w.tasks.put ref }

/-- The scope in which a task is carried out. -/
def taskScope (agent : Agent) (task : Task) : Log.Scope where
  agentId := if agent.id = "" then none else some agent.id
  taskId := some task.id

/-- Carries out a task with an agent. A tracked task is kept in the store of tasks. -/
def execute (ref : Ref Task) (agentRef : Ref Agent) (context : Option String) (tracked : Bool) :
    Run σ τ TaskResult := do
  let agent ← agent agentRef
  assign ref agent tracked
  within (taskScope agent (← task ref)) do
    let start ← reading
    changeTask ref Task.afterStart
    -- Whatever goes wrong from here on ends the task as failed.
    let outcome ← attempt (perform (← task ref) agentRef context)
    settle ref start outcome

end

end Orchestration.Engine
