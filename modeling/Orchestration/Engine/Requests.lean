import Orchestration.Engine.Batch
import Orchestration.Routing
import Orchestration.Statistics

/-!
# Requests for work

Callers have single tasks and batches carried out by a registered agent. A batch request lists tasks
and the parameters that each of them has unless it brings its own. A routed request leaves the
choice of the model to the routing rules. What was carried out can be looked up, listed and summed
up.
-/

namespace Orchestration

/-- The parameters of a task in a batch request: its own, and those of the request. -/
def OrchestrationRequest.parametersOf (request : OrchestrationRequest) (task : TaskRequest) :
    Fields :=
  Table.merge request.parameters task.parameters

/-- The task for an entry of a batch request. -/
def OrchestrationRequest.taskFor (request : OrchestrationRequest) (entry : TaskRequest)
    (id agentId : String) (now : Moment) : Task where
  id := id
  label := entry.label
  input := entry.input
  agentId := agentId
  modelName := entry.modelName
  parameters := request.parametersOf entry
  createdAt := now

namespace Engine

/-- The logger of requests. -/
def requestLogger : String :=
  "agentweave.engine.orchestrator"

/-- What is logged of a request for a batch. -/
def requestNote (response : OrchestrationResponse) (batch : BatchResult) : String :=
  "Orchestration " ++ response.id ++ " for agent " ++ response.agentId ++ ": " ++
    response.status ++ " (" ++ ratio batch.completed.length response.tasks.length ++
    " tasks completed)"

/-- The label of a task, if the value is one. -/
def labelOf (type : Value) : Except Fault String :=
  ((Schema.text type).within (.field "type")).orFault "Task"

/-- The kind that a value names; what names none is custom work. -/
def kindOf (type : Value) : TaskKind :=
  TaskKind.parse (type.text?.getD "")

/-- What is logged of the choice of a model, if the kind of the task can be written. -/
def routingNote (agentId model : String) (type : Value) : Except Fault String := do
  return "Routed " ++ (← type.display) ++ " task for agent " ++ agentId ++ " to model " ++
    Text.quoted model

variable {σ τ : Type} [Time τ]

/-- Logs the choice of a model. A note that cannot be written is passed over. -/
def logRouting (note : Except Fault String) : Run σ τ Unit :=
  match note with
  | .ok message => log .debug requestLogger message
  | .error _ => return

/-- The task that was carried out under an id. -/
def getTask (id : String) (context : Option String) : Run σ τ Task := do
  check context none
  lift ((← get).tasks.get id)

/-- The tasks that were carried out, or those of one agent, oldest first. -/
def listTasks (agentId context : Option String) : Run σ τ (List Task) := do
  check context none
  lift ((← get).tasks.list agentId)

/-- The figures of all agents whose tasks were carried out. -/
def taskStats {δ : Type} [Duration δ] (context : Option String) :
    Run σ τ (Table (AgentTaskStats δ)) := do
  check context none
  lift (AgentTaskStats.aggregate (← lift ((← get).tasks.list none)))

/-- Makes the tasks of a batch request for an agent. -/
def requestTasks (request : OrchestrationRequest) (agentId : String) : Run σ τ (List (Ref Task)) :=
  request.tasks.mapM fun entry => do
    newTask (request.taskFor entry (← freshId) agentId (← now))

variable [Backend σ τ]

/-- Carries out a task with a registered agent. -/
def executeTask (agentId : String) (task : Ref Task) (context : Option String) :
    Run σ τ TaskResult := do
  execute task (← lift ((← get).agents.get agentId)) context true

/-- Carries out several tasks with a registered agent. -/
def executeTasks (agentId : String) (tasks : List (Ref Task)) (sequential : Bool)
    (context : Option String) : Run σ τ BatchResult := do
  runBatch tasks (← lift ((← get).agents.get agentId)) sequential context

/-- Answers a batch request. -/
def orchestrate (request : OrchestrationRequest) (context : Option String) :
    Run σ τ OrchestrationResponse := do
  let ref ← lift ((← get).agents.get request.agentId)
  let tasks ← requestTasks request (← agent ref).id
  let batch ← runBatch tasks ref request.sequential context
  let response : OrchestrationResponse := {
    id := ← freshId
    agentId := (← agent ref).id
    status := if batch.success then "completed" else "failed"
    tasks := tasks.map (← get).tasks.task
    results := batch.results
    error := (batch.error.map Fault.message).getD ""
    createdAt := ← now }
  log .info requestLogger (requestNote response batch)
  return response

/-- Carries out one task with the model that the routing rules choose. -/
def smartRoute (agentId text : String) (type : Value) (context : Option String) :
    Run σ τ TaskResult := do
  let ref ← lift ((← get).agents.get agentId)
  let target ← agent ref
  let model := Routing.selectModel target (kindOf type) text
  logRouting (routingNote agentId model type)
  let label ← lift (labelOf type)
  let id ← freshId
  let task ← newTask {
    id
    label
    input := text
    agentId := target.id
    modelName := model
    createdAt := ← now }
  execute task ref context true

end Engine

end Orchestration
