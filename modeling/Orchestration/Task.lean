import Orchestration.Agent

/-!
# Tasks

A task is one unit of work that is asked of an agent. It keeps the label of its kind as it was
given. The outcome of a task that was carried out is a result with its metrics.
-/

namespace Orchestration

/-- The stages of a task. -/
inductive TaskStatus where
  | pending
  | running
  | completed
  | failed
deriving DecidableEq, Repr, Inhabited

namespace TaskStatus

/-- The label of a stage. -/
def label : TaskStatus → String
  | .pending => "pending"
  | .running => "running"
  | .completed => "completed"
  | .failed => "failed"

/-- The stage with the given label. -/
def ofLabel? (label : String) : Option TaskStatus :=
  [pending, running, completed, failed].find? (·.label = label)

end TaskStatus

/-- One unit of work. -/
structure Task where
  id : String
  /-- The label of the kind of work, as it was given. -/
  label : String := "custom"
  input : String := ""
  output : String := ""
  status : TaskStatus := .pending
  /-- The agent that the task belongs to; empty as long as it has none. -/
  agentId : String := ""
  /-- The model that the task asks for; empty if it asks for none. -/
  modelName : String := ""
  parameters : Fields := []
  createdAt : Moment
  completedAt : Option Moment := none
  error : String := ""
deriving Inhabited

/-- The kind of work that a task asks for. -/
def Task.kind (task : Task) : TaskKind :=
  TaskKind.parse task.label

/-- The parameter with the given name; absent parameters count as null. -/
def Task.parameter (task : Task) (name : String) : Value :=
  (Table.find? task.parameters name).getD .null

/-- What carrying out a task has cost. -/
structure TaskMetrics where
  durationMs : Option Float := none
  tokensUsed : Option Int := none
  inputTokens : Option Int := none
  outputTokens : Option Int := none

/-- The outcome of a task that was carried out. -/
structure TaskResult where
  taskId : String
  output : String := ""
  modelUsed : String := ""
  metrics : TaskMetrics := {}
  embedding : Option (List Float) := none

/-- A task that a batch request asks for. -/
structure TaskRequest where
  label : String := "generate"
  input : String := ""
  modelName : String := ""
  parameters : Fields := []

/-- A request to carry out several tasks with one agent. -/
structure OrchestrationRequest where
  agentId : String
  tasks : List TaskRequest := []
  sequential : Bool := false
  /-- The parameters that a task has unless it brings its own. -/
  parameters : Fields := []

/-- The answer to a request to carry out several tasks. -/
structure OrchestrationResponse where
  id : String
  agentId : String
  status : String := "completed"
  tasks : List Task := []
  results : List (Option TaskResult) := []
  error : String := ""
  createdAt : Moment

/-- An integer, or nothing. -/
def Value.ofInt? (n : Option Int) : Value :=
  (n.map Value.int).getD .null

namespace Task

/-- The task as a record. -/
def toValue (task : Task) : Value :=
  .record [("id", .text task.id), ("type", .text task.label), ("input", .text task.input),
    ("output", .text task.output), ("status", .text task.status.label),
    ("agent_id", .text task.agentId), ("model_name", .text task.modelName),
    ("parameters", .record task.parameters), ("created_at", task.createdAt.toValue),
    ("completed_at", Moment.toValue? task.completedAt), ("error", .text task.error)]

/-- Reads a task; its id is `id` and it was created now, unless that is given. -/
def read (id : String) (now : Moment) (v : Value) : Checked Task :=
  match Schema.record v with
  | .failed issues => .failed issues
  | .ok es =>
    Task.mk <$> Schema.optional es "id" Schema.text id
      <*> Schema.optional es "type" Schema.text "custom"
      <*> Schema.optional es "input" Schema.text ""
      <*> Schema.optional es "output" Schema.text ""
      <*> Schema.optional es "status" (Schema.labelled TaskStatus.ofLabel? .enumeration) .pending
      <*> Schema.optional es "agent_id" Schema.text ""
      <*> Schema.optional es "model_name" Schema.text ""
      <*> Schema.optional es "parameters" Schema.fields []
      <*> Schema.optional es "created_at" Schema.moment now
      <*> Schema.optional es "completed_at" (Schema.nullable Schema.moment) none
      <*> Schema.optional es "error" Schema.text ""

end Task

namespace TaskMetrics

/-- The metrics as a record. -/
def toValue (metrics : TaskMetrics) : Value :=
  .record [("duration_ms", (metrics.durationMs.map Value.float).getD .null),
    ("tokens_used", .ofInt? metrics.tokensUsed), ("input_tokens", .ofInt? metrics.inputTokens),
    ("output_tokens", .ofInt? metrics.outputTokens)]

/-- Reads metrics. -/
def read (v : Value) : Checked TaskMetrics :=
  match Schema.record v with
  | .failed issues => .failed issues
  | .ok es =>
    TaskMetrics.mk <$> Schema.optional es "duration_ms" (Schema.nullable Schema.float) none
      <*> Schema.optional es "tokens_used" (Schema.nullable Schema.int) none
      <*> Schema.optional es "input_tokens" (Schema.nullable Schema.int) none
      <*> Schema.optional es "output_tokens" (Schema.nullable Schema.int) none

end TaskMetrics

namespace TaskResult

/-- The result as a record. -/
def toValue (result : TaskResult) : Value :=
  .record [("task_id", .text result.taskId), ("output", .text result.output),
    ("model_used", .text result.modelUsed), ("metrics", result.metrics.toValue),
    ("embedding", (result.embedding.map fun vector => .list (vector.map Value.float)).getD .null)]

/-- Reads a result. -/
def read (v : Value) : Checked TaskResult :=
  match Schema.record v with
  | .failed issues => .failed issues
  | .ok es =>
    TaskResult.mk <$> Schema.required es "task_id" Schema.text
      <*> Schema.optional es "output" Schema.text ""
      <*> Schema.optional es "model_used" Schema.text ""
      <*> Schema.optional es "metrics" TaskMetrics.read {}
      <*> Schema.optional es "embedding" (Schema.nullable (Schema.list Schema.float)) none

end TaskResult

namespace TaskRequest

/-- The request as a record. -/
def toValue (request : TaskRequest) : Value :=
  .record [("type", .text request.label), ("input", .text request.input),
    ("model_name", .text request.modelName), ("parameters", .record request.parameters)]

/-- Reads a request. -/
def read (v : Value) : Checked TaskRequest :=
  match Schema.record v with
  | .failed issues => .failed issues
  | .ok es =>
    TaskRequest.mk <$> Schema.optional es "type" Schema.text "generate"
      <*> Schema.optional es "input" Schema.text ""
      <*> Schema.optional es "model_name" Schema.text ""
      <*> Schema.optional es "parameters" Schema.fields []

end TaskRequest

namespace OrchestrationRequest

/-- The request as a record. -/
def toValue (request : OrchestrationRequest) : Value :=
  .record [("agent_id", .text request.agentId),
    ("tasks", .list (request.tasks.map TaskRequest.toValue)),
    ("sequential", .bool request.sequential), ("parameters", .record request.parameters)]

/-- Reads a request. -/
def read (v : Value) : Checked OrchestrationRequest :=
  match Schema.record v with
  | .failed issues => .failed issues
  | .ok es =>
    OrchestrationRequest.mk <$> Schema.required es "agent_id" Schema.text
      <*> Schema.optional es "tasks" (Schema.list TaskRequest.read) []
      <*> Schema.optional es "sequential" Schema.bool false
      <*> Schema.optional es "parameters" Schema.fields []

end OrchestrationRequest

/-- The items of a list, each read with an id of its own. -/
def Schema.itemsWithIds {α : Type} (ids : Nat → String) (read : String → Value → Checked α)
    (v : Value) : Checked (List α) :=
  let rec go (position : Nat) : List Value → Checked (List α)
    | [] => .ok []
    | v :: rest =>
      List.cons <$> (read (ids position) v).within (.index position) <*> go (position + 1) rest
  match v with
  | .list vs => go 0 vs
  | _ => Checked.defect .listType

namespace OrchestrationResponse

/-- The response as a record. -/
def toValue (response : OrchestrationResponse) : Value :=
  .record [("id", .text response.id), ("agent_id", .text response.agentId),
    ("status", .text response.status), ("tasks", .list (response.tasks.map Task.toValue)),
    ("results", .list (response.results.map fun r => (r.map TaskResult.toValue).getD .null)),
    ("error", .text response.error), ("created_at", response.createdAt.toValue)]

/-- Reads a response; ids that are missing are taken from `ids`. -/
def read (ids : Nat → String) (now : Moment) (v : Value) : Checked OrchestrationResponse :=
  match Schema.record v with
  | .failed issues => .failed issues
  | .ok es =>
    let tasks := Schema.itemsWithIds (fun position => ids (position + 1)) fun id => Task.read id now
    OrchestrationResponse.mk <$> Schema.optional es "id" Schema.text (ids 0)
      <*> Schema.required es "agent_id" Schema.text
      <*> Schema.optional es "status" Schema.text "completed"
      <*> Schema.optional es "tasks" tasks []
      <*> Schema.optional es "results" (Schema.list (Schema.nullable TaskResult.read)) []
      <*> Schema.optional es "error" Schema.text ""
      <*> Schema.optional es "created_at" Schema.moment now

end OrchestrationResponse

end Orchestration
