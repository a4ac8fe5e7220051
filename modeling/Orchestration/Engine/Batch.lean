import Orchestration.Engine.Execution
import Orchestration.Fault.Description

/-!
# Batches

Several tasks for one agent. A sequential batch stops at the first task that fails, and its results
are those of the tasks before it. A concurrent batch has a worker for each task and a place for each
result; the places of failed tasks stay empty, and the first fault that a worker records is the
fault of the batch. The order in which the workers run is an argument; the engine starts them in the
order of the tasks.
-/

namespace Orchestration

/-- The outcome of a batch. -/
structure BatchResult where
  results : List (Option TaskResult) := []
  error : Option Fault := none
  sequential : Bool := false

namespace BatchResult

/-- All tasks were carried out. -/
def success (batch : BatchResult) : Bool :=
  batch.error.isNone

/-- The results of the tasks that were carried out. -/
def completed (batch : BatchResult) : List TaskResult :=
  batch.results.filterMap id

/-- The batch, or its fault if it has one. -/
def orFault (batch : BatchResult) : Except Fault BatchResult :=
  match batch.error with
  | none => .ok batch
  | some fault => .error fault

/-- The batch with the outcome of the task at a position. A fault from outside the taxonomy is lost
with the worker that it ended. -/
def note (batch : BatchResult) (position : Nat) (outcome : Except Fault TaskResult) : BatchResult :=
  match outcome with
  | .ok result => { batch with results := batch.results.set position (some result) }
  | .error fault =>
    if fault.isOrchestration then { batch with error := batch.error <|> some fault } else batch

/-- The batch as a record. -/
def toValue (batch : BatchResult) : Value :=
  .record [("success", .bool batch.success), ("sequential", .bool batch.sequential),
    ("results", .list (batch.results.map fun r => (r.map TaskResult.toValue).getD .null)),
    ("completed", .texts (batch.completed.map (·.taskId))),
    ("error", (batch.error.map Fault.toValue).getD .null)]

end BatchResult

namespace Engine

variable {σ τ : Type} [Time τ] [Backend σ τ]

/-- A position among so many, as a log shows it. -/
def ratio (n total : Nat) : String :=
  Decimal.integerText n ++ "/" ++ Decimal.integerText total

/-- Carries out the tasks from the given position on, up to the first one that fails. Only a fault
of the taxonomy is part of the outcome. -/
def runSequentialFrom (agent : Ref Agent) (context : Option String) (total : Nat) :
    (done : Nat) → List (Ref Task) → Run σ τ BatchResult
  | _, [] => return { sequential := true }
  | done, task :: rest => do
    match ← attempt (execute task agent context true) with
    | .error fault =>
      if fault.isOrchestration then
        -- The tasks after this one are not started.
        log .warning executorLogger
          ("Sequential batch stopped at task " ++ ratio (done + 1) total ++ ": " ++ fault.message)
        return { sequential := true, error := some fault }
      else throw fault
    | .ok result =>
      let batch ← runSequentialFrom agent context total (done + 1) rest
      return { batch with results := some result :: batch.results }

/-- Carries out tasks one after the other, up to the first one that fails. -/
def runSequential (tasks : List (Ref Task)) (agent : Ref Agent) (context : Option String) :
    Run σ τ BatchResult :=
  runSequentialFrom agent context tasks.length 0 tasks

/-- The name of the thread of a worker. -/
def workerName (position : Nat) : String :=
  "agentweave-task_" ++ Decimal.integerText position

/-- Runs the worker of the task at a position to its end. -/
def runWorker (agent : Ref Agent) (context : Option String) (batch : BatchResult)
    (worker : Nat × Ref Task) : Run σ τ BatchResult := do
  let outcome ← inThread (workerName worker.1) (attempt (execute worker.2 agent context true))
  return batch.note worker.1 outcome

/-- Runs workers in the given order, each to its end. -/
def runWorkers (agent : Ref Agent) (context : Option String) (batch : BatchResult)
    (workers : List (Nat × Ref Task)) : Run σ τ BatchResult :=
  workers.foldlM (runWorker agent context) batch

/-- The workers of a batch, in the order of its tasks. -/
def workersOf (tasks : List (Ref Task)) : List (Nat × Ref Task) :=
  tasks.zipIdx.map fun (task, position) => (position, task)

/-- Carries out tasks with a worker each, where the workers run in the given order. -/
def runConcurrentIn (workers : List (Nat × Ref Task)) (agent : Ref Agent)
    (context : Option String) : Run σ τ BatchResult := do
  let batch ← runWorkers agent context { results := workers.map fun _ => none } workers
  let failed := batch.results.countP (·.isNone)
  if failed ≠ 0 then
    log .warning executorLogger
      ("Concurrent batch: " ++ ratio failed workers.length ++ " tasks failed")
  return batch

/-- Carries out tasks with a worker each. -/
def runConcurrent (tasks : List (Ref Task)) (agent : Ref Agent) (context : Option String) :
    Run σ τ BatchResult :=
  runConcurrentIn (workersOf tasks) agent context

/-- Carries out several tasks with one agent. -/
def runBatch (tasks : List (Ref Task)) (agent : Ref Agent) (sequential : Bool)
    (context : Option String) : Run σ τ BatchResult :=
  if sequential then runSequential tasks agent context else runConcurrent tasks agent context

end Engine

end Orchestration
