import Orchestration.Engine.Execution
import Orchestration.Routing
import Orchestration.Template
import Orchestration.Workflow

/-!
# Running a workflow

The steps of a workflow are carried out in order by one agent, a task for each. The output of a step
is known to the later ones under the position of the step and under its name. The first step that
fails ends the workflow.
-/

namespace Orchestration.Engine

/-- The logger of workflows. -/
def workflowLogger : String :=
  "agentweave.engine.workflow"

/-- The key under which the output of the step at a position, counted from one, is known. -/
def stepKey (position : Nat) : String :=
  "step" ++ Decimal.integerText position

/-- The outputs after another step. -/
def publish (outputs : Fields) (position : Nat) (name output : String) : Fields :=
  Table.insert (Table.insert outputs (stepKey position) (.text output)) name (.text output)

/-- How a failed step is named: by its position and its name. -/
def stepLabel (position : Nat) (name : String) : String :=
  Decimal.integerText position ++ " (" ++ name ++ ")"

/-- The task for a step with the given input. -/
def stepTask (id : String) (now : Moment) (agentId : String) (agent : Agent) (step : WorkflowStep)
    (input : String) : Task where
  id := id
  label := step.label
  input := input
  agentId := agentId
  modelName :=
    if step.modelName = "" then Routing.selectModel agent (TaskKind.parse step.label) input
    else step.modelName
  parameters := [("workflow_step", .text step.name)]
  createdAt := now

/-- What a step that succeeded has done. -/
def stepResult (step : WorkflowStep) (input : String) (result : TaskResult) :
    WorkflowStepResult where
  name := step.name
  label := step.label
  input := input
  output := result.output
  modelUsed := result.modelUsed

variable {σ τ : Type} [Time τ] [Backend σ τ]

/-- Carries out a step. -/
def runStep (agentId : String) (ref : Ref Agent) (context : Option String) (step : WorkflowStep)
    (input : String) : Run σ τ TaskResult := do
  let id ← freshId
  let task ← newTask (stepTask id (← now) agentId (← agent ref) step input)
  execute task ref context true

/-- Carries out the steps from the given position on, up to the first one that fails. Only a fault
of the taxonomy is part of the outcome. -/
def runSteps (agentId : String) (ref : Ref Agent) (context : Option String) :
    (position : Nat) → (outputs : Fields) → List WorkflowStep → Run σ τ WorkflowResult
  | _, _, [] => return {}
  | position, outputs, step :: rest => do
    let input ← lift (Template.render outputs step.input)
    match ← attempt (runStep agentId ref context step input) with
    | .error fault =>
      if fault.isOrchestration then
        log .warning workflowLogger
          ("Workflow aborted at step " ++ stepLabel position step.name ++ ": " ++ fault.message)
        return {
          success := false
          error := "Step " ++ stepLabel position step.name ++ " failed: " ++ fault.message
          failedStep := some step.name }
      else throw fault
    | .ok result =>
      let later ← runSteps agentId ref context (position + 1)
        (publish outputs position step.name result.output) rest
      return { later with steps := stepResult step input result :: later.steps }

/-- Runs a workflow with a registered agent. -/
def runWorkflow (agentId : String) (steps : List WorkflowStep) (context : Option String) :
    Run σ τ WorkflowResult := do
  let ref ← lift ((← get).agents.get agentId)
  let result ← runSteps agentId ref context 1 [] steps
  if result.success then
    log .info workflowLogger ("Workflow completed: " ++ Decimal.integerText steps.length ++
      " steps for agent " ++ agentId)
  return result

end Orchestration.Engine
