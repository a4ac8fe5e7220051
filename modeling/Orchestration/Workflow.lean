import Orchestration.Schema

/-!
# Workflows

A workflow is a list of steps that one agent carries out in order. Its result lists the steps that
succeeded and names the one that did not.
-/

namespace Orchestration

/-- A step of a workflow. The input may refer to the outputs of earlier steps. -/
structure WorkflowStep where
  name : String
  label : String := "generate"
  input : String := ""
  modelName : String := ""

/-- What a step that succeeded has done. -/
structure WorkflowStepResult where
  name : String
  label : String
  input : String
  output : String := ""
  modelUsed : String := ""
  success : Bool := true
  error : String := ""

/-- The outcome of a workflow. -/
structure WorkflowResult where
  steps : List WorkflowStepResult := []
  success : Bool := true
  error : String := ""
  failedStep : Option String := none

namespace WorkflowStep

/-- The step as a record. -/
def toValue (step : WorkflowStep) : Value :=
  .record [("name", .text step.name), ("type", .text step.label), ("input", .text step.input),
    ("model_name", .text step.modelName)]

/-- Reads a step. -/
def read (v : Value) : Checked WorkflowStep :=
  match Schema.record v with
  | .failed issues => .failed issues
  | .ok es =>
    WorkflowStep.mk <$> Schema.required es "name" Schema.text
      <*> Schema.optional es "type" Schema.text "generate"
      <*> Schema.optional es "input" Schema.text ""
      <*> Schema.optional es "model_name" Schema.text ""

end WorkflowStep

namespace WorkflowStepResult

/-- The step's outcome as a record. -/
def toValue (step : WorkflowStepResult) : Value :=
  .record [("name", .text step.name), ("type", .text step.label), ("input", .text step.input),
    ("output", .text step.output), ("model_used", .text step.modelUsed),
    ("success", .bool step.success), ("error", .text step.error)]

/-- Reads a step's outcome. -/
def read (v : Value) : Checked WorkflowStepResult :=
  match Schema.record v with
  | .failed issues => .failed issues
  | .ok es =>
    WorkflowStepResult.mk <$> Schema.required es "name" Schema.text
      <*> Schema.required es "type" Schema.text
      <*> Schema.required es "input" Schema.text
      <*> Schema.optional es "output" Schema.text ""
      <*> Schema.optional es "model_used" Schema.text ""
      <*> Schema.optional es "success" Schema.bool true
      <*> Schema.optional es "error" Schema.text ""

end WorkflowStepResult

namespace WorkflowResult

/-- The outcome as a record. -/
def toValue (result : WorkflowResult) : Value :=
  .record [("steps", .list (result.steps.map WorkflowStepResult.toValue)),
    ("success", .bool result.success), ("error", .text result.error),
    ("failed_step", .ofText? result.failedStep)]

/-- Reads an outcome. -/
def read (v : Value) : Checked WorkflowResult :=
  match Schema.record v with
  | .failed issues => .failed issues
  | .ok es =>
    WorkflowResult.mk <$> Schema.optional es "steps" (Schema.list WorkflowStepResult.read) []
      <*> Schema.optional es "success" Schema.bool true
      <*> Schema.optional es "error" Schema.text ""
      <*> Schema.optional es "failed_step" (Schema.nullable Schema.text) none

end WorkflowResult

end Orchestration
