import Orchestration.Fault
import Orchestration.Schema
import Orchestration.Settings.Dotenv
import Orchestration.Text.Case
import Orchestration.Text.Path
import Orchestration.Text.Pieces

/-!
# Settings

The configuration of an engine. A setting comes from the first source that has it: the caller, the
environment, the file of variables, and its default. The names of variables are compared in any
letter case. Settings that have been loaded are consistent: the timeout is not zero or negative, at
least one task may run at a time, and the default model is one of the default models if there are
any.
-/

namespace Orchestration

/-- The configuration of an engine. -/
structure Settings where
  inferenceProvider : String := "ollama"
  ollamaHost : String := "http://localhost:11434"
  inferenceTimeout : Float := 300.0
  /-- The default models, separated by commas. -/
  defaultModels : String := "llama3.2,llama2,codellama"
  defaultModel : String := "llama3.2"
  maxConcurrentTasks : Int := 3
  registerBuiltins : Bool := true
  /-- The label of a delegated task that does not say what it asks for. -/
  delegationLabel : String := "custom"
  logLevel : String := "INFO"
  logFormat : String := "json"
  logFile : Option String := none
  logRotation : String := "10MB"
  logRetention : Int := 30

namespace Settings

/-- The default models, in the order in which they are written. -/
def modelList (settings : Settings) : List String :=
  ((Text.pieces ',' settings.defaultModels).map Text.stripped).filter (· ≠ "")

/-- What contradicts in the settings. -/
def contradictions (settings : Settings) : List String :=
  (if settings.inferenceTimeout ≤ 0.0 then ["INFERENCE_TIMEOUT_S must be positive"] else []) ++
  (if settings.defaultModel ≠ "" ∧ settings.modelList ≠ [] ∧
      !settings.modelList.contains settings.defaultModel then
    ["DEFAULT_MODEL " ++ Text.quoted settings.defaultModel ++ " is not in DEFAULT_MODELS"]
  else [])

/-- A positive integer. -/
def positive (v : Value) : Checked Int :=
  match Schema.int v with
  | .ok n => if 1 ≤ n then .ok n else Checked.defect .value
  | .failed issues => .failed issues

/-- One of some words. -/
def oneOf (words : List String) (v : Value) : Checked String :=
  Schema.labelled (fun word => words.find? (· = word)) .literal v

/-- A path, in plain form. -/
def path (v : Value) : Checked String :=
  Checked.ofOption .pathType (v.text?.map Text.plainPath)

/-- Reads settings. -/
def read (es : List (Key × Value)) : Checked Settings :=
  let default : Settings := {}
  let levels := ["DEBUG", "INFO", "WARNING", "ERROR"]
  Settings.mk <$> Schema.optional es "inference_provider" Schema.text default.inferenceProvider
    <*> Schema.optional es "ollama_host" Schema.text default.ollamaHost
    <*> Schema.optional es "inference_timeout_s" Schema.float default.inferenceTimeout
    <*> Schema.optional es "default_models" Schema.text default.defaultModels
    <*> Schema.optional es "default_model" Schema.text default.defaultModel
    <*> Schema.optional es "default_max_concurrent_tasks" positive default.maxConcurrentTasks
    <*> Schema.optional es "register_builtin_capabilities" Schema.bool default.registerBuiltins
    <*> Schema.optional es "delegation_default_task_type" Schema.text default.delegationLabel
    <*> Schema.optional es "log_level" (oneOf levels) default.logLevel
    <*> Schema.optional es "log_format" (oneOf ["json", "text"]) default.logFormat
    <*> Schema.optional es "log_file" (Schema.nullable path) default.logFile
    <*> Schema.optional es "log_rotation" Schema.text default.logRotation
    <*> Schema.optional es "log_retention" Schema.int default.logRetention

/-- Reads settings that do not contradict each other. -/
def ofEntries (es : List (Key × Value)) : Except Fault Settings := do
  let settings ← (read es).orFault "Settings"
  match settings.contradictions with
  | [] => return settings
  | contradictions => throw (.configuration ("; ".intercalate contradictions))

/-- Variables as entries under their names in lower case; of two names that differ only in case the
later one counts. -/
def entriesOf (definitions : Table (Option String)) : List (Key × Value) :=
  let lowered := Table.ofEntries (definitions.map fun (name, value) => (Text.lower name, value))
  lowered.filterMap fun (name, value) => value.map fun text => (.text name, .text text)

/-- Loads the settings from the caller's overrides, the environment and a file of variables. -/
def load (overrides : List (Key × Value)) (environment : Table String) (file : String) :
    Except Fault Settings :=
  let environmentEntries := entriesOf (environment.map fun (name, value) => (name, some value))
  let fileEntries := entriesOf (Dotenv.definitions environment file)
  -- Of several entries for a setting the first one is read.
  ofEntries (overrides ++ environmentEntries ++ fileEntries)

/-- The settings as a record. -/
def toValue (settings : Settings) : Value :=
  .record [("inference_provider", .text settings.inferenceProvider),
    ("ollama_host", .text settings.ollamaHost),
    ("inference_timeout_s", .float settings.inferenceTimeout),
    ("default_models", .text settings.defaultModels),
    ("default_model", .text settings.defaultModel),
    ("default_max_concurrent_tasks", .int settings.maxConcurrentTasks),
    ("register_builtin_capabilities", .bool settings.registerBuiltins),
    ("delegation_default_task_type", .text settings.delegationLabel),
    ("log_level", .text settings.logLevel), ("log_format", .text settings.logFormat),
    ("log_file", .ofText? settings.logFile), ("log_rotation", .text settings.logRotation),
    ("log_retention", .int settings.logRetention)]

end Settings

end Orchestration
