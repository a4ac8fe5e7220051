import Orchestration.Capability.ClassPath
import Orchestration.Inference.Adapter
import Orchestration.Settings

/-!
# Inference providers

A provider is a name with the class path of its adapter. The adapter of a provider gets the
arguments of the caller; what the caller leaves open comes from the settings.
-/

namespace Orchestration.Provider

/-- The providers that come with the engine. -/
def builtin : Table String :=
  [("ollama", "agentweave.llm.adapters.ollama_adapter.OllamaAdapter")]

/-- What an adapter is made with. -/
structure Arguments where
  host : Value
  timeout : Value

/-- The name of the provider that is asked for. -/
def chosen (provider : Option String) (settings : Option Settings) : String :=
  provider.getD ((settings.map (·.inferenceProvider)).getD "ollama")

/-- The fault that there is no provider of a name. -/
def unsupported (providers : Table String) (name : String) : Fault :=
  .unsupportedProvider ("Unsupported inference provider: " ++ Text.quoted name ++ ". Available: " ++
    commaSeparated (Table.sorted providers).keys)

/-- Finds the adapter with the given class path. -/
def adapterAt (path : String) : Except Fault Unit :=
  match ClassPath.split? path with
  | none => .error (.foreign .value "not enough values to unpack (expected 2, got 1)")
  | some (modulePath, name) =>
    match ClassPath.findModule modulePath with
    | .error fault => .error fault
    | .ok found =>
      match ClassPath.member? found name with
      | none =>
        .error (.foreign .attribute ("module " ++ Text.quoted modulePath ++ " has no attribute " ++
          Text.quoted name))
      | some _ => .ok ()

/-- The arguments of an adapter: those of the caller, then those of the settings, then the defaults.
Only the provider that comes with the engine takes its host from the settings. -/
def arguments (name : String) (settings : Option Settings) (given : Fields) : Arguments where
  host :=
    (Table.find? given "host").getD
      (match settings with
        | some settings =>
          if name = "ollama" then .text settings.ollamaHost else .text "http://localhost:11434"
        | none => .text "http://localhost:11434")
  timeout :=
    (Table.find? given "timeout").getD
      (match settings with
        | some settings => .float settings.inferenceTimeout
        | none => .float 300.0)

/-- Chooses a provider and finds what its adapter is made with. -/
def create (providers : Table String) (provider : Option String) (settings : Option Settings)
    (given : Fields) : Except Fault Arguments :=
  let name := chosen provider settings
  match Table.find? providers name with
  | none => .error (unsupported providers name)
  | some path => (adapterAt path).map fun _ => arguments name settings given

end Orchestration.Provider
