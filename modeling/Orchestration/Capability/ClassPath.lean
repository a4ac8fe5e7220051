import Orchestration.Capability.Catalogue
import Orchestration.Text.Pieces
import Orchestration.Value.Display

/-!
# Loading by class path

A module is found part by part: each part must be a module, and all but the last one must be able to
hold others. Which modules there are is up to an importer; the one of the engine goes by the
catalogue. What is found at the end of a class path is made into a capability if it is a class with
the interface that is asked for.
-/

namespace Orchestration.ClassPath

/-- What importing a module gives, by its path: nothing if there is no such module, and the text of
the fault if it is there and cannot be imported. -/
abbrev Importer := String → Option (Except String Catalogue.Module)

/-- The importer that knows the modules of the catalogue. -/
def catalogued : Importer := fun path =>
  (Catalogue.find? path).map .ok

/-- The fault that there is no module. -/
def noModule (path : String) : Fault :=
  .foreign .moduleNotFound ("No module named " ++ Text.quoted path)

/-- The fault that a module cannot hold another one. -/
def noPackage (path parent : String) : Fault :=
  .foreign .moduleNotFound ("No module named " ++ Text.quoted path ++ "; " ++ Text.quoted parent ++
    " is not a package")

/-- The fault of a path that starts with a dot, which would be relative to a module. -/
def relative (path : String) : Fault :=
  .wrongType ("the 'package' argument is required to perform a relative import for " ++
    Text.quoted path)

/-- What an importer gives for a path, where `missing` is the fault that there is no module. -/
def importAt (importer : Importer) (path : String) (missing : Fault) :
    Except Fault Catalogue.Module :=
  match importer path with
  | some (.ok found) => .ok found
  | some (.error message) => .error (.foreign .importing message)
  | none => .error missing

/-- The module that the remaining parts lead to from the module before them, which has the given
path. -/
def descend (importer : Importer) (path : String) (parent : Catalogue.Module) :
    List String → Except Fault Catalogue.Module
  | [] => .ok parent
  | part :: rest => do
    let inner := path ++ "." ++ part
    let found ← importAt importer inner
      (if parent.isPackage then noModule inner else noPackage inner path)
    descend importer inner found rest

/-- The module with the given path. Paths must not be empty and not start with a dot. -/
def findModuleBy (importer : Importer) (path : String) : Except Fault Catalogue.Module :=
  match Text.pieces '.' path with
  | [""] => .error (.foreign .value "Empty module name")
  | "" :: _ => .error (relative path)
  | first :: rest => do
    let found ← importAt importer first (noModule first)
    descend importer first found rest
  | [] => .error (noModule path)

/-- The module of the catalogue with the given path. -/
def findModule (path : String) : Except Fault Catalogue.Module :=
  findModuleBy catalogued path

/-- The module path and the name in the module, if there is a dot. -/
def split? (path : String) : Option (String × String) :=
  match (Text.pieces '.' path).reverse with
  | name :: part :: parts => some (".".intercalate (part :: parts).reverse, name)
  | _ => none

/-- The member of a module. -/
def member? (found : Catalogue.Module) (name : String) : Option Member :=
  found.members.lookup name

/-- A loaded capability. -/
inductive Loaded where
  | tool (tool : Tool)
  | plugin (plugin : Plugin)

/-- The name of a loaded capability. -/
def Loaded.name : Loaded → String
  | .tool t => t.name
  | .plugin p => p.name

/-- The interface of a loaded capability. -/
def Loaded.interface : Loaded → Interface
  | .tool _ => .tool
  | .plugin _ => .plugin

/-- The fault of making something of a class that leaves operations open. -/
def abstractFault (className : String) (operations : List String) : Fault :=
  .wrongType ("Can't instantiate abstract class " ++ className ++ " with abstract method" ++
    (if operations.length = 1 then "" else "s") ++ " " ++ commaSeparated operations)

/-- Makes a capability with the given interface of a member; nothing if the member has another one.
-/
def instantiate? (interface : Interface) : Member → Option (Except Fault Loaded)
  | .tool tool => if interface = .tool then some (.ok (.tool tool)) else none
  | .plugin plugin => if interface = .plugin then some (.ok (.plugin plugin)) else none
  | .unfinished className found operations =>
    if interface = found then some (.error (abstractFault className operations)) else none
  | .provider | .other => none

/-- Loads the capability with the given class path, where modules come from an importer. -/
def loadBy (importer : Importer) (interface : Interface) (path : String) : Except Fault Loaded :=
  match split? path with
  | none => .error (.registry ("Invalid class path: " ++ path))
  | some (modulePath, name) =>
    match findModuleBy importer modulePath with
    | .error (.foreign .moduleNotFound message) | .error (.foreign .importing message) =>
      .error (.registry ("Cannot import module " ++ modulePath ++ ": " ++ message))
    | .error fault => .error fault
    | .ok found =>
      match member? found name with
      | none => .error (.registry ("Class " ++ name ++ " not found in " ++ modulePath))
      | some member =>
        match instantiate? interface member with
        | some result => result
        | none =>
          .error (.registry (path ++ " is not a " ++ interface.className ++ " subclass"))

/-- Loads the capability with the given class path from the catalogue. -/
def load (interface : Interface) (path : String) : Except Fault Loaded :=
  loadBy catalogued interface path

/-- The class paths of the tools that come with the engine. -/
def builtinTools : List String :=
  ["agentweave.capabilities.builtin.calculator.CalculatorTool",
    "agentweave.capabilities.builtin.clock.ClockTool"]

/-- The class paths of the plugins that come with the engine. -/
def builtinPlugins : List String :=
  ["agentweave.capabilities.builtin.data_analysis.DataAnalysisPlugin",
    "agentweave.capabilities.builtin.text_transform.TextTransformPlugin"]

/-- Loads the capabilities that come with the engine: the tools first. -/
def loadBuiltins : Except Fault (List Loaded) := do
  let tools ← builtinTools.mapM (load .tool)
  let plugins ← builtinPlugins.mapM (load .plugin)
  return tools ++ plugins

end Orchestration.ClassPath
