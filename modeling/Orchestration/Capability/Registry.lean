import Orchestration.Capability
import Orchestration.Log.Record

/-!
# The registry of capabilities

Tools and plugins are registered under their names, apart from each other. Registering under a name
that is taken replaces what was there, which is worth a warning.
-/

namespace Orchestration

/-- The registered tools and plugins. -/
structure Registry where
  tools : Table Tool := []
  plugins : Table Plugin := []

namespace Registry

/-- The logger of the registry. -/
def logger : String :=
  "agentweave.capabilities.registry"

/-- What is said when something is registered. -/
def notes (sort name : String) (taken : Bool) : List (Log.Level × String) :=
  (if taken then [(.warning, "Overwriting existing " ++ sort ++ ": " ++ name)] else []) ++
    [(.info, "Registered " ++ sort ++ ": " ++ name)]

/-- Registers a tool. -/
def registerTool (registry : Registry) (tool : Tool) : Registry :=
  { registry with tools := Table.insert registry.tools tool.name tool }

/-- Registers a plugin. -/
def registerPlugin (registry : Registry) (plugin : Plugin) : Registry :=
  { registry with plugins := Table.insert registry.plugins plugin.name plugin }

/-- What is said when a tool is registered. -/
def toolNotes (registry : Registry) (tool : Tool) : List (Log.Level × String) :=
  notes "tool" tool.name (Table.contains registry.tools tool.name)

/-- What is said when a plugin is registered. -/
def pluginNotes (registry : Registry) (plugin : Plugin) : List (Log.Level × String) :=
  notes "plugin" plugin.name (Table.contains registry.plugins plugin.name)

/-- The tool with the given name. -/
def tool? (registry : Registry) (name : String) : Option Tool :=
  Table.find? registry.tools name

/-- The plugin with the given name. -/
def plugin? (registry : Registry) (name : String) : Option Plugin :=
  Table.find? registry.plugins name

/-- The tool with the given name, or the fault that there is none. -/
def tool (registry : Registry) (name : String) : Except Fault Tool :=
  match registry.tool? name with
  | some tool => .ok tool
  | none => .error (.missingWith .capability name ("tool not found: " ++ name))

/-- The plugin with the given name, or the fault that there is none. -/
def plugin (registry : Registry) (name : String) : Except Fault Plugin :=
  match registry.plugin? name with
  | some plugin => .ok plugin
  | none => .error (.missingWith .capability name ("plugin not found: " ++ name))

/-- The names of the tools, in ascending order. -/
def toolNames (registry : Registry) : List String :=
  (Table.sorted registry.tools).keys

/-- The names of the plugins, in ascending order. -/
def pluginNames (registry : Registry) : List String :=
  (Table.sorted registry.plugins).keys

/-- The descriptions of all capabilities under their names. -/
def describe (registry : Registry) : Value :=
  .record [
    ("tools", .record ((Table.sorted registry.tools).map fun (name, tool) =>
      (name, .text tool.description))),
    ("plugins", .record ((Table.sorted registry.plugins).map fun (name, plugin) =>
      (name, .text plugin.description)))]

end Registry

end Orchestration
