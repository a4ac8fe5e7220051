import Orchestration.Capability.Analysis
import Orchestration.Capability.Calculator
import Orchestration.Capability.Clock
import Orchestration.Capability.Transformation

/-!
# The catalogue of loadable classes

Capabilities and providers are loaded by class path: a module path, a dot, and the name of something
in the module. The catalogue lists the modules with what they hold. Some of what they hold can be
used as a tool, a plugin or a provider; the interfaces of tools and plugins are there too, but
nothing can be made of them.
-/

namespace Orchestration

/-- The interfaces that a loaded class can have. -/
inductive Interface where
  | tool
  | plugin
deriving DecidableEq, Repr

/-- The class of an interface. -/
def Interface.className : Interface → String
  | .tool => "BaseTool"
  | .plugin => "BasePlugin"

/-- The operations that an interface asks for. -/
def Interface.operations : Interface → List String
  | .tool => ["call", "description", "name"]
  | .plugin => ["description", "execute", "name"]

/-- Something that a module holds. -/
inductive Member where
  /-- A class that tools are made of. -/
  | tool (tool : Tool)
  /-- A class that plugins are made of. -/
  | plugin (plugin : Plugin)
  /-- A class with an interface that leaves operations open. -/
  | unfinished (className : String) (interface : Interface) (operations : List String)
  /-- A class that providers are made of. -/
  | provider
  | other

/-- The class of an interface, which leaves all operations open. -/
def Interface.member (interface : Interface) : Member :=
  .unfinished interface.className interface interface.operations

/-- A module. -/
structure Catalogue.Module where
  path : String
  /-- The module can hold other modules. -/
  isPackage : Bool := false
  members : List (String × Member) := []

namespace Catalogue

/-- Members of no use as a capability. -/
def others (names : List String) : List (String × Member) :=
  names.map fun name => (name, .other)

/-- The paths of the packages. -/
def packages : List Module :=
  [⟨"agentweave", true, others ["version"]⟩,
    ⟨"agentweave.capabilities", true, others ["base", "builtin", "registry"]⟩,
    ⟨"agentweave.capabilities.builtin", true,
      others ["calculator", "clock", "data_analysis", "text_transform"]⟩,
    ⟨"agentweave.config", true, others ["agents", "settings"]⟩,
    ⟨"agentweave.core", true, others ["cancellation", "errors", "locks", "models"]⟩,
    ⟨"agentweave.engine", true, others ["orchestrator"]⟩,
    ⟨"agentweave.llm", true, others ["adapters", "base_client", "client_factory", "models"]⟩,
    ⟨"agentweave.llm.adapters", true, others ["ollama_adapter"]⟩,
    ⟨"agentweave.logging", true, others ["context", "logger"]⟩,
    ⟨"agentweave.tracking", true, others ["models", "task_stats"]⟩,
    ⟨"collections", true, others ["Counter", "OrderedDict", "defaultdict", "deque"]⟩,
    ⟨"json", true, others ["JSONDecoder", "JSONEncoder", "dumps", "loads"]⟩,
    ⟨"logging", true, others ["Formatter", "Handler", "Logger", "getLogger"]⟩]

/-- The modules with capabilities and providers. -/
def capabilityModules : List Module :=
  [⟨"agentweave.capabilities.base", false,
      [("BaseTool", Interface.tool.member), ("BasePlugin", Interface.plugin.member)] ++
        others ["ABC", "Any", "ToolResult", "abstractmethod", "annotations"]⟩,
    ⟨"agentweave.capabilities.builtin.calculator", false,
      [("CalculatorTool", .tool Calculator.tool), ("BaseTool", Interface.tool.member)] ++
        others ["Any", "Callable", "ToolResult", "_OPERATIONS", "annotations", "math",
          "operator"]⟩,
    ⟨"agentweave.capabilities.builtin.clock", false,
      [("ClockTool", .tool Clock.tool), ("BaseTool", Interface.tool.member)] ++
        others ["Any", "ToolResult", "annotations", "datetime", "timezone"]⟩,
    ⟨"agentweave.capabilities.builtin.data_analysis", false,
      [("DataAnalysisPlugin", .plugin Analysis.plugin), ("BasePlugin", Interface.plugin.member)] ++
        others ["Any", "Counter", "_SENTENCE_RE", "_STOPWORDS", "_WORD_RE", "annotations", "re"]⟩,
    ⟨"agentweave.capabilities.builtin.text_transform", false,
      [("TextTransformPlugin", .plugin Transformation.plugin),
        ("BasePlugin", Interface.plugin.member)] ++
        others ["Any", "Callable", "_MODES", "annotations"]⟩,
    ⟨"agentweave.capabilities.registry", false,
      [("BaseTool", Interface.tool.member), ("BasePlugin", Interface.plugin.member)] ++
        others ["BUILTIN_PLUGINS", "BUILTIN_TOOLS", "CapabilityNotFoundError",
          "CapabilityRegistry", "ReadWriteLock", "RegistryError", "logger"]⟩,
    ⟨"agentweave.llm.adapters.ollama_adapter", false,
      [("OllamaAdapter", .provider)] ++
        others ["Any", "BaseInferenceClient", "ChatMessage", "InferenceError", "StreamChunk",
          "TaskCancelledError", "annotations"]⟩]

/-- The modules that hold neither capabilities nor providers. -/
def otherModules : List Module :=
  [⟨"agentweave.config.agents", false,
      others ["AGENT_TYPE_PROFILES", "BUILTIN_PLUGINS", "BUILTIN_TOOLS"]⟩,
    ⟨"agentweave.config.settings", false, others ["ConfigurationError", "Settings"]⟩,
    ⟨"agentweave.core.cancellation", false, others ["CallContext"]⟩,
    ⟨"agentweave.core.errors", false,
      others ["AgentNotFoundError", "CapabilityExecutionError", "CapabilityNotFoundError",
        "ConversationNotFoundError", "ExecutionError", "InferenceError", "InvalidRequestError",
        "NoModelSpecifiedError", "NotFoundError", "OrchestrationError", "TaskCancelledError",
        "TaskNotFoundError"]⟩,
    ⟨"agentweave.core.locks", false, others ["ReadWriteLock"]⟩,
    ⟨"agentweave.core.models", false,
      others ["Agent", "AgentState", "AgentType", "CONTEXT_LIMIT", "ContextItem", "Conversation",
        "Message", "MessageType", "Task", "TaskResult", "TaskStatus", "TaskType", "ToolCall",
        "ToolResult"]⟩,
    ⟨"agentweave.engine.orchestrator", false, others ["Engine"]⟩,
    ⟨"agentweave.llm.base_client", false, others ["BaseInferenceClient"]⟩,
    ⟨"agentweave.llm.client_factory", false, others ["UnsupportedProviderError"]⟩,
    ⟨"agentweave.llm.models", false, others ["ChatMessage", "StreamChunk"]⟩,
    ⟨"agentweave.logging.context", false, others ["LogContext"]⟩,
    ⟨"agentweave.logging.logger", false, others ["JsonFormatter", "TextFormatter"]⟩,
    ⟨"agentweave.tracking.models", false, others ["AgentTaskStats"]⟩,
    ⟨"agentweave.tracking.task_stats", false, others ["aggregate_by_agent"]⟩,
    ⟨"agentweave.version", false, others ["__version__"]⟩,
    ⟨"builtins", false, others ["dict", "int", "list", "object", "print", "str", "type"]⟩,
    ⟨"datetime", false, others ["date", "datetime", "time", "timedelta", "timezone"]⟩,
    ⟨"math", false, others ["e", "floor", "inf", "nan", "pi", "sqrt"]⟩,
    ⟨"os", false, others ["environ", "getcwd", "name", "path", "sep"]⟩,
    ⟨"os.path", false, others ["basename", "dirname", "exists", "join"]⟩,
    ⟨"re", false, others ["compile", "match", "search"]⟩,
    ⟨"string", false, others ["Template", "ascii_letters", "digits"]⟩,
    ⟨"sys", false, others ["argv", "modules", "path"]⟩]

/-- All modules. -/
def modules : List Module :=
  packages ++ capabilityModules ++ otherModules

/-- The module with the given path. -/
def find? (path : String) : Option Module :=
  modules.find? (·.path = path)

end Catalogue

end Orchestration
