import Orchestration.Agent
import Orchestration.Text.Case
import Orchestration.Text.Search

/-!
# Choosing a model

`selectModel` picks a model for a task. A text that mentions code goes to the first model whose name
mentions code; otherwise a chat goes to the first model whose name does not; otherwise the
configured default is taken if the agent has it, and the first model of the agent if not.
-/

namespace Orchestration.Routing

/-- The words that make a text a matter of code. -/
def codeHints : List String :=
  ["code", "function", "programming"]

/-- The model is meant for code. -/
def isCodeModel (model : String) : Bool :=
  Text.contains (Text.lower model) "code"

/-- The text mentions code. -/
def mentionsCode (text : String) : Bool :=
  let lowered := Text.lower text
  codeHints.any (Text.contains lowered)

/-- The configured default, if it is a model of the agent. -/
def configuredModel? (agent : Agent) : Option String :=
  ((Table.find? agent.config "default_model").bind Value.text?).filter agent.models.contains

/-- The model for a task of the given kind; empty if the agent has no models. -/
def selectModel (agent : Agent) (kind : TaskKind) (text : String) : String :=
  let forCode := if mentionsCode text then agent.models.find? isCodeModel else none
  let forChat := if kind = .chat then agent.models.find? (!isCodeModel ·) else none
  (forCode <|> forChat <|> configuredModel? agent).getD agent.defaultModel

end Orchestration.Routing
