import Orchestration.Chat

/-!
# Calls

What the engine asks of the outside: an inference backend, a tool, a plugin. The calls that were
made are kept in order; everything outside may answer in a way that depends on all of them.
-/

namespace Orchestration

/-- Options of an inference call, as they were given. -/
abbrev Options := List (Key × Value)

/-- A call to something outside. -/
inductive Call where
  | generate (model prompt : String) (options : Option Options)
  | chat (model : String) (turns : List ChatMessage) (options : Option Options)
  | embed (model text : String)
  | tool (name : String) (parameters : Fields)
  | plugin (name input : String) (parameters : Fields)

/-- What a capability can see of the world when it is called. -/
structure Occasion where
  /-- The time on the wall clock. -/
  now : Moment
  /-- The calls that were made before, oldest first. -/
  history : List Call := []

namespace Call

/-- The call goes to the inference backend. -/
def isInference : Call → Bool
  | generate _ _ _ | chat _ _ _ | embed _ _ => true
  | tool _ _ | plugin _ _ _ => false

/-- The model that an inference call names. -/
def model? : Call → Option String
  | generate model _ _ | chat model _ _ | embed model _ => some model
  | tool _ _ | plugin _ _ _ => none

/-- Options as a value. -/
def optionsValue (options : Option Options) : Value :=
  (options.map Value.map).getD .null

/-- The call as a list of its parts. -/
def toValue : Call → Value
  | generate model prompt options =>
    .list [.text "generate", .text model, .text prompt, optionsValue options]
  | chat model turns options =>
    .list [.text "chat", .text model,
      .list (turns.map fun turn => .texts [turn.role.label, turn.content]), optionsValue options]
  | embed model text => .texts ["embed", model, text]
  | tool name parameters => .list [.text "tool", .text name, .record parameters]
  | plugin name input parameters =>
    .list [.text "plugin", .text name, .text input, .record parameters]

end Call

end Orchestration
