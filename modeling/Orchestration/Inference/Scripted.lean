import Orchestration.Inference

/-!
# A scripted backend

A backend whose replies are laid down beforehand: by rules that give the reply to a prompt, and a
reply for all other prompts. The prompt of a chat is its last turn. A reply is a text, which arrives
in two chunks, or a staged one, which may take time, cancel a context, refuse the call, and break
off.
-/

namespace Orchestration.Scripted

/-- A reply in stages. -/
structure Stage (τ : Type) where
  /-- What happens when the call arrives. -/
  opening : List (Effect τ) := []
  /-- The fault with which the call is refused. -/
  refusal : Option Fault := none
  /-- The stream. -/
  stream : List (StreamEvent τ) := []
  /-- The fault that ends the stream. -/
  failure : Option Fault := none
  embedding : Option Value := none

/-- A reply. -/
inductive Reply (τ : Type) where
  | text (reply : String)
  | staged (stage : Stage τ)

/-- A scripted backend. -/
structure Script (τ : Type) where
  rules : Table (Reply τ) := []
  default : Reply τ := .text "stub reply"
  embedding : Value := .list [.float 0.1, .float 0.2, .float 0.3]

/-- The text that stands for a reply which repeats the model and the prompt. -/
def echo : String :=
  "$echo"

/-- A reply in two chunks, the second of which has the token counts. -/
def halves (reply : String) : List StreamChunk :=
  let chars := reply.toList
  let half := chars.length / 2
  [{ content := String.ofList (chars.take half) },
    { content := String.ofList (chars.drop half), done := true, inputTokens := some 3,
      outputTokens := some 4 }]

variable {τ : Type} [Time τ]

/-- The reply to a prompt. -/
def Script.reply (script : Script τ) (model prompt : String) : Stage τ :=
  match (Table.find? script.rules prompt).getD script.default with
  | .staged stage => stage
  | .text reply =>
    let reply := if reply = echo then model ++ "|" ++ prompt else reply
    { stream := (halves reply).map fun chunk => .chunk (.ok chunk) }

/-- Answers a call for a stream. -/
def Script.stream (script : Script τ) (s : Surroundings τ) (context : Option String)
    (model prompt : String) : Answer (Script τ) τ StreamReply :=
  let stage := script.reply model prompt
  match stage.refusal with
  | some fault => ⟨script, stage.opening, .refused fault⟩
  | none =>
    let ending := (stage.failure.map StreamEvent.fail).toList
    let (delivery, effects) :=
      StreamEvent.consume (s.applyAll stage.opening) context none (stage.stream ++ ending)
    ⟨script, stage.opening ++ effects, .delivered delivery⟩

/-- Answers a call for an embedding. -/
def Script.embed (script : Script τ) (model text : String) :
    Answer (Script τ) τ (Except Fault Value) :=
  let stage := script.reply model text
  ⟨script, stage.opening,
    match stage.refusal <|> stage.failure with
    | some fault => .error fault
    | none => .ok (stage.embedding.getD script.embedding)⟩

/-- The prompt of a chat. -/
def lastTurn (turns : List ChatMessage) : String :=
  (turns.getLast?.map (·.content)).getD ""

instance : Backend (Script τ) τ where
  name _ := "stub"
  generate script s context model prompt _ := script.stream s context model prompt
  chat script s context model turns _ := script.stream s context model (lastTurn turns)
  embed script _ _ model text := script.embed model text

end Orchestration.Scripted
