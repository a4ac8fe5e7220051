import Orchestration.Schema

/-!
# Chat turns and streamed replies

What the engine and an inference backend exchange: the turns of a chat, and the chunks of a reply.
Token counts are only reported on the final chunk.
-/

namespace Orchestration

/-- Who speaks a turn of a chat. -/
inductive ChatRole where
  | user
  | assistant
  | system
deriving DecidableEq, Repr

namespace ChatRole

/-- The label of a role. -/
def label : ChatRole → String
  | .user => "user"
  | .assistant => "assistant"
  | .system => "system"

/-- The role with the given label. -/
def ofLabel? (label : String) : Option ChatRole :=
  [user, assistant, system].find? (·.label = label)

theorem ofLabel?_eq_some_iff {label : String} {role : ChatRole} :
    ofLabel? label = some role ↔ role.label = label := by
  constructor
  · intro h
    simpa using List.find?_some h
  · rintro rfl
    cases role <;> rfl

end ChatRole

/-- One turn of a chat. -/
structure ChatMessage where
  role : ChatRole
  content : String
deriving DecidableEq, Repr

/-- One piece of a streamed reply. -/
structure StreamChunk where
  content : String := ""
  done : Bool := false
  inputTokens : Option Int := none
  outputTokens : Option Int := none
deriving DecidableEq, Repr

namespace ChatMessage

/-- The turn as a record. -/
def toValue (message : ChatMessage) : Value :=
  .record [("role", .text message.role.label), ("content", .text message.content)]

/-- Reads a turn. -/
def read (v : Value) : Checked ChatMessage :=
  match Schema.record v with
  | .failed issues => .failed issues
  | .ok es =>
    ChatMessage.mk <$> Schema.required es "role" (Schema.labelled ChatRole.ofLabel? .literal)
      <*> Schema.required es "content" Schema.text

end ChatMessage

namespace StreamChunk

/-- The chunk as a record. -/
def toValue (chunk : StreamChunk) : Value :=
  .record [("content", .text chunk.content), ("done", .bool chunk.done),
    ("input_tokens", (chunk.inputTokens.map Value.int).getD .null),
    ("output_tokens", (chunk.outputTokens.map Value.int).getD .null)]

/-- Reads a chunk. -/
def read (v : Value) : Checked StreamChunk :=
  match Schema.record v with
  | .failed issues => .failed issues
  | .ok es =>
    StreamChunk.mk <$> Schema.optional es "content" Schema.text ""
      <*> Schema.optional es "done" Schema.bool false
      <*> Schema.optional es "input_tokens" (Schema.nullable Schema.int) none
      <*> Schema.optional es "output_tokens" (Schema.nullable Schema.int) none

end StreamChunk

end Orchestration
