import Orchestration.CallContext.Description
import Orchestration.Fault.Description
import Orchestration.Inference.Adapter
import Orchestration.Inference.Scripted

/-!
# Descriptions of scripted backends

A scripted backend, or the replies of a service behind the adapter, as data. Times are numbers of
seconds. A reply of a scripted backend is a text, or a mapping for a reply in stages. The replies of
a service are given for each operation in order, and the last one of them repeats.
-/

namespace Orchestration

namespace Scripted

/-- What happens at a chunk: it is made, and time passes after it was consumed. -/
def eventsOf (chunk : Value) : List (StreamEvent Number) :=
  .chunk ((StreamChunk.read chunk).orFault "StreamChunk") ::
    ((chunk.secondsAt? "advance").map fun time => .effect (.pass time)).toList

/-- The reply that a description means. -/
def Reply.described (v : Value) : Reply Number :=
  match v with
  | .text reply => .text reply
  | v => .staged {
      opening := ((v.secondsAt? "advance").map Effect.pass).toList ++
        ((v.textAt? "cancel").map Effect.cancel).toList
      refusal := (v.field? "error_first").map Fault.described
      stream := (v.itemsAt "chunks").flatMap eventsOf
      failure := (v.field? "error").map Fault.described
      embedding := v.field? "embedding" }

/-- The scripted backend that a description means. -/
def Script.described (v : Value) : Script Number :=
  let standard : Script Number := {}
  { rules := (v.fieldsAt "rules").map fun (prompt, reply) => (prompt, .described reply)
    default := ((v.field? "default").map Reply.described).getD standard.default
    embedding := (v.field? "embedding").getD standard.embedding }

end Scripted

/-- The part of a reply that a description means. -/
def ServicePart.described (v : Value) : ServicePart Number :=
  match v.secondsAt? "$advance", v.field? "$cancel", v.field? "$raise" with
  | some time, _, _ => .pass time
  | none, some _, _ => .cancel
  | none, none, some fault => .fail (.described fault)
  | none, none, none => .data v

/-- The reply of a service that a description means. -/
def ServiceReply.described (v : Value) : ServiceReply Number where
  delay := v.secondsAt? "advance"
  failure := (v.field? "error").map Fault.described
  parts := (v.itemsAt "parts").map ServicePart.described
  response := (v.field? "response").getD (.map [])

/-- The reply of a described service to a request. -/
def ServiceReply.ofScript (script : Value) (earlier : List ServiceRequest)
    (request : ServiceRequest) : ServiceReply Number :=
  let replies := script.itemsAt request.operation
  let position := earlier.countP (·.operation = request.operation)
  described ((replies[position]? <|> replies.getLast?).getD (.map []))

end Orchestration
