import Orchestration.Call
import Orchestration.Surroundings

/-!
# Inference

What the engine asks of an inference backend. A backend has a state, answers a call for a prompt or
a chat with a stream of chunks and a call for an embedding with a vector, and may have effects on
its surroundings while it does so. A stream ends of its own, by a fault, or because the context of
the call says stop; backends look at the context before each chunk.
-/

namespace Orchestration

/-- A stream that was consumed: the chunks that arrived, and the fault that ended it. -/
structure Delivery where
  chunks : List StreamChunk := []
  fault : Option Fault := none

/-- How a call for a stream came out. -/
inductive StreamReply where
  /-- The call itself failed, and there was no stream. -/
  | refused (fault : Fault)
  | delivered (delivery : Delivery)

/-- What a call to a backend has led to. -/
structure Answer (σ τ α : Type) where
  /-- The state of the backend after the call. -/
  backend : σ
  /-- What the backend did to its surroundings, in order. -/
  effects : List (Effect τ)
  value : α

/-- States of inference backends. -/
class Backend (σ τ : Type) where
  /-- The name of the provider. -/
  name : σ → String
  /-- Continues a prompt. -/
  generate : σ → Surroundings τ → (context : Option String) → (model prompt : String) →
    Option Options → Answer σ τ StreamReply
  /-- Answers a chat. -/
  chat : σ → Surroundings τ → (context : Option String) → (model : String) →
    List ChatMessage → Option Options → Answer σ τ StreamReply
  /-- Gives the embedding of a text. -/
  embed : σ → Surroundings τ → (context : Option String) → (model text : String) →
    Answer σ τ (Except Fault Value)

/-- What happens while a stream is consumed. -/
inductive StreamEvent (τ : Type) where
  | effect (effect : Effect τ)
  /-- A chunk is made, and delivered if that succeeds, unless the context says stop. -/
  | chunk (made : Except Fault StreamChunk)
  | fail (fault : Fault)

namespace StreamEvent

variable {τ : Type} [Time τ]

/-- Whether a consumer who wants at most `limit` chunks wants another one. -/
def exhausted (limit : Option Nat) : Bool :=
  limit = some 0

/-- Consumes a stream up to its end, or until `limit` chunks have arrived. -/
def consume (s : Surroundings τ) (context : Option String) (limit : Option Nat) :
    List (StreamEvent τ) → Delivery × List (Effect τ)
  | [] => ({}, [])
  | event :: rest =>
    if exhausted limit then ({}, [])
    else match event with
      | .effect e =>
        let (delivery, effects) := consume (s.apply e) context limit rest
        (delivery, e :: effects)
      | .chunk made =>
        -- The context is looked at before the chunk is made.
        match s.check context none >>= fun _ => made with
        | .error fault => ({ fault := some fault }, [])
        | .ok next =>
          let (delivery, effects) := consume s context (limit.map (· - 1)) rest
          ({ delivery with chunks := next :: delivery.chunks }, effects)
      | .fail fault => ({ fault := some fault }, [])

end StreamEvent

end Orchestration
