import Orchestration.Inference

/-!
# A choice of backends

A backend that is one of two. It answers every call as the one that was chosen would.
-/

namespace Orchestration

namespace Answer

variable {σ σ' τ α : Type}

/-- The answer of a backend, with its state seen as that of another one. -/
def mapBackend (f : σ → σ') (answer : Answer σ τ α) : Answer σ' τ α :=
  ⟨f answer.backend, answer.effects, answer.value⟩

end Answer

instance {σ σ' τ : Type} [Backend σ τ] [Backend σ' τ] : Backend (σ ⊕ σ') τ where
  name
    | .inl b => Backend.name τ b
    | .inr b => Backend.name τ b
  generate
    | .inl b, s, context, model, prompt, options =>
      (Backend.generate b s context model prompt options).mapBackend .inl
    | .inr b, s, context, model, prompt, options =>
      (Backend.generate b s context model prompt options).mapBackend .inr
  chat
    | .inl b, s, context, model, turns, options =>
      (Backend.chat b s context model turns options).mapBackend .inl
    | .inr b, s, context, model, turns, options =>
      (Backend.chat b s context model turns options).mapBackend .inr
  embed
    | .inl b, s, context, model, text => (Backend.embed b s context model text).mapBackend .inl
    | .inr b, s, context, model, text => (Backend.embed b s context model text).mapBackend .inr

end Orchestration
