import Orchestration.Proofs.Conversation.Delegation
import Orchestration.Proofs.Interaction
import Orchestration.Proofs.Memory

/-!
# Who remembers a delegated task

A worker carries its task out with the agent that it was started for, and that agent remembers the
interaction of the task. Whoever is registered under the id of that agent when the worker runs
remembers it only if it is still the same agent: an update in between may have put another one in
its place, and then the interaction goes to the one that was replaced.

The main statement is `recollection_of_worker`.
-/

namespace Orchestration

/-- The agent has the interaction of the entry in its memory and in its context window. -/
def Agent.Remembers (agent : Agent) (item : ContextItem) : Prop :=
  ∃ state, agent.state = some state ∧ Table.find? state.memory item.key = some item.value ∧
    item ∈ state.context

/-- What was recorded is remembered. -/
theorem Agent.remembers_record (agent : Agent) (now : Moment) (interaction : Interaction) :
    (agent.record now interaction.key interaction.value).Remembers (interaction.item now) :=
  ⟨_, rfl, Table.find?_insert_self _ _ _, AgentState.mem_window_concat _ _⟩

namespace Engine

variable {σ τ : Type} [Time τ] [Backend σ τ]

/-- **Who remembers a delegated task.** When a worker has carried its task out, the agent that it
was started for remembers the interaction of the task, and no other agent has changed. So whoever is
registered under the id of the receiver remembers it exactly if it is the agent that the worker was
started for, unless it remembered the same before. -/
theorem recollection_of_worker {w w₁ : World σ τ} (hreachable : Reachable w) {position : Nat}
    {delegation : Delegation} (hworker : w.workers[position]? = some delegation)
    {stored : Ref Agent} (hstored : w.agents.find? delegation.message.toAgent = some stored)
    {result : TaskResult}
    (hrun : (execute delegation.task delegation.receiver none true).run
      (dequeued w position delegation) = .ok result w₁)
    {interaction : Interaction}
    (hinteraction : interactionOf w.registry (w.tasks.task delegation.task) result.output =
      some interaction) :
    let item := interaction.item w.surroundings.clock.now
    w₁.agents.find? delegation.message.toAgent = some stored ∧
      (w₁.agents.agent delegation.receiver).Remembers item ∧
      (∀ other, other ≠ delegation.receiver → w₁.agents.agent other = w.agents.agent other) ∧
      ((w₁.agents.agent stored).Remembers item ↔
        stored = delegation.receiver ∨ (w.agents.agent stored).Remembers item) := by
  intro item
  have hqueued := hreachable.consistent.workers delegation (List.mem_of_getElem? hworker)
  have hregister : w₁.agents.find? delegation.message.toAgent = some stored := by
    rw [(executed_of_run_ok hrun).books.agents.find?]
    exact hstored
  -- Leaving the queue has not touched the agents, so the execution starts with those of `w`.
  have hleaves := agents_execute delegation.task delegation.receiver none true
    (dequeued w position delegation)
  obtain ⟨houtcome, hworld⟩ := run_eq_ok_iff.mp hrun
  rw [Leaves, houtcome, hworld] at hleaves
  have hagents : w₁.agents = w.agents.record delegation.receiver w.surroundings.clock.now
      interaction.key interaction.value := by
    cases hleaves with
    | returned _ hagents =>
      rw [hagents]
      show remembering _ _ _ (interactionOf w.registry (w.tasks.task delegation.task) _) = _
      rw [hinteraction]
      rfl
  have hothers : ∀ other, other ≠ delegation.receiver →
      w₁.agents.agent other = w.agents.agent other := by
    intro other hother
    rw [hagents]
    exact Live.get_set_of_ne _ _ hother
  have hreceiver : (w₁.agents.agent delegation.receiver).Remembers item := by
    have hself : w₁.agents.agent delegation.receiver =
        (w.agents.agent delegation.receiver).record w.surroundings.clock.now interaction.key
          interaction.value := by
      rw [hagents]
      exact Live.get_set_self _ _ hqueued.receiver
    rw [hself]
    exact Agent.remembers_record _ _ _
  refine ⟨hregister, hreceiver, hothers, ?_⟩
  by_cases hsame : stored = delegation.receiver
  · rw [hsame]
    exact iff_of_true hreceiver (.inl rfl)
  · rw [hothers stored hsame, or_iff_right hsame]

/-- The helper itself is still registered when its worker runs, and remembers the task. -/
theorem recollection_of_worker_firstDelegation :
    let w := after quietEngine firstDelegation
    Reachable w ∧ ∃ delegation result w₁, w.workers[0]? = some delegation ∧
      w.agents.find? delegation.message.toAgent = some ⟨0⟩ ∧
      (execute delegation.task delegation.receiver none true).run (dequeued w 0 delegation) =
        .ok result w₁ ∧
      (w₁.agents.agent ⟨0⟩).Remembers ⟨"custom_task", .text "", w.surroundings.clock.now, 1.0⟩ := by
  intro w
  have hadmissible : AdmissibleFrom quietEngine firstDelegation :=
    ⟨trivial, Nat.zero_lt_one, trivial, trivial, trivial, trivial⟩
  have hreachable : Reachable w := ⟨quietEngine, fresh_quietEngine, reaches_after hadmissible⟩
  obtain ⟨delegation, hworker, hstored, hreceiver, result, w₁, hrun, hinteraction⟩ :
      ∃ delegation, w.workers[0]? = some delegation ∧
        w.agents.find? delegation.message.toAgent = some ⟨0⟩ ∧ ⟨0⟩ = delegation.receiver ∧
        ∃ result w₁, (execute delegation.task delegation.receiver none true).run
            (dequeued w 0 delegation) = .ok result w₁ ∧
          interactionOf w.registry (w.tasks.task delegation.task) result.output =
            some ⟨"custom_task", .text ""⟩ := ⟨_, rfl, rfl, rfl, _, _, rfl, rfl⟩
  obtain ⟨-, -, -, hremembers⟩ :=
    recollection_of_worker hreachable hworker hstored hrun hinteraction
  exact ⟨hreachable, delegation, result, w₁, hworker, hstored, hrun,
    hremembers.mpr (.inl hreceiver)⟩

/-- The first delegation, and then another agent is put in the place of the helper before the worker
runs. -/
def helperReplaced : List (Event (Scripted.Script Rat) Rat) :=
  firstDelegation ++ [.makeAgent { id := "helper", name := "New helper" }, .updateAgent ⟨1⟩ none]

/-- The agent that has taken the place of the helper knows nothing of the task. -/
theorem forgotten_helperReplaced :
    let w := after quietEngine helperReplaced
    Reachable w ∧ ∃ delegation stored result w₁ interaction,
      w.workers[0]? = some delegation ∧
      w.agents.find? delegation.message.toAgent = some stored ∧
      (execute delegation.task delegation.receiver none true).run (dequeued w 0 delegation) =
        .ok result w₁ ∧
      interactionOf w.registry (w.tasks.task delegation.task) result.output = some interaction ∧
      w₁.agents.find? delegation.message.toAgent = some stored ∧
      ¬ (w₁.agents.agent stored).Remembers (interaction.item w.surroundings.clock.now) := by
  intro w
  have hadmissible : AdmissibleFrom quietEngine helperReplaced :=
    ⟨trivial, Nat.zero_lt_one, trivial, trivial, trivial, trivial, Nat.one_lt_two, trivial⟩
  have hreachable : Reachable w := ⟨quietEngine, fresh_quietEngine, reaches_after hadmissible⟩
  refine ⟨hreachable, _, ⟨1⟩, _, _, ⟨"custom_task", .text ""⟩, rfl, rfl, rfl, rfl, rfl, ?_⟩
  rintro ⟨state, hstate, hmemory, -⟩
  -- Its state was made by the update, after the message had been sent.
  cases hstate
  cases hmemory

end Engine

end Orchestration
