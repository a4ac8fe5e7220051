import Orchestration.Proofs.Tasks.Listing

/-!
# Whose tasks are listed and counted

Whatever operations have carried tasks out, and however often, lists and statistics go by the same
owners: those that the log of the run tells (`ownerIn`). The list of an agent has the recorded tasks
that belong to it, and the figures of the agent count these. An agent that has only carried out a
task of somebody else has no part in either, even if nobody has carried it out since.

The main statement is `attributed_to_owners`.
-/

namespace Orchestration

/-- The recorded tasks that belong to an agent according to a log. -/
def TaskStore.ownedIn (store : TaskStore) (log : List TaskEntry) (agentId : String) : List Task :=
  ((Table.values store.index).filter fun ref => ownerIn log ref = agentId).map store.task

/-- The order of the tasks does not matter to what is told of their agent. -/
theorem AgentTaskStats.Tells.of_perm {δ : Type} {stats : Table (AgentTaskStats δ)}
    {agentId : String} {tasks others : List Task} (h : Tells stats agentId tasks)
    (hperm : tasks.Perm others) : Tells stats agentId others := by
  unfold Tells at h ⊢
  cases hfind : Table.find? stats agentId with
  | none =>
    rw [hfind] at h
    exact (h ▸ hperm).nil_eq.symm
  | some figures =>
    rw [hfind] at h
    obtain ⟨hne, hcounts⟩ := h
    exact ⟨fun hnil => hne (hnil ▸ hperm).eq_nil, hcounts.of_perm hperm⟩

namespace Engine

variable {σ τ : Type} [Time τ] [Backend σ τ] {fresh w : World σ τ}

/-- The tasks that callers get for an agent are those that belong to it. -/
theorem Logged.matching_eq {log : List TaskEntry} (hfresh : Fresh fresh) (h : Logged fresh log w)
    (agentId : String) : w.tasks.matching (some agentId) = w.tasks.ownedIn log agentId := by
  rw [TaskStore.matching, TaskStore.recorded, List.filter_map, TaskStore.ownedIn]
  congr 1
  refine List.filter_congr fun ref _ => ?_
  simp [h.agentId_of_fresh hfresh ref]

/-- **Lists and statistics go by owners.** Every run has a log, and according to any log of it, the
list of an agent has exactly the recorded tasks that belong to the agent, and the statistics tell of
the agent that these are its tasks. Callers whose request is admitted get the list exactly if these
tasks can be compared, and the statistics exactly if all recorded tasks can be compared and it can
be told how long each of them has taken. -/
theorem attributed_to_owners {δ : Type} [Duration δ] (hfresh : Fresh fresh)
    (hrun : Reaches fresh w) :
    (∃ log, Logged fresh log w) ∧
      ∀ log, Logged fresh log w → ∀ agentId context,
        let owned := w.tasks.ownedIn log agentId
        let admitted := w.surroundings.check context none = .ok ()
        (∀ tasks, outcomeOf (listTasks (some agentId) context) w = .ok tasks →
          OldestFirst owned tasks) ∧
        (admitted → ((∃ tasks, outcomeOf (listTasks (some agentId) context) w = .ok tasks) ↔
          OfOneSort owned)) ∧
        (∀ stats, outcomeOf (taskStats (δ := δ) context) w = .ok stats →
          AgentTaskStats.Tells stats agentId owned) ∧
        (admitted → ((∃ stats, outcomeOf (taskStats (δ := δ) context) w = .ok stats) ↔
          OfOneSort w.tasks.recorded ∧ ∀ task ∈ w.tasks.recorded, task.Measurable)) := by
  refine ⟨hrun.logged, fun log hlogged agentId context => ?_⟩
  rw [← hlogged.matching_eq hfresh agentId]
  refine ⟨fun tasks => oldestFirst_of_listTasks, fun hopen => listTasks_returns_iff hopen _,
    fun stats hstats => ?_, taskStats_returns_iff⟩
  obtain ⟨sorted, hperm, haggregate⟩ := aggregate_of_taskStats hstats
  exact (AgentTaskStats.tells_of_aggregate haggregate agentId).of_perm (hperm.filter _)

/-! ## A task that is passed on -/

/-- Two agents are registered, and a task is made for neither of them. -/
def unassigned : List (Event (Scripted.Script Rat) Rat) :=
  [.makeAgent { id := "al" }, .createAgent ⟨0⟩ none,
    .makeAgent { id := "bo" }, .createAgent ⟨1⟩ none,
    .makeTask { id := "r", createdAt := .utc 0 }]

/-- The first agent carries the task out, and then the second agent carries it out again. -/
def passedOn : List (Event (Scripted.Script Rat) Rat) :=
  unassigned ++ [.executeTask "al" ⟨0⟩ none, .executeTask "bo" ⟨0⟩ none]

theorem reaches_unassigned : Reaches quietEngine (after quietEngine unassigned) :=
  reaches_after ⟨trivial, Nat.zero_lt_one, trivial, Nat.one_lt_two, trivial, trivial⟩

theorem reaches_passedOn : Reaches quietEngine (after quietEngine passedOn) := by
  rw [passedOn, after_append]
  exact reaches_unassigned.trans (reaches_after ⟨trivial, trivial, trivial⟩)

/-- What happens to the task. -/
def passedOnLog : List TaskEntry :=
  [.made ⟨0⟩ "", .executed ⟨0⟩ "al", .executed ⟨0⟩ "bo"]

theorem logged_unassigned : Logged quietEngine [.made ⟨0⟩ ""] (after quietEngine unassigned) := by
  have hprepared : Logged quietEngine [] (after quietEngine (unassigned.take 4)) := .same rfl
  have htask : (after quietEngine unassigned).tasks =
      (after quietEngine (unassigned.take 4)).tasks.add { id := "r", createdAt := .utc 0 } := rfl
  exact hprepared.append (.made htask)

theorem logged_passedOn : Logged quietEngine passedOnLog (after quietEngine passedOn) := by
  have horder : (after quietEngine unassigned).agents.InOrder :=
    Reachable.consistent ⟨quietEngine, fresh_quietEngine, reaches_unassigned⟩ |>.agents
  have hal : (after quietEngine unassigned).agents.find? "al" = some ⟨0⟩ := rfl
  have hbo : (after quietEngine unassigned).agents.find? "bo" = some ⟨1⟩ := rfl
  have hlive : (after quietEngine unassigned).tasks.live.Has ⟨0⟩ := Nat.zero_lt_one
  have hfirst := logged_unassigned.executeTask horder hal hlive none
  -- The first execution has left the register and the number of tasks as they were.
  have hexecuted := executed ⟨0⟩ ⟨0⟩ none true (after quietEngine unassigned)
  rw [← worldAfter_executeTask hal] at hexecuted
  have hagents := hexecuted.books.agents
  have hsecond := hfirst.executeTask (hagents.inOrder horder) ((hagents.find? "bo").trans hbo)
    (hexecuted.has hlive) none
  rw [passedOn, after_append]
  exact hsecond

/-- The task belongs to the first agent, which alone has it in its list and in its figures. -/
theorem attributed_to_owners_passedOn :
    let w := after quietEngine passedOn
    ownerIn passedOnLog ⟨0⟩ = "al" ∧
      (∃ tasks, outcomeOf (listTasks (some "al") none) w = .ok tasks ∧
        OldestFirst (w.tasks.ownedIn passedOnLog "al") tasks) ∧
      ∃ stats, outcomeOf (taskStats (δ := Rat) none) w = .ok stats ∧
        AgentTaskStats.Tells stats "al" (w.tasks.ownedIn passedOnLog "al") := by
  intro w
  obtain ⟨-, hlogs⟩ := attributed_to_owners (δ := Rat) fresh_quietEngine reaches_passedOn
  obtain ⟨hsorted, hlist, htells, hstats⟩ := hlogs passedOnLog logged_passedOn "al" none
  obtain ⟨tasks, htasks⟩ := (hlist rfl).mpr (by decide)
  obtain ⟨stats, hok⟩ := (hstats rfl).mpr ⟨by decide, by decide⟩
  exact ⟨rfl, ⟨tasks, htasks, hsorted tasks htasks⟩, stats, hok, htells stats hok⟩

/-- The second agent has carried the task out last, but it has nothing in its list, and there are no
figures of it. -/
theorem not_attributed_to_latest_passedOn :
    let w := after quietEngine passedOn
    Fresh quietEngine ∧ Reaches quietEngine w ∧ Logged quietEngine passedOnLog w ∧
      Table.values w.tasks.index = [⟨0⟩] ∧ latestIn passedOnLog ⟨0⟩ = some "bo" ∧
      outcomeOf (listTasks (some "bo") none) w = .ok [] ∧
      (∃ task, outcomeOf (listTasks (some "al") none) w = .ok [task] ∧ task.id = "r") ∧
      ∃ stats, outcomeOf (taskStats (δ := Rat) none) w = .ok stats ∧
        Table.find? stats "bo" = none := by
  intro w
  refine ⟨fresh_quietEngine, reaches_passedOn, logged_passedOn, rfl, rfl, ?_, ?_, ?_⟩
  · rw [outcomeOf_listTasks]
    exact TaskStore.oldestFirst_nil
  · rw [outcomeOf_listTasks]
    exact ⟨_, TaskStore.oldestFirst_singleton _, rfl⟩
  · rw [outcomeOf_taskStats]
    exact ⟨_, Fault.bind_eq_ok_iff.mpr ⟨(), rfl, Fault.bind_eq_ok_iff.mpr
      ⟨_, TaskStore.oldestFirst_singleton _, rfl⟩⟩, rfl⟩

end Engine

end Orchestration
