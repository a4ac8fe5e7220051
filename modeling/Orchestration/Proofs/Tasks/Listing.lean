import Orchestration.Engine.Requests
import Orchestration.Proofs.Collections
import Orchestration.Proofs.Tasks.Ownership
import Orchestration.Proofs.Tasks.Statistics

/-!
# Lists of the recorded tasks

Whoever lists the recorded tasks gets each of them once, the oldest first, and those of the same age
in the order in which they were recorded first (`OldestFirst`). But there is such a list only if the
times at which the tasks were created can be compared: as soon as one of them knows its offset and
another one does not, the tasks cannot be listed at all, and there are no statistics of them.

The main statement is `tasks_listed_iff`.
-/

namespace Orchestration

/-- The times at which the tasks were created can be compared with each other. -/
def OfOneSort (tasks : List Task) : Prop :=
  ∀ task ∈ tasks, ∀ other ∈ tasks, Moment.Comparable task.createdAt other.createdAt

instance (tasks : List Task) : Decidable (OfOneSort tasks) := by
  unfold OfOneSort
  infer_instance

/-- The second list has the tasks of the first one, from the oldest to the newest one; tasks of the
same age are in the same order. -/
structure OldestFirst (tasks sorted : List Task) : Prop where
  perm : sorted.Perm tasks
  ascending : sorted.Pairwise fun a b => a.createdAt.instant ≤ b.createdAt.instant
  ties : ∀ time, sorted.filter (·.createdAt.instant = time) =
    tasks.filter (·.createdAt.instant = time)

namespace TaskStore

/-! ## Sorting -/

/-- Times can be compared if all of them have a zone, or none has. -/
theorem allComparable_iff {tasks : List Task} : allComparable tasks ↔ OfOneSort tasks := by
  cases tasks with
  | nil => exact iff_of_true rfl nofun
  | cons first rest =>
    simp only [allComparable, List.all_eq_true, decide_eq_true_eq]
    constructor
    · intro h
      -- Whoever can be compared with the first one can be compared with all.
      have hfirst : ∀ task ∈ first :: rest, Moment.Comparable task.createdAt first.createdAt :=
        List.forall_mem_cons.mpr ⟨rfl, h⟩
      exact fun task hmem other hother => (hfirst task hmem).trans (hfirst other hother).symm
    · exact fun h task hmem => h task (List.mem_cons_of_mem _ hmem) first List.mem_cons_self

/-- Sorting by the instant puts the oldest tasks first. -/
theorem oldestFirst_mergeSort (tasks : List Task) :
    OldestFirst tasks
      (tasks.mergeSort fun a b => decide (a.createdAt.instant ≤ b.createdAt.instant)) := by
  obtain ⟨hperm, hascending, hties⟩ := sortedBy_mergeSort (·.createdAt.instant) tasks
  exact ⟨hperm, hascending, hties⟩

/-- Tasks are sorted if their times can be compared, and only then. -/
theorem oldestFirst_eq_ok_iff {tasks sorted : List Task} :
    oldestFirst tasks = .ok sorted ↔ OfOneSort tasks ∧
      sorted = tasks.mergeSort fun a b => decide (a.createdAt.instant ≤ b.createdAt.instant) := by
  rw [← allComparable_iff, oldestFirst]
  split
  next h => exact ⟨fun hok => ⟨h, (Except.ok.inj hok).symm⟩, fun hok => hok.2 ▸ rfl⟩
  next h => exact iff_of_false nofun fun hok => h hok.1

/-- A list that is given out is sorted. -/
theorem oldestFirst_of_ok {tasks sorted : List Task} (h : oldestFirst tasks = .ok sorted) :
    OldestFirst tasks sorted := by
  rw [(oldestFirst_eq_ok_iff.mp h).2]
  exact oldestFirst_mergeSort tasks

/-- There is a list exactly if the times can be compared. -/
theorem oldestFirst_returns_iff {tasks : List Task} :
    (∃ sorted, oldestFirst tasks = .ok sorted) ↔ OfOneSort tasks :=
  ⟨fun ⟨_, h⟩ => (oldestFirst_eq_ok_iff.mp h).1,
    fun h => ⟨_, oldestFirst_eq_ok_iff.mpr ⟨h, rfl⟩⟩⟩

theorem oldestFirst_nil : oldestFirst [] = .ok [] := by
  simp [oldestFirst, allComparable]

theorem oldestFirst_singleton (task : Task) : oldestFirst [task] = .ok [task] := by
  simp [oldestFirst, allComparable]

/-- The recorded tasks that a caller asks for: all of them, or those of one agent. -/
def matching (store : TaskStore) (agentId : Option String) : List Task :=
  store.recorded.filter fun task => agentId.all (task.agentId = ·)

theorem matching_none (store : TaskStore) : store.matching none = store.recorded :=
  List.filter_eq_self.mpr fun _ _ => rfl

end TaskStore

namespace Engine

variable {σ τ : Type} [Time τ] {w : World σ τ} {context : Option String}

/-! ## Requests -/

/-- The list is made of what is recorded, if the context allows it. -/
theorem outcomeOf_listTasks (agentId context : Option String) (w : World σ τ) :
    outcomeOf (listTasks agentId context) w = (do
      w.surroundings.check context none
      TaskStore.oldestFirst (w.tasks.matching agentId)) := by
  rw [listTasks, outcomeOf_bind, run_check, run_lift]
  cases w.surroundings.check context none with
  | error fault => rfl
  | ok =>
    change outcomeOf (lift (w.tasks.list agentId)) w = w.tasks.list agentId
    rw [outcomeOf, run_lift]
    cases w.tasks.list agentId <;> rfl

/-- The figures are made of what is recorded, if the context allows it. -/
theorem outcomeOf_taskStats {δ : Type} [Duration δ] (context : Option String) (w : World σ τ) :
    outcomeOf (taskStats (δ := δ) context) w = (do
      w.surroundings.check context none
      AgentTaskStats.aggregate (← TaskStore.oldestFirst w.tasks.recorded)) := by
  rw [taskStats, outcomeOf_bind, run_check, run_lift]
  cases w.surroundings.check context none with
  | error fault => rfl
  | ok =>
    rw [← TaskStore.matching_none]
    change outcomeOf (lift (w.tasks.list none) >>= fun tasks =>
      lift (AgentTaskStats.aggregate tasks)) w = w.tasks.list none >>= AgentTaskStats.aggregate
    rw [outcomeOf_bind, run_lift]
    cases w.tasks.list none with
    | error fault => rfl
    | ok tasks =>
      change outcomeOf (lift (AgentTaskStats.aggregate tasks)) w = AgentTaskStats.aggregate tasks
      rw [outcomeOf, run_lift]
      cases AgentTaskStats.aggregate (δ := δ) tasks <;> rfl

/-- Callers whose request is admitted get a list exactly if the tasks can be compared. -/
theorem listTasks_returns_iff (hopen : w.surroundings.check context none = .ok ())
    (agentId : Option String) :
    (∃ tasks, outcomeOf (listTasks agentId context) w = .ok tasks) ↔
      OfOneSort (w.tasks.matching agentId) := by
  rw [outcomeOf_listTasks, hopen]
  exact TaskStore.oldestFirst_returns_iff

/-- What is listed is the matching tasks, the oldest first. -/
theorem oldestFirst_of_listTasks {agentId : Option String} {tasks : List Task}
    (h : outcomeOf (listTasks agentId context) w = .ok tasks) :
    OldestFirst (w.tasks.matching agentId) tasks := by
  rw [outcomeOf_listTasks] at h
  obtain ⟨-, -, h⟩ := Fault.bind_eq_ok_iff.mp h
  exact TaskStore.oldestFirst_of_ok h

section

variable {δ : Type} [Duration δ]

/-- Callers whose request is admitted get statistics exactly if the tasks can be compared, and it
can be told how long each of them has taken. -/
theorem taskStats_returns_iff (hopen : w.surroundings.check context none = .ok ()) :
    (∃ stats, outcomeOf (taskStats (δ := δ) context) w = .ok stats) ↔
      OfOneSort w.tasks.recorded ∧ ∀ task ∈ w.tasks.recorded, task.Measurable := by
  rw [outcomeOf_taskStats, hopen]
  constructor
  · rintro ⟨stats, h⟩
    obtain ⟨-, -, h⟩ := Fault.bind_eq_ok_iff.mp h
    obtain ⟨sorted, hsorted, hstats⟩ := Fault.bind_eq_ok_iff.mp h
    have hmeasurable := AgentTaskStats.aggregate_returns_iff.mp ⟨stats, hstats⟩
    refine ⟨TaskStore.oldestFirst_returns_iff.mp ⟨sorted, hsorted⟩, fun task hmem => ?_⟩
    exact hmeasurable task ((TaskStore.oldestFirst_of_ok hsorted).perm.mem_iff.mpr hmem)
  · rintro ⟨hsort, hmeasurable⟩
    obtain ⟨sorted, hsorted⟩ := TaskStore.oldestFirst_returns_iff.mpr hsort
    obtain ⟨stats, hstats⟩ := (AgentTaskStats.aggregate_returns_iff (δ := δ)).mpr
      fun task hmem => hmeasurable task ((TaskStore.oldestFirst_of_ok hsorted).perm.subset hmem)
    have hboth := Fault.bind_eq_ok_iff.mpr ⟨sorted, hsorted, hstats⟩
    exact ⟨stats, Fault.bind_eq_ok_iff.mpr ⟨(), rfl, hboth⟩⟩

/-- Statistics are those of the recorded tasks. -/
theorem aggregate_of_taskStats {stats : Table (AgentTaskStats δ)}
    (h : outcomeOf (taskStats context) w = .ok stats) :
    ∃ sorted, sorted.Perm w.tasks.recorded ∧ AgentTaskStats.aggregate sorted = .ok stats := by
  rw [outcomeOf_taskStats] at h
  obtain ⟨-, -, h⟩ := Fault.bind_eq_ok_iff.mp h
  obtain ⟨sorted, hsorted, hstats⟩ := Fault.bind_eq_ok_iff.mp h
  exact ⟨sorted, (TaskStore.oldestFirst_of_ok hsorted).perm, hstats⟩

end

/-! ## The main statement -/

/-- **When tasks are listed.** In every run, no id is recorded twice, ids keep the places at which
they were recorded first, and each recorded task is kept under its own id, if nothing was carried
out that is no task. Callers whose request is admitted get a list exactly if the tasks that they
ask for can be compared; then it has each of these tasks once, the oldest first, and ties in the
order of the record. They get statistics exactly if all recorded tasks can be compared and it can
be told how long each of them has taken; then the totals of the agents add up to the number of
recorded tasks. -/
theorem tasks_listed_iff [Backend σ τ] {δ : Type} [Duration δ] (hreachable : Reachable w)
    (hopen : w.surroundings.check context none = .ok ()) :
    (Table.keys w.tasks.index).Nodup ∧
      (∀ w', Reaches w w' → Table.keys w.tasks.index <+: Table.keys w'.tasks.index) ∧
      (∀ fresh log, Fresh fresh → Logged fresh log w → (∀ ref, .stray ref ∉ log) →
        w.tasks.recorded.map Task.id = Table.keys w.tasks.index) ∧
      (∀ agentId,
        ((∃ tasks, outcomeOf (listTasks agentId context) w = .ok tasks) ↔
          OfOneSort (w.tasks.matching agentId)) ∧
        ∀ tasks, outcomeOf (listTasks agentId context) w = .ok tasks →
          OldestFirst (w.tasks.matching agentId) tasks) ∧
      ((∃ stats, outcomeOf (taskStats (δ := δ) context) w = .ok stats) ↔
        OfOneSort w.tasks.recorded ∧ ∀ task ∈ w.tasks.recorded, task.Measurable) ∧
      ∀ stats, outcomeOf (taskStats (δ := δ) context) w = .ok stats →
        ((Table.values stats).map (·.totalTasks)).sum = w.tasks.recorded.length := by
  refine ⟨hreachable.nodup_index, fun w' hlater => hlater.indexGrows.order, ?_, fun agentId => ?_,
    taskStats_returns_iff hopen, fun stats hstats => ?_⟩
  · intro fresh log hfresh hlogged hnone
    have hkept : fresh.tasks.KeptUnderIds := by
      rw [hfresh.tasks]
      exact nofun
    exact (hlogged.keptUnderIds hnone hkept).map_id_recorded
  · exact ⟨listTasks_returns_iff hopen agentId, fun tasks => oldestFirst_of_listTasks⟩
  · obtain ⟨sorted, hperm, haggregate⟩ := aggregate_of_taskStats hstats
    rw [AgentTaskStats.sum_totalTasks haggregate, hperm.length_eq]

/-- An agent carries out two tasks. The clock by which the first one was created has the given
offset, the clock of the second one shows universal time. -/
def filings (offset : Option Int) : List (Event (Scripted.Script Rat) Rat) :=
  [.makeAgent { id := "al" },
    .createAgent ⟨0⟩ none,
    .makeTask { id := "old", createdAt := ⟨0, offset⟩ },
    .executeTask "al" ⟨0⟩ none,
    .makeTask { id := "new", createdAt := .utc 1 },
    .executeTask "al" ⟨1⟩ none]

/-- The tasks of the example are executed one after the other. -/
theorem reachable_filings (offset : Option Int) : Reachable (after quietEngine (filings offset)) :=
  ⟨quietEngine, fresh_quietEngine,
    reaches_after ⟨trivial, Nat.zero_lt_one, trivial, trivial, trivial, trivial, trivial⟩⟩

/-- If both offsets are known, both tasks are listed and counted. -/
theorem tasks_listed_filings :
    let w := after quietEngine (filings (some 0))
    Reachable w ∧ w.tasks.recorded.map Task.id = ["old", "new"] ∧
      (∃ tasks, outcomeOf (listTasks none none) w = .ok tasks ∧
        OldestFirst (w.tasks.matching none) tasks) ∧
      ∃ stats, outcomeOf (taskStats (δ := Rat) none) w = .ok stats ∧
        ((Table.values stats).map (·.totalTasks)).sum = 2 := by
  intro w
  have hreachable : Reachable w := reachable_filings (some 0)
  have hopen : w.surroundings.check none none = .ok () := rfl
  have hsort : OfOneSort w.tasks.recorded := by decide
  have hmeasurable : ∀ task ∈ w.tasks.recorded, task.Measurable := by decide
  obtain ⟨-, -, -, hlists, hstats, htotals⟩ := tasks_listed_iff (δ := Rat) hreachable hopen
  obtain ⟨hlist, hsorted⟩ := hlists none
  obtain ⟨tasks, htasks⟩ := hlist.mpr (TaskStore.matching_none _ ▸ hsort)
  obtain ⟨stats, hok⟩ := hstats.mpr ⟨hsort, hmeasurable⟩
  exact ⟨hreachable, rfl, ⟨tasks, htasks, hsorted tasks htasks⟩, stats, hok, htotals stats hok⟩

/-- If the offset of the first clock is unknown, the tasks can no longer be listed, and nobody gets
statistics. -/
theorem tasks_unlisted_filings :
    let w := after quietEngine (filings none)
    let fault := Fault.wrongType "can't compare offset-naive and offset-aware datetimes"
    Reachable w ∧ w.tasks.recorded.map Task.id = ["old", "new"] ∧
      w.surroundings.check none none = .ok () ∧
      outcomeOf (listTasks none none) w = .error fault ∧
      outcomeOf (listTasks (some "al") none) w = .error fault ∧
      outcomeOf (taskStats (δ := Rat) none) w = .error fault :=
  ⟨reachable_filings none, rfl, rfl, rfl, rfl, rfl⟩

end Engine

end Orchestration
