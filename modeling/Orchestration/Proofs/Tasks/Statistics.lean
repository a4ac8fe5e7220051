import Orchestration.Proofs.Collections
import Orchestration.Statistics

/-!
# What the figures of agents say

The figures of an agent count its tasks (`Counts`). The statistics of a list of tasks tell of every
agent whether it has tasks among them, and if so, how many of each stage and label they are
(`tells_of_aggregate`); over all agents, they add up to the number of tasks (`sum_totalTasks`).

There are statistics exactly if it can be told how long each completed task has taken
(`aggregate_returns_iff`): one task of which this cannot be told leaves all agents without figures.
-/

namespace Orchestration

/-! ## Lists of results -/

section Results

variable {α β : Type}

/-- Steps that are filtered have results exactly if each of them has one. -/
theorem filterMapM_returns_iff {f : α → Except Fault (Option β)} {items : List α} :
    (∃ results, items.filterMapM f = .ok results) ↔
      ∀ item ∈ items, ∃ result, f item = .ok result := by
  induction items with
  | nil => exact iff_of_true ⟨[], rfl⟩ nofun
  | cons item rest ih =>
    rw [List.forall_mem_cons, ← ih, List.filterMapM_cons]
    constructor
    · rintro ⟨results, h⟩
      obtain ⟨first, hfirst, h⟩ := Fault.bind_eq_ok_iff.mp h
      cases first with
      | none => exact ⟨⟨none, hfirst⟩, results, h⟩
      | some result =>
        obtain ⟨others, hothers, -⟩ := Fault.bind_eq_ok_iff.mp h
        exact ⟨⟨some result, hfirst⟩, others, hothers⟩
    · rintro ⟨⟨first, hfirst⟩, others, hothers⟩
      rw [hfirst]
      cases first with
      | none => exact ⟨others, hothers⟩
      | some result =>
        refine ⟨result :: others, ?_⟩
        change (rest.filterMapM f >>= fun others => pure (result :: others)) = _
        rw [hothers]
        rfl

/-- A table of results has an entry for each key, and under it the result for that key. -/
theorem entries_of_mapM {f : String → Except Fault β} {keys : List String} {table : Table β}
    (h : keys.mapM (fun key => do return (key, ← f key)) = .ok table) :
    Table.keys table = keys ∧ ∀ entry ∈ table, f entry.1 = .ok entry.2 := by
  induction keys generalizing table with
  | nil =>
    cases h
    exact ⟨rfl, nofun⟩
  | cons key rest ih =>
    rw [List.mapM_cons] at h
    obtain ⟨first, hfirst, h⟩ := Fault.bind_eq_ok_iff.mp h
    obtain ⟨others, hothers, h⟩ := Fault.bind_eq_ok_iff.mp h
    obtain ⟨value, hvalue, hentry⟩ := Fault.bind_eq_ok_iff.mp hfirst
    cases h
    cases hentry
    obtain ⟨hkeys, hentries⟩ := ih hothers
    exact ⟨congrArg (key :: ·) hkeys, List.forall_mem_cons.mpr ⟨hvalue, hentries⟩⟩

end Results

/-- It can be told how long the task has taken, if it is complete. -/
def Task.Measurable (task : Task) : Prop :=
  ∀ completed ∈ task.completedAt, Moment.Comparable completed task.createdAt

instance (task : Task) : Decidable task.Measurable := by
  unfold Task.Measurable
  infer_instance

namespace AgentTaskStats

variable {δ : Type} {figures : AgentTaskStats δ} {stats : Table (AgentTaskStats δ)}
  {agentId : String} {tasks : List Task}

/-! ## Counts -/

/-- The figures are those of the agent, and count the tasks. -/
structure Counts (figures : AgentTaskStats δ) (agentId : String) (tasks : List Task) : Prop where
  agentId : figures.agentId = agentId
  totalTasks : figures.totalTasks = tasks.length
  completed : figures.completed = tasks.countP (·.status = .completed)
  failed : figures.failed = tasks.countP (·.status = .failed)
  inProgress : figures.inProgress =
    tasks.countP fun task => task.status = .pending ∨ task.status = .running
  /-- The labels that occur are listed with the number of their tasks, and no others. -/
  byType : ∀ label, Table.find? figures.byType label =
    if label ∈ tasks.map (·.label) then some ((tasks.map (·.label)).count label : Int) else none

/-- The order of the tasks does not matter. -/
theorem Counts.of_perm {others : List Task} (h : figures.Counts agentId tasks)
    (hperm : tasks.Perm others) : figures.Counts agentId others where
  agentId := h.agentId
  totalTasks := by rw [h.totalTasks, hperm.length_eq]
  completed := by rw [h.completed, hperm.countP_eq]
  failed := by rw [h.failed, hperm.countP_eq]
  inProgress := by rw [h.inProgress, hperm.countP_eq]
  byType label := by
    have hlabels : (tasks.map (·.label)).Perm (others.map (·.label)) := hperm.map _
    simp only [h.byType, hlabels.mem_iff, hlabels.count_eq]

theorem countStatus_pending_add_running (tasks : List Task) :
    countStatus tasks .pending + countStatus tasks .running =
      tasks.countP fun task => task.status = .pending ∨ task.status = .running := by
  unfold countStatus
  induction tasks with
  | nil => rfl
  | cons task rest ih =>
    simp only [List.countP_cons, ← ih]
    cases task.status <;> simp <;> omega

variable [Duration δ]

theorem counts_of_ofTasks (h : ofTasks agentId tasks = .ok figures) :
    figures.Counts agentId tasks := by
  obtain ⟨durations, -, h⟩ := Fault.bind_eq_ok_iff.mp h
  cases h
  refine ⟨rfl, rfl, rfl, rfl, ?_, fun label => ?_⟩
  · rw [← countStatus_pending_add_running]
    exact (Int.natCast_add _ _).symm
  · dsimp only
    rw [Table.find?_map, Table.find?_countAll]
    split <;> rfl

/-! ## When there are figures -/

theorem duration?_returns_iff {task : Task} :
    (∃ duration, (duration? task : Except Fault (Option δ)) = .ok duration) ↔ task.Measurable := by
  unfold duration? Task.Measurable
  cases task.completedAt with
  | none => exact iff_of_true ⟨none, rfl⟩ nofun
  | some completed =>
    dsimp only
    split
    next h => exact iff_of_true ⟨_, rfl⟩ fun _ heq => Option.some.inj heq ▸ h
    next h => exact iff_of_false nofun fun hmeasurable => h (hmeasurable completed rfl)

theorem ofTasks_returns_iff :
    (∃ figures : AgentTaskStats δ, ofTasks agentId tasks = .ok figures) ↔
      ∀ task ∈ tasks, task.Measurable := by
  have hdurations : (∃ durations, tasks.filterMapM (duration? (δ := δ)) = .ok durations) ↔
      ∀ task ∈ tasks, task.Measurable :=
    filterMapM_returns_iff.trans
      (forall_congr' fun task => imp_congr_right fun _ => duration?_returns_iff)
  rw [← hdurations]
  constructor
  · rintro ⟨figures, h⟩
    obtain ⟨durations, hok, -⟩ := Fault.bind_eq_ok_iff.mp h
    exact ⟨durations, hok⟩
  · rintro ⟨durations, hok⟩
    exact ⟨_, Fault.bind_eq_ok_iff.mpr ⟨durations, hok, rfl⟩⟩

omit [Duration δ] in
/-- The agents with figures are those to whom tasks belong. -/
theorem mem_agentIds : agentId ∈ agentIds tasks ↔ agentId ∈ tasks.map (·.agentId) :=
  Table.mem_keys_countAll

/-- There are statistics exactly if it can be told how long each of the tasks has taken. -/
theorem aggregate_returns_iff :
    (∃ stats : Table (AgentTaskStats δ), aggregate tasks = .ok stats) ↔
      ∀ task ∈ tasks, task.Measurable := by
  -- An agent has figures exactly if its own tasks can be measured.
  have hentry : ∀ agentId, (∃ entry : String × AgentTaskStats δ,
      (do return (agentId, ← ofTasks agentId (tasks.filter (·.agentId = agentId)))) = .ok entry) ↔
        ∀ task ∈ tasks, task.agentId = agentId → task.Measurable := by
    intro agentId
    have hfigures : (∃ figures : AgentTaskStats δ,
        ofTasks agentId (tasks.filter (·.agentId = agentId)) = .ok figures) ↔ _ :=
      ofTasks_returns_iff
    simp only [List.mem_filter, decide_eq_true_eq, and_imp] at hfigures
    rw [← hfigures]
    constructor
    · rintro ⟨entry, h⟩
      obtain ⟨figures, hok, -⟩ := Fault.bind_eq_ok_iff.mp h
      exact ⟨figures, hok⟩
    · rintro ⟨figures, hok⟩
      exact ⟨_, Fault.bind_eq_ok_iff.mpr ⟨figures, hok, rfl⟩⟩
  rw [aggregate, Fault.mapM_returns_iff]
  constructor
  · intro h task hmem
    have hid : task.agentId ∈ agentIds tasks := mem_agentIds.mpr (List.mem_map_of_mem hmem)
    exact (hentry _).mp (h _ hid) task hmem rfl
  · exact fun h agentId _ => (hentry agentId).mpr fun task hmem _ => h task hmem

/-! ## What statistics tell -/

/-- The statistics tell of the agent that these are its tasks: they have no figures for an agent
without tasks, and figures that count the tasks for any other one. -/
def Tells (stats : Table (AgentTaskStats δ)) (agentId : String) (tasks : List Task) : Prop :=
  match Table.find? stats agentId with
  | none => tasks = []
  | some figures => tasks ≠ [] ∧ figures.Counts agentId tasks

theorem entries_of_aggregate (h : aggregate tasks = .ok stats) :
    Table.keys stats = agentIds tasks ∧
      ∀ entry ∈ stats, entry.2.Counts entry.1 (tasks.filter (·.agentId = entry.1)) := by
  obtain ⟨hkeys, hentries⟩ := entries_of_mapM h
  exact ⟨hkeys, fun entry hmem => counts_of_ofTasks (hentries entry hmem)⟩

/-- **What is told of an agent.** Statistics tell of every agent which of the tasks belong to it. -/
theorem tells_of_aggregate (h : aggregate tasks = .ok stats) (agentId : String) :
    Tells stats agentId (tasks.filter (·.agentId = agentId)) := by
  obtain ⟨hkeys, hentries⟩ := entries_of_aggregate h
  have hsome : (Table.find? stats agentId).isSome ↔ ∃ task ∈ tasks, task.agentId = agentId := by
    rw [← Table.mem_keys_iff, hkeys, mem_agentIds, List.mem_map]
  unfold Tells
  cases hfind : Table.find? stats agentId with
  | none =>
    rw [hfind] at hsome
    exact List.filter_eq_nil_iff.mpr fun task hmem htask =>
      Bool.false_ne_true (hsome.mpr ⟨task, hmem, of_decide_eq_true htask⟩)
  | some figures =>
    rw [hfind] at hsome
    obtain ⟨task, hmem, htask⟩ := hsome.mp rfl
    refine ⟨List.ne_nil_of_mem (List.mem_filter.mpr ⟨hmem, decide_eq_true htask⟩), ?_⟩
    exact hentries (agentId, figures) (Table.mem_of_find? hfind)

/-- **The total.** Over all agents, the statistics count each of the tasks once. -/
theorem sum_totalTasks (h : aggregate tasks = .ok stats) :
    ((Table.values stats).map (·.totalTasks)).sum = tasks.length := by
  obtain ⟨hkeys, hentries⟩ := entries_of_aggregate h
  let owners := tasks.map (·.agentId)
  have hcount : ∀ entry ∈ stats, entry.2.totalTasks = (owners.count entry.1 : Int) := by
    intro entry hmem
    rw [(hentries entry hmem).totalTasks, ← List.countP_eq_length_filter, List.count,
      List.countP_map]
    rfl
  -- The agents with figures are the owners, so their totals are the counts of the owners.
  calc ((Table.values stats).map (·.totalTasks)).sum
      = (stats.map fun entry => (owners.count entry.1 : Int)).sum := by
        rw [Table.values, List.map_map]
        exact congrArg List.sum (List.map_congr_left hcount)
    _ = (((Table.keys stats).map owners.count).map (Nat.cast : Nat → Int)).sum := by
        rw [Table.keys, List.map_map, List.map_map]
        rfl
    _ = (((Table.keys stats).map owners.count).sum : Nat) := (Nat.cast_list_sum _).symm
    _ = ((Table.values (Table.countAll owners)).sum : Nat) := by
        rw [hkeys, agentIds, ← Table.values_countAll]
    _ = tasks.length := by rw [Table.sum_values_countAll, List.length_map]

end AgentTaskStats

end Orchestration
