import Mathlib.Algebra.Order.BigOperators.Group.List
import Mathlib.Algebra.Order.Field.Basic
import Mathlib.Algebra.Order.Ring.Rat
import Mathlib.Order.Bounds.Basic
import Mathlib.Tactic.Linarith
import Mathlib.Tactic.Positivity
import Orchestration.Proofs.Tasks.Statistics

/-!
# Statistics conserve tasks

Statistics neither lose a task nor count one twice. Each agent with tasks has figures, and none
without; its tasks are the sum of those at each stage and of those with each label. Statistics of
two lists put together are the sums of the statistics of both (`told_append`), and the order of the
tasks does not matter (`SameFigures`).

With exact numbers, the mean duration is what it should be: times the number of durations it is
their sum, and no more than the longest of them (`Conserves`).

The main statement is `statistics_conserved`.
-/

namespace Orchestration

/-- How many milliseconds the task took, if it has a time of completion. -/
def Task.millis? (task : Task) : Option ℚ :=
  task.completedAt.map fun completed => (Moment.elapsed task.createdAt completed : ℚ) / 1000

/-- Steps that all have results give the ones that are there. -/
theorem filterMapM_eq_ok {α β : Type} {f : α → Except Fault (Option β)} {g : α → Option β}
    {items : List α} (h : ∀ item ∈ items, f item = .ok (g item)) :
    items.filterMapM f = .ok (items.filterMap g) := by
  induction items with
  | nil => rfl
  | cons item rest ih =>
    obtain ⟨hitem, hrest⟩ := List.forall_mem_cons.mp h
    rw [List.filterMapM_cons, hitem, List.filterMap_cons]
    cases g item with
    | none => exact ih hrest
    | some result =>
      show (rest.filterMapM f >>= fun others => pure (result :: others)) = _
      rw [ih hrest]
      rfl

namespace AgentTaskStats

/-! ## Exact durations -/

section Durations

/-- The durations of the tasks that have a time of completion. -/
def durationsOf (tasks : List Task) : List ℚ :=
  tasks.filterMap Task.millis?

/-- There is a duration for each task that was completed. -/
theorem length_durationsOf (tasks : List Task) :
    (durationsOf tasks).length = tasks.countP (·.completedAt.isSome) := by
  rw [durationsOf, List.length_filterMap_eq_countP]
  congr 1
  funext task
  rw [Task.millis?, Option.isSome_map]

/-- The duration of a task that can be measured is the exact one. -/
theorem duration?_eq_ok {task : Task} (h : task.Measurable) :
    (duration? task : Except Fault (Option ℚ)) = .ok task.millis? := by
  unfold duration? Task.millis?
  cases hcompleted : task.completedAt with
  | none => rfl
  | some completed =>
    have hmillis : (Duration.ofMicros (Moment.elapsed task.createdAt completed) : ℚ) =
        (Moment.elapsed task.createdAt completed : ℚ) / 1000 :=
      Rat.mkRat_eq_div _ _
    simp only [if_pos (h completed hcompleted), hmillis, Option.map_some]

variable (durations : List ℚ)

theorem total_eq_sum : total durations = durations.sum :=
  List.sum_eq_foldl.symm

/-- The mean, as often as there are durations, is their sum. -/
theorem average_mul_length : average durations * durations.length = durations.sum := by
  rw [average]
  cases durations with
  | nil => exact zero_mul _
  | cons first rest =>
    have hlength : ((first :: rest).length : ℚ) ≠ 0 := by
      rw [List.length_cons]
      positivity
    rw [total_eq_sum]
    exact div_mul_cancel₀ _ hlength

theorem larger_eq_max (a b : ℚ) : Duration.larger a b = max a b :=
  (max_def_lt a b).symm

/-- The longest of some durations is one of them, and no other is longer. -/
theorem isGreatest_longest {durations : List ℚ} (h : durations ≠ []) :
    IsGreatest {duration | duration ∈ durations} (longest durations) := by
  obtain ⟨first, rest, rfl⟩ := List.exists_cons_of_ne_nil h
  clear h
  -- By induction on what is still to be compared with the longest so far.
  induction rest generalizing first with
  | nil => exact ⟨List.mem_singleton_self first, fun _ hmem => (List.mem_singleton.mp hmem).le⟩
  | cons next later ih =>
    have hstep : longest (first :: next :: later) = longest (max first next :: later) := by
      rw [longest, List.foldl_cons, larger_eq_max]
      rfl
    obtain ⟨hmem, hupper⟩ := ih (max first next)
    have hmax : max first next ≤ longest (max first next :: later) := hupper List.mem_cons_self
    rw [hstep]
    refine ⟨?_, fun duration hduration => ?_⟩
    · rcases List.mem_cons.mp hmem with heq | hlater
      · -- The larger of the first two is one of them.
        rcases max_choice first next with hfirst | hnext
        · exact List.mem_cons.mpr (.inl (heq.trans hfirst))
        · exact List.mem_cons_of_mem _ (List.mem_cons.mpr (.inl (heq.trans hnext)))
      · exact List.mem_cons_of_mem _ (List.mem_cons_of_mem _ hlater)
    · rcases List.mem_cons.mp hduration with rfl | hduration
      · exact (le_max_left _ _).trans hmax
      rcases List.mem_cons.mp hduration with rfl | hduration
      · exact (le_max_right _ _).trans hmax
      · exact hupper (List.mem_cons_of_mem _ hduration)

/-- The average is not above the longest duration. -/
theorem average_le_longest : average durations ≤ longest durations := by
  rcases eq_or_ne durations [] with rfl | hne
  · exact le_refl _
  · have hpositive : (0 : ℚ) < durations.length := by
      exact_mod_cast List.length_pos_of_ne_nil hne
    have hsum : durations.sum ≤ durations.length • longest durations :=
      List.sum_le_card_nsmul _ _ fun duration hmem => (isGreatest_longest hne).2 hmem
    rw [nsmul_eq_mul, ← average_mul_length, mul_comm] at hsum
    exact le_of_mul_le_mul_left hsum hpositive

variable {durations} {others : List ℚ}

/-- The average does not depend on the order of the tasks. -/
theorem average_of_perm (h : durations.Perm others) : average durations = average others := by
  have hempty : durations.isEmpty = others.isEmpty := h.isEmpty_eq
  rw [average, average, hempty, total_eq_sum, total_eq_sum, h.sum_eq, h.length_eq]

/-- The longest duration does not depend on the order of the tasks. -/
theorem longest_of_perm (h : durations.Perm others) : longest durations = longest others := by
  rcases eq_or_ne durations [] with rfl | hne
  · rw [h.nil_eq]
  · have hne' : others ≠ [] := fun hnil => hne (hnil ▸ h).eq_nil
    have hsame : {duration | duration ∈ durations} = {duration | duration ∈ others} :=
      Set.ext fun _ => h.mem_iff
    exact (hsame ▸ isGreatest_longest hne).unique (isGreatest_longest hne')

end Durations

/-! ## Counts -/

/-- What the figures of an agent count: all of its tasks, or those at a stage or with a label. -/
inductive Count where
  | tasks
  | completed
  | failed
  | inProgress
  | labelled (label : String)

namespace Count

/-- The task is counted. -/
def Includes (count : Count) (task : Task) : Prop :=
  match count with
  | tasks => True
  | completed => task.status = .completed
  | failed => task.status = .failed
  | inProgress => task.status = .pending ∨ task.status = .running
  | labelled label => task.label = label

instance : ∀ (count : Count) (task : Task), Decidable (count.Includes task)
  | tasks, _ => inferInstanceAs (Decidable True)
  | completed, task => inferInstanceAs (Decidable (task.status = .completed))
  | failed, task => inferInstanceAs (Decidable (task.status = .failed))
  | inProgress, task =>
    inferInstanceAs (Decidable (task.status = .pending ∨ task.status = .running))
  | labelled label, task => inferInstanceAs (Decidable (task.label = label))

variable {δ : Type}

/-- The figure that tells the count; what is not listed does not occur. -/
def figure (count : Count) (figures : AgentTaskStats δ) : Int :=
  match count with
  | tasks => figures.totalTasks
  | completed => figures.completed
  | failed => figures.failed
  | inProgress => figures.inProgress
  | labelled label => (Table.find? figures.byType label).getD 0

/-- The count as statistics tell it of an agent; one without figures has nothing to count. -/
def told (count : Count) (stats : Table (AgentTaskStats δ)) (agentId : String) : Int :=
  ((Table.find? stats agentId).map count.figure).getD 0

end Count

section Counting

variable {δ : Type} {figures : AgentTaskStats δ} {agentId : String} {tasks : List Task}

/-- Each figure tells the number of the tasks that it counts. -/
theorem Counts.figure_eq (h : figures.Counts agentId tasks) (count : Count) :
    count.figure figures = tasks.countP (count.Includes ·) := by
  cases count with
  | tasks =>
    have hall : tasks.countP (Count.Includes .tasks ·) = tasks.length :=
      List.countP_eq_length.mpr fun _ _ => rfl
    rw [hall]
    exact h.totalTasks
  | completed => exact h.completed
  | failed => exact h.failed
  | inProgress => exact h.inProgress
  | labelled label =>
    have hcount : (tasks.map (·.label)).count label =
        tasks.countP (Count.Includes (.labelled label) ·) := by
      rw [List.count, List.countP_map]
      rfl
    rw [Count.figure, h.byType label, ← hcount]
    split
    next => rfl
    next hmem => rw [List.count_eq_zero_of_not_mem hmem]; rfl

/-- A task is completed, has failed, or is still in progress. -/
theorem countP_stages (tasks : List Task) :
    tasks.length = tasks.countP (·.status = .completed) + tasks.countP (·.status = .failed) +
      tasks.countP fun task => task.status = .pending ∨ task.status = .running := by
  induction tasks with
  | nil => rfl
  | cons task rest ih =>
    simp only [List.length_cons, List.countP_cons, ih]
    cases task.status <;> simp <;> omega

variable [Duration δ] {stats : Table (AgentTaskStats δ)}

/-- What statistics tell of an agent is the number of its tasks that are counted. -/
theorem told_eq (h : aggregate tasks = .ok stats) (count : Count) (agentId : String) :
    count.told stats agentId =
      tasks.countP fun task => task.agentId = agentId ∧ count.Includes task := by
  have htells := tells_of_aggregate h agentId
  have hfilter : ((tasks.filter (·.agentId = agentId)).countP (count.Includes ·)) =
      tasks.countP fun task => task.agentId = agentId ∧ count.Includes task := by
    rw [List.countP_filter]
    congr 1
    funext task
    rw [Bool.decide_and, Bool.and_comm]
  rw [← hfilter, Count.told]
  unfold Tells at htells
  cases hfind : Table.find? stats agentId with
  | none =>
    rw [hfind] at htells
    rw [htells]
    rfl
  | some figures =>
    rw [hfind] at htells
    exact htells.2.figure_eq count

/-- The counts of two lists put together are the sums of the counts of both. -/
theorem told_append {first second : List Task} {both stats₁ stats₂ : Table (AgentTaskStats δ)}
    (h : aggregate (first ++ second) = .ok both) (h₁ : aggregate first = .ok stats₁)
    (h₂ : aggregate second = .ok stats₂) (count : Count) (agentId : String) :
    count.told both agentId = count.told stats₁ agentId + count.told stats₂ agentId := by
  rw [told_eq h, told_eq h₁, told_eq h₂, List.countP_append, Nat.cast_add]

end Counting

/-! ## The figures of an agent -/

/-- The figures are those of the agent, and all of its tasks are in them. -/
structure Conserves (figures : AgentTaskStats ℚ) (agentId : String) (tasks : List Task) : Prop
    extends figures.Counts agentId tasks where
  stages : figures.totalTasks = figures.completed + figures.failed + figures.inProgress
  labels : figures.totalTasks = (Table.values figures.byType).sum
  /-- The mean, times the number of tasks with a time of completion. -/
  average : figures.avgDurationMs * tasks.countP (·.completedAt.isSome) = (durationsOf tasks).sum
  longest : durationsOf tasks ≠ [] →
    IsGreatest {duration | duration ∈ durationsOf tasks} figures.maxDurationMs
  average_le : figures.avgDurationMs ≤ figures.maxDurationMs
  failureRate_nonneg : 0 ≤ figures.failureRate
  failureRate_le_one : figures.failureRate ≤ 1
  failureRate_eq_zero : figures.completed + figures.failed = 0 → figures.failureRate = 0

/-- The same figures; the labels may be listed in another order. -/
structure SameFigures (figures others : AgentTaskStats ℚ) : Prop where
  agentId : others.agentId = figures.agentId
  totalTasks : others.totalTasks = figures.totalTasks
  completed : others.completed = figures.completed
  failed : others.failed = figures.failed
  inProgress : others.inProgress = figures.inProgress
  byType : ∀ label, Table.find? others.byType label = Table.find? figures.byType label
  avgDurationMs : others.avgDurationMs = figures.avgDurationMs
  maxDurationMs : others.maxDurationMs = figures.maxDurationMs
  failureRate : others.failureRate = figures.failureRate

section Figures

variable {figures : AgentTaskStats ℚ} {agentId : String} {tasks : List Task}

theorem failureRate_eq (figures : AgentTaskStats ℚ) :
    figures.failureRate =
      if figures.completed + figures.failed = 0 then 0
      else (figures.failed : ℚ) / (figures.completed + figures.failed : Int) := rfl

/-- The rate of failures lies between zero and one, and is zero where nothing has ended. -/
theorem failureRate_spec (h : figures.Counts agentId tasks) :
    0 ≤ figures.failureRate ∧ figures.failureRate ≤ 1 ∧
      (figures.completed + figures.failed = 0 → figures.failureRate = 0) := by
  have hcompleted : 0 ≤ figures.completed := h.completed ▸ Int.natCast_nonneg _
  have hfailed : 0 ≤ figures.failed := h.failed ▸ Int.natCast_nonneg _
  rw [failureRate_eq]
  split
  next hnone => exact ⟨le_refl _, zero_le_one, fun _ => rfl⟩
  next hsome =>
    have hfinished : (0 : ℚ) < (figures.completed + figures.failed : Int) := by
      exact_mod_cast lt_of_le_of_ne (Int.add_nonneg hcompleted hfailed) (Ne.symm hsome)
    have hfailed' : (0 : ℚ) ≤ figures.failed := by exact_mod_cast hfailed
    refine ⟨div_nonneg hfailed' hfinished.le, ?_, fun hnone => absurd hnone hsome⟩
    rw [div_le_one hfinished]
    exact_mod_cast Int.le_add_of_nonneg_left hcompleted

/-- The mean and the longest of the durations of tasks that can be measured. -/
theorem durations_of_ofTasks (hmeasurable : ∀ task ∈ tasks, task.Measurable)
    (h : ofTasks agentId tasks = .ok figures) :
    figures.avgDurationMs = average (durationsOf tasks) ∧
      figures.maxDurationMs = longest (durationsOf tasks) := by
  have hdurations := filterMapM_eq_ok fun task hmem => duration?_eq_ok (hmeasurable task hmem)
  rw [ofTasks, hdurations] at h
  cases h
  exact ⟨rfl, rfl⟩

/-- The tasks of all labels are the tasks. -/
theorem sum_byType {δ : Type} [Duration δ] {figures : AgentTaskStats δ}
    (h : ofTasks agentId tasks = .ok figures) :
    (Table.values figures.byType).sum = tasks.length := by
  obtain ⟨durations, -, h⟩ := Fault.bind_eq_ok_iff.mp h
  cases h
  let labels := tasks.map (·.label)
  calc (Table.values ((Table.countAll labels).map fun entry => (entry.1, (entry.2 : Int)))).sum
      = ((Table.values (Table.countAll labels)).map (Nat.cast : Nat → Int)).sum := by
        rw [Table.values, Table.values, List.map_map, List.map_map]
        rfl
    _ = ((Table.values (Table.countAll labels)).sum : Nat) := (Nat.cast_list_sum _).symm
    _ = tasks.length := by rw [Table.sum_values_countAll, List.length_map]

/-- Figures that are made of measurable tasks conserve them. -/
theorem conserves_of_ofTasks (hmeasurable : ∀ task ∈ tasks, task.Measurable)
    (h : ofTasks agentId tasks = .ok figures) : figures.Conserves agentId tasks := by
  have hcounts := counts_of_ofTasks h
  obtain ⟨haverage, hlongest⟩ := durations_of_ofTasks hmeasurable h
  obtain ⟨hnonneg, hle, hzero⟩ := failureRate_spec hcounts
  refine ⟨hcounts, ?_, ?_, ?_, fun hne => ?_, ?_, hnonneg, hle, hzero⟩
  · rw [hcounts.totalTasks, hcounts.completed, hcounts.failed, hcounts.inProgress]
    exact_mod_cast countP_stages tasks
  · rw [hcounts.totalTasks, sum_byType h]
  · rw [haverage, ← length_durationsOf, average_mul_length]
  · exact hlongest ▸ isGreatest_longest hne
  · rw [haverage, hlongest]
    exact average_le_longest _

/-- The order of the tasks does not matter to the figures. -/
theorem sameFigures_of_perm {others : List Task} {figures' : AgentTaskStats ℚ}
    (hmeasurable : ∀ task ∈ tasks, task.Measurable) (hperm : tasks.Perm others)
    (h : ofTasks agentId tasks = .ok figures) (h' : ofTasks agentId others = .ok figures') :
    figures.SameFigures figures' := by
  have hmeasurable' : ∀ task ∈ others, task.Measurable :=
    fun task hmem => hmeasurable task (hperm.mem_iff.mpr hmem)
  have hcounts := (counts_of_ofTasks h).of_perm hperm
  have hcounts' := counts_of_ofTasks h'
  obtain ⟨haverage, hlongest⟩ := durations_of_ofTasks hmeasurable h
  obtain ⟨haverage', hlongest'⟩ := durations_of_ofTasks hmeasurable' h'
  have hdurations : (durationsOf tasks).Perm (durationsOf others) := hperm.filterMap _
  have hcompleted : figures'.completed = figures.completed :=
    hcounts'.completed.trans hcounts.completed.symm
  have hfailed : figures'.failed = figures.failed := hcounts'.failed.trans hcounts.failed.symm
  refine ⟨hcounts'.agentId.trans hcounts.agentId.symm,
    hcounts'.totalTasks.trans hcounts.totalTasks.symm, hcompleted, hfailed,
    hcounts'.inProgress.trans hcounts.inProgress.symm,
    fun label => (hcounts'.byType label).trans (hcounts.byType label).symm, ?_, ?_, ?_⟩
  · rw [haverage, haverage', average_of_perm hdurations]
  · rw [hlongest, hlongest', longest_of_perm hdurations]
  · rw [failureRate_eq, failureRate_eq, hcompleted, hfailed]

end Figures

/-! ## The statistics of all agents -/

section Statistics

variable {δ : Type} [Duration δ] {tasks : List Task} {stats : Table (AgentTaskStats δ)}

/-- There are figures for the agents with tasks, each once. -/
theorem keys_of_aggregate (h : aggregate tasks = .ok stats) :
    (Table.keys stats).Nodup ∧
      ∀ agentId, agentId ∈ Table.keys stats ↔ ∃ task ∈ tasks, task.agentId = agentId := by
  rw [(entries_of_aggregate h).1]
  refine ⟨Table.nodup_keys_countAll _, fun agentId => ?_⟩
  rw [mem_agentIds, List.mem_map]

/-- The figures of an agent are made from its tasks. -/
theorem ofTasks_of_find? (h : aggregate tasks = .ok stats) {agentId : String}
    {figures : AgentTaskStats δ} (hfind : Table.find? stats agentId = some figures) :
    ofTasks agentId (tasks.filter (·.agentId = agentId)) = .ok figures :=
  (entries_of_mapM h).2 (agentId, figures) (Table.mem_of_find? hfind)

end Statistics

/-- **Statistics conserve tasks.** When it can be told how long each completed task has taken, there
are statistics. They have figures for exactly the agents with tasks, and all tasks of an agent are
in its figures: its total is the sum of those at each stage and of those with each label, the mean
duration makes up their sum, none is longer than the longest, and the mean is not either. Each count
of a list that is put together from two is the sum of the counts of both, and the figures of all
agents are the same for every order of the tasks. -/
theorem statistics_conserved {tasks : List Task} (hmeasurable : ∀ task ∈ tasks, task.Measurable) :
    ∃ stats : Table (AgentTaskStats ℚ), aggregate tasks = .ok stats ∧
      (Table.keys stats).Nodup ∧
      (∀ agentId, agentId ∈ Table.keys stats ↔ ∃ task ∈ tasks, task.agentId = agentId) ∧
      (∀ agentId figures, Table.find? stats agentId = some figures →
        figures.Conserves agentId (tasks.filter (·.agentId = agentId))) ∧
      (∀ first second, first ++ second = tasks → ∃ stats₁ stats₂ : Table (AgentTaskStats ℚ),
        aggregate first = .ok stats₁ ∧ aggregate second = .ok stats₂ ∧
        ∀ (count : Count) (agentId : String),
          count.told stats agentId = count.told stats₁ agentId + count.told stats₂ agentId) ∧
      ∀ others, tasks.Perm others → ∃ stats' : Table (AgentTaskStats ℚ),
        aggregate others = .ok stats' ∧ ∀ agentId,
          Option.Rel SameFigures (Table.find? stats agentId) (Table.find? stats' agentId) := by
  obtain ⟨stats, hstats⟩ : ∃ stats : Table (AgentTaskStats ℚ), aggregate tasks = .ok stats :=
    aggregate_returns_iff.mpr hmeasurable
  obtain ⟨hnodup, hkeys⟩ := keys_of_aggregate hstats
  refine ⟨stats, hstats, hnodup, hkeys, fun agentId figures hfind => ?_,
    fun first second htasks => ?_, fun others hperm => ?_⟩
  · exact conserves_of_ofTasks (fun task hmem => hmeasurable task (List.mem_filter.mp hmem).1)
      (ofTasks_of_find? hstats hfind)
  · subst htasks
    obtain ⟨hfirst, hsecond⟩ := List.forall_mem_append.mp hmeasurable
    obtain ⟨stats₁, hstats₁⟩ : ∃ stats₁ : Table (AgentTaskStats ℚ), aggregate first = .ok stats₁ :=
      aggregate_returns_iff.mpr hfirst
    obtain ⟨stats₂, hstats₂⟩ : ∃ stats₂ : Table (AgentTaskStats ℚ), aggregate second = .ok stats₂ :=
      aggregate_returns_iff.mpr hsecond
    exact ⟨stats₁, stats₂, hstats₁, hstats₂, told_append hstats hstats₁ hstats₂⟩
  · have hmeasurable' : ∀ task ∈ others, task.Measurable :=
      fun task hmem => hmeasurable task (hperm.mem_iff.mpr hmem)
    obtain ⟨stats', hstats'⟩ : ∃ stats' : Table (AgentTaskStats ℚ), aggregate others = .ok stats' :=
      aggregate_returns_iff.mpr hmeasurable'
    refine ⟨stats', hstats', fun agentId => ?_⟩
    -- An agent has figures in both orders, or in neither.
    have hsome : (Table.find? stats agentId).isSome ↔ (Table.find? stats' agentId).isSome := by
      rw [← Table.mem_keys_iff, ← Table.mem_keys_iff, hkeys, (keys_of_aggregate hstats').2]
      simp only [hperm.mem_iff]
    cases hfind : Table.find? stats agentId with
    | none =>
      rw [hfind] at hsome
      rw [Option.not_isSome_iff_eq_none.mp fun h => Bool.false_ne_true (hsome.mpr h)]
      exact .none
    | some figures =>
      rw [hfind] at hsome
      obtain ⟨figures', hfind'⟩ := Option.isSome_iff_exists.mp (hsome.mp rfl)
      rw [hfind']
      exact .some (sameFigures_of_perm
        (fun task hmem => hmeasurable task (List.mem_filter.mp hmem).1) (hperm.filter _)
        (ofTasks_of_find? hstats hfind) (ofTasks_of_find? hstats' hfind'))

/-- Three tasks of one agent, two of which have been completed, and a task of another. -/
def sharedTasks : List Task := [
  { id := "first", label := "chat", agentId := "helper", status := .completed, createdAt := .utc 0,
    completedAt := some (.utc 2000) },
  { id := "second", agentId := "writer", status := .failed, createdAt := .utc 500 },
  { id := "third", label := "chat", agentId := "helper", status := .completed,
    createdAt := .utc 1000, completedAt := some (.utc 7000) },
  { id := "fourth", label := "embed", agentId := "helper", status := .failed,
    createdAt := .utc 3000 }]

/-- One has taken two milliseconds and the other six, which makes four on average. -/
theorem statistics_conserved_sharedTasks :
    (∀ task ∈ sharedTasks, task.Measurable) ∧
      ∃ stats : Table (AgentTaskStats ℚ), aggregate sharedTasks = .ok stats ∧
        ∃ figures, Table.find? stats "helper" = some figures ∧ figures.totalTasks = 3 ∧
          figures.completed = 2 ∧ figures.failed = 1 ∧ Table.find? figures.byType "chat" = some 2 ∧
          figures.avgDurationMs = 4 ∧ figures.maxDurationMs = 6 := by
  have hmeasurable : ∀ task ∈ sharedTasks, task.Measurable := by decide
  obtain ⟨stats, hstats, -, hkeys, hfigures, -⟩ := statistics_conserved hmeasurable
  have hkey : "helper" ∈ Table.keys stats := (hkeys "helper").mpr (by decide)
  obtain ⟨figures, hfind⟩ := Option.isSome_iff_exists.mp (Table.mem_keys_iff.mp hkey)
  have h := hfigures "helper" figures hfind
  have hdurations : durationsOf (sharedTasks.filter (·.agentId = "helper")) = [2, 6] := by
    decide +kernel
  have hlongest := h.longest (hdurations ▸ List.cons_ne_nil _ _)
  have haverage : figures.avgDurationMs * (2 : Nat) = [(2 : ℚ), 6].sum := hdurations ▸ h.average
  refine ⟨hmeasurable, stats, hstats, figures, hfind, h.totalTasks, h.completed, h.failed,
    h.byType "chat", ?_, ?_⟩
  · norm_num at haverage
    linarith
  · rw [hdurations] at hlongest
    have hgreatest : IsGreatest {duration | duration ∈ [(2 : ℚ), 6]} 6 :=
      ⟨by simp, by norm_num [upperBounds]⟩
    exact hlongest.unique hgreatest

end AgentTaskStats

end Orchestration
