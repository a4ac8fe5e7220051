import Mathlib.Data.List.DropRight
import Orchestration.Engine.AgentStore
import Orchestration.Reflection

/-!
# What an agent remembers

Interactions are recorded one after the other (`AgentState.recordAll`). What is left of them does
not depend on how many they are, nor on how long the context window was before: the window has the
latest entries of all that it ever had, as many as there is room for, and the memory has under each
key what was recorded last under it (`AgentState.recorded`).

An agent that looks back counts the entries of its window and names the latest three of them. The
main statement is `recorded_and_reflected`.
-/

namespace Orchestration

/-! ## Windows -/

namespace AgentState

/-- A window is as long as the context, up to its limit. -/
theorem length_window (context : List ContextItem) :
    (window context).length = min contextLimit context.length := by
  rw [window, List.length_drop]
  omega

/-- A context window keeps at least the latest interaction. -/
theorem mem_window_concat (context : List ContextItem) (item : ContextItem) :
    item ∈ window (context ++ [item]) := by
  have hlength : (context ++ [item]).length - contextLimit ≤ context.length := by
    simp [contextLimit]
  rw [window, List.drop_append_of_le_length hlength]
  exact List.mem_append_right _ (List.mem_singleton_self item)

/-- It does not matter whether a list is cut before something comes to its end. -/
theorem window_window_append (context added : List ContextItem) :
    window (window context ++ added) = window (context ++ added) := by
  have hdrop : context.length - contextLimit ≤ context.length := Nat.sub_le _ _
  unfold window
  rw [← List.drop_append_of_le_length hdrop, List.drop_drop]
  congr 1
  simp only [List.length_drop, List.length_append]
  omega

/-- What is cut off is too old to be among the latest three. -/
theorem recentKeys_window (context : List ContextItem) :
    recentKeys (window context) = (context.rtake 3).map (·.key) := by
  have hstart : context.length - contextLimit +
      ((window context).length - 3) = context.length - 3 := by
    rw [length_window]
    simp only [contextLimit]
    omega
  rw [recentKeys, List.rtake, ← hstart, ← List.drop_drop]
  rfl

/-! ## Recording -/

/-- The state when interactions were recorded one after the other, each at its own time. -/
def recordAll (state : AgentState) (items : List ContextItem) : AgentState :=
  items.foldl
    (fun state item => state.record item.timestamp item.key item.value item.relevance) state

/-- The value that was recorded last under a key. -/
def latest? (items : List ContextItem) (key : String) : Option Value :=
  (items.reverse.find? (·.key = key)).map (·.value)

section

variable (state : AgentState) (items : List ContextItem) (item : ContextItem)

theorem recordAll_concat :
    state.recordAll (items ++ [item]) =
      (state.recordAll items).record item.timestamp item.key item.value item.relevance := by
  rw [recordAll, List.foldl_append]
  rfl

/-- The window is cut after each interaction, and that is as good as cutting it once. -/
theorem context_recordAll (h : items ≠ []) :
    (state.recordAll items).context = window (state.context ++ items) := by
  induction items using List.reverseRecOn with
  | nil => exact absurd rfl h
  | append_singleton earlier item ih =>
    rw [recordAll_concat]
    show window ((state.recordAll earlier).context ++ [item]) = _
    -- The first interaction finds the window as it was, uncut if it was too long.
    rcases eq_or_ne earlier [] with rfl | hearlier
    · rfl
    · rw [ih hearlier, window_window_append, List.append_assoc]

/-- The latest value under a key is that of the last entry, if it has the key. -/
theorem latest?_concat (key : String) :
    latest? (items ++ [item]) key =
      if key = item.key then some item.value else latest? items key := by
  rw [latest?, List.reverse_append, List.reverse_singleton, List.singleton_append, List.find?_cons]
  by_cases hkey : key = item.key
  · rw [if_pos hkey, decide_eq_true hkey.symm]
    rfl
  · rw [if_neg hkey, decide_eq_false (Ne.symm hkey)]
    rfl

/-- The memory has the latest value under each key, or else the one of before. -/
theorem find?_memory_recordAll (key : String) :
    Table.find? (state.recordAll items).memory key =
      (latest? items key).or (Table.find? state.memory key) := by
  induction items using List.reverseRecOn with
  | nil => rfl
  | append_singleton earlier item ih =>
    rw [recordAll_concat, latest?_concat]
    show Table.find? (Table.insert (state.recordAll earlier).memory item.key item.value) key = _
    rw [Table.find?_insert]
    split
    · rfl
    · exact ih

/-- Goals and capabilities are left alone. -/
theorem goals_and_capabilities_recordAll :
    (state.recordAll items).goals = state.goals ∧
      (state.recordAll items).capabilities = state.capabilities := by
  induction items using List.reverseRecOn with
  | nil => exact ⟨rfl, rfl⟩
  | append_singleton earlier item ih =>
    rw [recordAll_concat]
    exact ih

end

/-- What recording the interactions has made of a state. -/
structure Recorded (state : AgentState) (items : List ContextItem) (later : AgentState) :
    Prop where
  /-- The latest entries of all, as many as there is room for. -/
  context : later.context = (state.context ++ items).rtake contextLimit
  count : later.context.length = min contextLimit (state.context ++ items).length
  /-- What was recorded last under the key, and what was there before if nothing was. -/
  memory : ∀ key, Table.find? later.memory key =
    (latest? items key).or (Table.find? state.memory key)
  lastInteraction : items.getLast?.map (·.timestamp) = some later.lastInteraction
  goals : later.goals = state.goals
  capabilities : later.capabilities = state.capabilities

/-- Whatever is recorded, the state is as it should be behind it, by induction on the entries. -/
theorem recorded (state : AgentState) {items : List ContextItem} (h : items ≠ []) :
    Recorded state items (state.recordAll items) := by
  have hcontext := context_recordAll state items h
  obtain ⟨hgoals, hcapabilities⟩ := goals_and_capabilities_recordAll state items
  refine ⟨hcontext, by rw [hcontext, length_window], find?_memory_recordAll state items, ?_,
    hgoals, hcapabilities⟩
  obtain ⟨earlier, last, rfl⟩ := (List.eq_nil_or_concat' items).resolve_left h
  rw [recordAll_concat, List.getLast?_concat]
  rfl

end AgentState

/-! ## Looking back -/

/-- What an agent says of so many interactions, of which these are the latest. -/
def Agent.account (agent : Agent) (topic : String) (count : Nat) (latest : List String) : String :=
  "Agent '" ++ agent.title ++ "' reflecting on: " ++ topic ++
    (". Recent context includes " ++ Decimal.integerText count ++ " interactions (latest: " ++
      commaSeparated latest ++ ")." ++
      (if count ≥ 3 then
        " Pattern analysis suggests consistent performance across multiple tasks."
      else "")) ++ agent.type.reflectionClause

/-- An agent with a context reflects on its length and its latest keys. -/
theorem Agent.reflection_of_context_ne_nil {agent : Agent} (h : agent.context ≠ [])
    (topic : String) :
    agent.reflection topic =
      agent.account topic agent.context.length (recentKeys agent.context) := by
  have hempty : agent.context.isEmpty = false := List.isEmpty_eq_false_iff.mpr h
  rw [reflection, contextReview, hempty, if_neg Bool.false_ne_true]
  rfl

/-! ## The store -/

namespace AgentStore

/-- The store when a live agent has recorded the interactions one after the other. -/
def recordAll (store : AgentStore) (ref : Ref Agent) (items : List ContextItem) : AgentStore :=
  items.foldl (fun store item => store.record ref item.timestamp item.key item.value) store

/-- A live agent records in the state that it has. -/
theorem agent_recordAll {store : AgentStore} {ref : Ref Agent} (hlive : store.live.Has ref)
    {state : AgentState} (hstate : (store.agent ref).state = some state)
    {items : List ContextItem} (hrelevance : ∀ item ∈ items, item.relevance = 1.0) :
    (store.recordAll ref items).agent ref =
      { store.agent ref with state := some (state.recordAll items) } := by
  induction items generalizing store state with
  | nil =>
    show store.agent ref = { store.agent ref with state := some state }
    rw [← hstate]
  | cons item rest ih =>
    obtain ⟨hitem, hrest⟩ := List.forall_mem_cons.mp hrelevance
    let next := state.record item.timestamp item.key item.value item.relevance
    have hself : (store.record ref item.timestamp item.key item.value).agent ref =
        { store.agent ref with state := some next } := by
      have hset : (store.record ref item.timestamp item.key item.value).agent ref =
          (store.agent ref).record item.timestamp item.key item.value :=
        Live.get_set_self _ _ hlive
      rw [hset, Agent.record, Agent.stateOr, hstate, Option.getD_some, ← hitem]
    have hnext : ((store.record ref item.timestamp item.key item.value).agent ref).state =
        some next := by rw [hself]
    have hlater := ih (Live.has_set.mpr hlive) hnext hrest
    rw [hself] at hlater
    exact hlater

end AgentStore

/-- **What an agent remembers.** Record any interactions, one after the other, in any state: the
window has the latest entries of what it had and of what was recorded, the memory has under each key
what was recorded last under it and is otherwise as it was, and the state bears the time of the last
interaction, but has the same goals and capabilities as before. An agent in that state that looks
back tells how many entries its window has, and names the latest three in the order in which they
were recorded. This is also the state of any live agent that has recorded them in the state that it
had. -/
theorem recorded_and_reflected (agent : Agent) (state : AgentState) {items : List ContextItem}
    (hitems : items ≠ []) (topic : String) :
    let later := state.recordAll items
    let all := state.context ++ items
    state.Recorded items later ∧
      ({ agent with state := some later } : Agent).reflection topic =
        agent.account topic (min contextLimit all.length) ((all.rtake 3).map (·.key)) ∧
      ∀ (store : AgentStore) (ref : Ref Agent), store.live.Has ref →
        store.agent ref = { agent with state := some state } →
        (∀ item ∈ items, item.relevance = 1.0) →
          (store.recordAll ref items).agent ref = { agent with state := some later } := by
  intro later all
  have hrecorded : state.Recorded items later := state.recorded hitems
  have hcontext : later.context = AgentState.window all := hrecorded.context
  refine ⟨hrecorded, ?_, fun store ref hlive hagent hrelevance => ?_⟩
  · have hsome : all.length ≠ 0 := by simp [all, hitems]
    have hne : ({ agent with state := some later } : Agent).context ≠ [] := by
      show later.context ≠ []
      rw [← List.length_pos_iff_ne_nil, hrecorded.count]
      show 0 < min 10 all.length
      omega
    rw [Agent.reflection_of_context_ne_nil hne]
    show agent.account topic later.context.length (recentKeys later.context) = _
    rw [hrecorded.count, hcontext, AgentState.recentKeys_window]
  · have hstate : (store.agent ref).state = some state := by rw [hagent]
    rw [AgentStore.agent_recordAll hlive hstate hrelevance, hagent]

/-- A state with nine entries in its window and a goal. -/
def seasonedState : AgentState where
  memory := [("tool_use", .text "clock"), ("topic", .text "work")]
  context := List.replicate 8 ⟨"custom_task", .null, .utc 0, 1.0⟩ ++ [⟨"topic", .null, .utc 1, 1.0⟩]
  goals := ["help"]
  capabilities := []
  lastInteraction := .utc 1

/-- Two uses of tools are recorded in a state whose window has room for one entry more. -/
def twoToolUses : List ContextItem :=
  [⟨"tool_use", .text "calculator", .utc 2, 1.0⟩, ⟨"tool_use", .text "text", .utc 3, 1.0⟩]

/-- The window is full then, and its oldest entry is gone; the second use is the one that the memory
has, and what was under another key is still there. -/
theorem recorded_and_reflected_seasonedState :
    let later := seasonedState.recordAll twoToolUses
    twoToolUses ≠ [] ∧ later.context.length = 10 ∧
      Table.find? later.memory "tool_use" = some (.text "text") ∧
      Table.find? later.memory "topic" = some (.text "work") ∧
      later.lastInteraction = .utc 3 ∧
      ({ id := "helper", state := some later } : Agent).reflection "tools" =
        "Agent 'helper' reflecting on: tools. Recent context includes 10 interactions " ++
          "(latest: topic, tool_use, tool_use). Pattern analysis suggests consistent " ++
          "performance across multiple tasks." := by
  intro later
  have hne : twoToolUses ≠ [] := List.cons_ne_nil _ _
  obtain ⟨hrecorded, hreflection, -⟩ :=
    recorded_and_reflected { id := "helper" } seasonedState hne "tools"
  refine ⟨hne, hrecorded.count, hrecorded.memory "tool_use", hrecorded.memory "topic", ?_, ?_⟩
  · exact (Option.some.inj hrecorded.lastInteraction).symm
  · rw [hreflection]
    decide +kernel

end Orchestration
