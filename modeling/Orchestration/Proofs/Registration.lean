import Mathlib.Logic.Function.Basic
import Orchestration.Proofs.Session

/-!
# The register of agents

Whatever is asked of a store of agents, in whatever order and whatever the wall clock shows, the
store remains a map from ids to agents: every agent is registered under its own id, has a state,
and bears the times of its creation and of its latest update (`WellKept`). An operation concerns
one id and leaves the others alone, and what it refuses changes nothing (`Ends`). Each update is
dated later than the one before; only when the last microsecond of the calendar is used up are
there no more updates.

The main statement is `wellKept_and_ends`.
-/

namespace Orchestration

/-! ## Times of update -/

/-- An update is dated strictly later than the one before, unless that one had the last microsecond
of the calendar. -/
theorem AgentStore.updateTime_spec {last now : Int} (hlast : (Moment.utc last).InCalendar)
    (hnow : (Moment.utc now).InCalendar) :
    (∃ time, updateTime (some (.utc last)) (.utc now) = .ok (.utc time) ∧
      last < time ∧ (Moment.utc time).InCalendar) ∨
    (updateTime (some (.utc last)) (.utc now) =
        .error (.foreign .overflow "date value out of range") ∧
      last = Moment.horizon - 1) := by
  have hinstant : ∀ micros, (Moment.utc micros).instant = micros := by
    intro micros
    simp [Moment.instant, Moment.utc]
  have hcomparable : ¬ ¬ Moment.Comparable (.utc now) (.utc last) := not_not_intro rfl
  unfold updateTime
  dsimp only
  rw [if_neg hcomparable, hinstant, hinstant]
  by_cases hle : now ≤ last
  · -- The clock stood still or went back: one microsecond is added to the last update.
    have hnext : (Moment.utc last).plus 1 = .utc (last + 1) := rfl
    rw [if_pos hle, hnext]
    by_cases hcalendar : (Moment.utc (last + 1)).InCalendar
    · rw [if_pos hcalendar]
      exact .inl ⟨last + 1, rfl, Int.lt_succ last, hcalendar⟩
    · rw [if_neg hcalendar]
      refine .inr ⟨rfl, ?_⟩
      have hbounds : 0 ≤ last ∧ last < Moment.horizon := hlast
      have hend : ¬ (0 ≤ last + 1 ∧ last + 1 < Moment.horizon) := hcalendar
      omega
  · rw [if_neg hle]
    exact .inl ⟨now, rfl, Int.not_le.mp hle, hnow⟩

namespace AgentStore

/-! ## What a store keeps -/

/-- The time is one that a clock in universal time can show. -/
def Dated (time : Option Moment) : Prop :=
  ∃ micros, time = some (.utc micros) ∧ (Moment.utc micros).InCalendar

/-- An agent as a store keeps it. -/
structure Kept (agent : Agent) : Prop where
  state : agent.state.isSome
  createdAt : agent.createdAt.isSome
  updatedAt : Dated agent.updatedAt

/-- A store is well kept if it has one agent under each of its ids, which bears that id, a state and
its times. -/
structure WellKept (store : AgentStore) : Prop where
  keys : (Table.keys store.index).Nodup
  inOrder : InOrder store
  kept : ∀ {id agent}, store.stored? id = some agent → Kept agent

/-- The stores agree but for what is registered under one id. -/
structure Changes (store later : AgentStore) (id : String) (entry : Option (Ref Agent × Agent)) :
    Prop where
  find? : later.find? = Function.update store.find? id (entry.map (·.1))
  stored? : later.stored? = Function.update store.stored? id (entry.map (·.2))

variable {store later : AgentStore} {ref : Ref Agent} {agent : Agent} {id : String}

/-- An agent is stored under an id if a reference is registered there and stands for it. -/
theorem stored?_eq_some_iff :
    store.stored? id = some agent ↔ ∃ ref, store.find? id = some ref ∧ store.agent ref = agent :=
  Option.map_eq_some_iff

/-- An agent is stored under an id if the index has the id. -/
theorem isSome_stored? : (store.stored? id).isSome = Table.contains store.index id :=
  Option.isSome_map

/-- No agent is stored under an id if the index lacks the id. -/
theorem stored?_eq_none_iff : store.stored? id = none ↔ ¬ Table.contains store.index id := by
  rw [← isSome_stored?, Option.not_isSome_iff_eq_none]

/-- No two ids stand for the same agent, so a change of one agent changes what is registered under
one id. -/
theorem changes_put (h : InOrder store) (hhas : store.live.Has ref)
    (hid : (store.agent ref).id ≠ "" → agent.id = (store.agent ref).id) :
    Changes store (store.put ref agent) agent.id (some (ref, agent)) := by
  have hfind : (store.put ref agent).find? = Function.update store.find? agent.id (some ref) := by
    funext id
    rw [AgentStore.find?, AgentStore.put, Table.find?_insert, Function.update_apply]
    rfl
  refine ⟨hfind, funext fun id => ?_⟩
  rw [AgentStore.stored?, hfind, Function.update_apply, Function.update_apply]
  split
  next => exact congrArg some (Live.get_set_self store.live agent hhas)
  next hne =>
    rw [AgentStore.stored?]
    cases hfound : store.find? id with
    | none => rfl
    | some other =>
      -- If this were the same agent, it would bear both ids.
      obtain ⟨-, hother, hne_empty⟩ := h id other hfound
      have hdifferent : other ≠ ref := by
        rintro rfl
        exact hne (hother ▸ (hid (hother ▸ hne_empty)).symm)
      exact congrArg some (Live.get_set_of_ne store.live agent hdifferent)

/-- The store without what is registered under an id. -/
def without (store : AgentStore) (id : String) : AgentStore :=
  { store with index := Table.erase store.index id }

/-- To take an id out changes what is registered under it, and nothing else. -/
theorem changes_without (store : AgentStore) (id : String) :
    Changes store (store.without id) id none := by
  have hfind : (store.without id).find? = Function.update store.find? id none := by
    funext other
    rw [AgentStore.find?, without, Table.find?_erase, Function.update_apply]
    rfl
  refine ⟨hfind, funext fun other => ?_⟩
  rw [AgentStore.stored?, hfind, Function.update_apply, Function.update_apply]
  split
  next => rfl
  next => rfl

/-- The agent is what is registered under its id. -/
def Registered (store : AgentStore) (ref : Ref Agent) : Prop :=
  store.find? (store.agent ref).id = some ref

/-- Whoever is registered under an id is registered. -/
theorem InOrder.registered (h : InOrder store) (hfind : store.find? id = some ref) :
    store.Registered ref :=
  (congrArg store.find? (h id ref hfind).2.1).trans hfind

/-- A registered agent gets another state as if it were registered anew. -/
theorem set_eq_put (hregistered : store.Registered ref) (hid : agent.id = (store.agent ref).id) :
    store.set ref agent = store.put ref agent := by
  have hindex : Table.insert store.index agent.id ref = store.index :=
    Table.insert_of_find?_eq_some (hid ▸ hregistered)
  rw [AgentStore.put, hindex]
  rfl

/-- An agent that is not registered may get any state: the registered ones keep theirs. -/
theorem InOrder.agent_set (h : InOrder store) (hunregistered : ¬ store.Registered ref)
    {other : Ref Agent} (hfind : store.find? id = some other) :
    (store.set ref agent).agent other = store.agent other := by
  have hdifferent : other ≠ ref := by
    rintro rfl
    exact hunregistered (h.registered hfind)
  exact Live.get_set_of_ne store.live agent hdifferent

/-- A change of an agent that is not registered is not seen in the store. -/
theorem stored?_set_of_not_registered (h : InOrder store) (hunregistered : ¬ store.Registered ref) :
    (store.set ref agent).stored? = store.stored? := by
  funext id
  have hfind : (store.set ref agent).find? id = store.find? id := rfl
  rw [AgentStore.stored?, AgentStore.stored?, hfind]
  cases hfound : store.find? id with
  | none => rfl
  | some other => exact congrArg some (h.agent_set hunregistered hfound)

namespace WellKept

/-- A store without agents is well kept. -/
theorem empty : WellKept {} where
  keys := List.nodup_nil
  inOrder _ _ hfind := nomatch hfind
  kept hstored := nomatch hstored

/-- A caller that makes an agent does not disturb the store. -/
theorem add (h : WellKept store) (agent : Agent) : WellKept (store.add agent) where
  keys := h.keys
  inOrder := h.inOrder.add agent
  kept {id other} hstored := by
    obtain ⟨ref, hfind, hother⟩ := stored?_eq_some_iff.mp hstored
    refine h.kept (stored?_eq_some_iff.mpr ⟨ref, hfind, ?_⟩)
    rw [← hother]
    exact (Live.get_add_of_has store.live agent (h.inOrder id ref hfind).1).symm

/-- An agent that is kept may take the place under an id. -/
theorem kept_of_changes (h : WellKept store) {entry : Option (Ref Agent × Agent)}
    (hchanges : Changes store later id entry) (hentry : ∀ e ∈ entry, Kept e.2) {other : String}
    (hstored : later.stored? other = some agent) : Kept agent := by
  rw [hchanges.stored?, Function.update_apply] at hstored
  split at hstored
  next =>
    obtain ⟨e, he, rfl⟩ := Option.map_eq_some_iff.mp hstored
    exact hentry e he
  next => exact h.kept hstored

/-- An agent may be registered under the id that it had, or under a new one if it had none. -/
theorem put (h : WellKept store) (hhas : store.live.Has ref) (hne : agent.id ≠ "")
    (hid : (store.agent ref).id ≠ "" → agent.id = (store.agent ref).id) (hkept : Kept agent) :
    WellKept (store.put ref agent) where
  keys := Table.nodup_keys_insert h.keys _ _
  inOrder := h.inOrder.put hhas hne hid
  kept := h.kept_of_changes (changes_put h.inOrder hhas hid) fun _ he => Option.some.inj he ▸ hkept

/-- A registered agent may be changed as long as it keeps its id and what the store asks for. -/
theorem set (h : WellKept store) (hkeeps : store.Registered ref →
    agent.id = (store.agent ref).id ∧ Kept agent) : WellKept (store.set ref agent) := by
  by_cases hregistered : store.Registered ref
  · obtain ⟨hid, hkept⟩ := hkeeps hregistered
    obtain ⟨hhas, -, hne⟩ := h.inOrder _ ref hregistered
    rw [set_eq_put hregistered hid]
    exact h.put hhas (hid ▸ hne) (fun _ => hid) hkept
  · refine ⟨h.keys, fun id other hfind => ?_, fun hstored => ?_⟩
    · obtain ⟨hhas, hid, hne⟩ := h.inOrder id other hfind
      refine ⟨Live.has_set.mpr hhas, ?_, hne⟩
      rw [h.inOrder.agent_set hregistered hfind, hid]
    · rw [stored?_set_of_not_registered h.inOrder hregistered] at hstored
      exact h.kept hstored

end WellKept

/-! ## How operations end -/

/-- What a store is asked. -/
inductive Operation where
  | create (ref : Ref Agent)
  | update (ref : Ref Agent)
  | delete (id : String)
  | record (ref : Ref Agent) (key : String) (value : Value)

/-- Those who ask know the agent that is to be registered. -/
def Operation.Admissible (store : AgentStore) : Operation → Prop
  | create ref | update ref => store.live.Has ref
  | _ => True

/-- The id that an operation is about; an agent that has none is given the fresh one. -/
def Operation.target (store : AgentStore) (fresh : String) : Operation → String
  | create ref => if (store.agent ref).id = "" then fresh else (store.agent ref).id
  | update ref | record ref _ _ => (store.agent ref).id
  | delete id => id

/-- The ways in which an operation ends, at a time and with an identifier to give away. -/
inductive Ends (store : AgentStore) (now : Moment) (fresh : String) :
    Operation → Except Fault Unit → AgentStore → Prop
  | created {ref : Ref Agent} {id : String} {later : AgentStore}
      (hid : id = (Operation.create ref).target store fresh)
      (hfree : (store.agent ref).id = "" ∨ store.stored? id = none)
      (hchanges : Changes store later id (some (ref, created (store.agent ref) id now))) :
      Ends store now fresh (.create ref) (.ok ()) later
  | taken {ref : Ref Agent} (hne : (store.agent ref).id ≠ "")
      (htaken : (store.stored? (store.agent ref).id).isSome) :
      Ends store now fresh (.create ref)
        (.error (.invalidRequest ("agent already exists: " ++ (store.agent ref).id))) store
  | updated {ref : Ref Agent} {previous : Agent} {last time : Int} {later : AgentStore}
      (hprevious : store.stored? (store.agent ref).id = some previous)
      (hlast : previous.updatedAt = some (.utc last)) (hlater : last < time)
      (hchanges : Changes store later (store.agent ref).id (some (ref,
        { (store.agent ref).ensureState now with
          createdAt := (store.agent ref).createdAt <|> previous.createdAt
          updatedAt := some (.utc time) }))) :
      Ends store now fresh (.update ref) (.ok ()) later
  | unknown {ref : Ref Agent} (hunknown : store.stored? (store.agent ref).id = none) :
      Ends store now fresh (.update ref) (.error (.missing .agent (store.agent ref).id)) store
  /-- There is no later time at which the agent could be updated. -/
  | exhausted {ref : Ref Agent} {previous : Agent}
      (hprevious : store.stored? (store.agent ref).id = some previous)
      (hlast : previous.updatedAt = some (.utc (Moment.horizon - 1))) :
      Ends store now fresh (.update ref) (.error (.foreign .overflow "date value out of range"))
        store
  | deleted {id : String} {later : AgentStore} (hknown : (store.stored? id).isSome)
      (hchanges : Changes store later id none) :
      Ends store now fresh (.delete id) (.ok ()) later
  | absent {id : String} (hunknown : store.stored? id = none) :
      Ends store now fresh (.delete id) (.error (.missing .agent id)) store
  | recorded {ref : Ref Agent} {key : String} {value : Value} {later : AgentStore}
      (hregistered : store.Registered ref)
      (hchanges : Changes store later (store.agent ref).id
        (some (ref, (store.agent ref).record now key value))) :
      Ends store now fresh (.record ref key value) (.ok ()) later
  /-- An agent that is not registered remembers the interaction as well. -/
  | noted {ref : Ref Agent} {key : String} {value : Value} {later : AgentStore}
      (hunregistered : ¬ store.Registered ref) (hfind : later.find? = store.find?)
      (hstored : later.stored? = store.stored?) :
      Ends store now fresh (.record ref key value) (.ok ()) later

/-- What is registered under an id is left alone by operations that are about other ids. -/
theorem Ends.stored?_of_ne {now : Moment} {fresh other : String} {op : Operation}
    {outcome : Except Fault Unit} (h : Ends store now fresh op outcome later)
    (hother : other ≠ op.target store fresh) : later.stored? other = store.stored? other := by
  cases h with
  | created hid _ hchanges =>
    rw [hchanges.stored?, hid]
    exact Function.update_of_ne hother _ _
  | updated _ _ _ hchanges | deleted _ hchanges | recorded _ hchanges =>
    rw [hchanges.stored?]
    exact Function.update_of_ne hother _ _
  | noted _ _ hstored => rw [hstored]
  | taken | unknown | exhausted | absent => rfl

/-- The store after an operation; one that is refused leaves it as it is. -/
def after (store : AgentStore) : Except Fault AgentStore → AgentStore
  | .ok later => later
  | .error _ => store

/-- What the store makes of an operation. -/
def Operation.result (store : AgentStore) (now : Moment) (fresh : String) :
    Operation → Except Fault AgentStore
  | create ref => store.create ref fresh now
  | update ref => store.update ref now
  | delete id => store.delete id
  | record ref key value => .ok (store.record ref now key value)

/-- The operation ends in one of the ways in which operations end, and leaves a well kept store. -/
structure Done (store : AgentStore) (now : Moment) (fresh : String) (op : Operation) : Prop where
  wellKept : WellKept (store.after (op.result store now fresh))
  ends : Ends store now fresh op ((op.result store now fresh).map fun _ => ())
    (store.after (op.result store now fresh))

section

variable {now : Moment} {fresh : String}

/-- An operation that succeeds is done with the store that it gives. -/
theorem done_of_ok {op : Operation} (hresult : op.result store now fresh = .ok later)
    (hkept : WellKept later) (hends : Ends store now fresh op (.ok ()) later) :
    Done store now fresh op := by
  refine ⟨?_, ?_⟩
  · rw [hresult]
    exact hkept
  · rw [hresult]
    exact hends

/-- An operation that is refused is done with the store as it was. -/
theorem done_of_error (h : WellKept store) {op : Operation} {fault : Fault}
    (hresult : op.result store now fresh = .error fault)
    (hends : Ends store now fresh op (.error fault) store) : Done store now fresh op := by
  refine ⟨?_, ?_⟩
  · rw [hresult]
    exact h
  · rw [hresult]
    exact hends

/-- To register an agent ends in one of the ways in which it may. -/
theorem done_create {micros : Int} (h : WellKept store) (hhas : store.live.Has ref)
    (hnow : (Moment.utc micros).InCalendar) (hfresh : fresh ≠ "") :
    Done store (.utc micros) fresh (.create ref) := by
  have hkept : ∀ id, Kept (created (store.agent ref) id (.utc micros)) := fun id =>
    ⟨rfl, rfl, micros, rfl, hnow⟩
  by_cases hempty : (store.agent ref).id = ""
  · have hid : (store.agent ref).id ≠ "" → fresh = (store.agent ref).id :=
      fun hne => absurd hempty hne
    refine done_of_ok (if_pos hempty) (h.put hhas hfresh hid (hkept fresh)) ?_
    exact .created (if_pos hempty).symm (.inl hempty) (changes_put h.inOrder hhas hid)
  by_cases htaken : Table.contains store.index (store.agent ref).id
  · refine done_of_error h ((if_neg hempty).trans (if_pos htaken)) ?_
    exact .taken hempty (isSome_stored?.trans htaken)
  · refine done_of_ok ((if_neg hempty).trans (if_neg htaken))
      (h.put hhas hempty (fun _ => rfl) (hkept _)) ?_
    exact .created (if_neg hempty).symm (.inr (stored?_eq_none_iff.mpr htaken))
      (changes_put h.inOrder hhas fun _ => rfl)

/-- To update an agent ends in one of the ways in which it may. -/
theorem done_update {micros : Int} (h : WellKept store) (hhas : store.live.Has ref)
    (hnow : (Moment.utc micros).InCalendar) :
    Done store (.utc micros) fresh (.update ref) := by
  cases hfind : store.find? (store.agent ref).id with
  | none =>
    have hunknown : store.stored? (store.agent ref).id = none := by
      rw [AgentStore.stored?, hfind]
      rfl
    refine done_of_error h ?_ (.unknown hunknown)
    rw [Operation.result, AgentStore.update, get_of_find?_eq_none hfind]
    rfl
  | some old =>
    have hprevious : store.stored? (store.agent ref).id = some (store.agent old) :=
      stored?_eq_some_iff.mpr ⟨old, hfind, rfl⟩
    obtain ⟨-, hcreated, last, hlast, hcalendar⟩ := h.kept hprevious
    have hresult : Operation.result store (.utc micros) fresh (.update ref) =
        (updateTime (some (.utc last)) (.utc micros)).map fun time =>
          store.put ref { (store.agent ref).ensureState (.utc micros) with
            createdAt := (store.agent ref).createdAt <|> (store.agent old).createdAt
            updatedAt := some time } := by
      rw [Operation.result, AgentStore.update, get_of_find? hfind, ← hlast]
      rfl
    rcases updateTime_spec hcalendar hnow with ⟨time, htime, hlater, hdated⟩ | ⟨htime, hend⟩
    · -- What is kept of the agent before is at most the time of its creation.
      rw [htime] at hresult
      have hinherited : ((store.agent ref).createdAt <|> (store.agent old).createdAt).isSome := by
        cases (store.agent ref).createdAt with
        | none => exact hcreated
        | some first => rfl
      refine done_of_ok hresult (h.put hhas (h.inOrder _ old hfind).2.2 (fun _ => rfl)
        ⟨rfl, hinherited, time, rfl, hdated⟩) ?_
      exact .updated hprevious hlast hlater (changes_put h.inOrder hhas fun _ => rfl)
    · rw [htime] at hresult
      exact done_of_error h hresult (.exhausted hprevious (hend ▸ hlast))

/-- To delete an agent ends in one of the ways in which it may. -/
theorem done_delete (h : WellKept store) (id : String) : Done store now fresh (.delete id) := by
  by_cases hknown : Table.contains store.index id
  · have hresult : store.delete id = .ok (store.without id) := if_pos hknown
    have hchanges := changes_without store id
    refine done_of_ok hresult ?_ (.deleted (isSome_stored?.trans hknown) hchanges)
    exact ⟨Table.nodup_keys_erase h.keys id, (delete_spec h.inOrder hresult).1,
      h.kept_of_changes hchanges fun _ he => nomatch he⟩
  · exact done_of_error h (if_neg hknown) (.absent (stored?_eq_none_iff.mpr hknown))

/-- To record an interaction always succeeds. -/
theorem done_record (h : WellKept store) (ref : Ref Agent) (key : String) (value : Value) :
    Done store now fresh (.record ref key value) := by
  -- Those who record may hold an agent that was deleted, or replaced by another one with its id.
  by_cases hregistered : store.Registered ref
  · obtain ⟨hhas, -, -⟩ := h.inOrder _ ref hregistered
    obtain ⟨-, hcreated, hupdated⟩ := h.kept (stored?_eq_some_iff.mpr ⟨ref, hregistered, rfl⟩)
    have hput : store.record ref now key value =
        store.put ref ((store.agent ref).record now key value) := set_eq_put hregistered rfl
    refine done_of_ok rfl (h.set fun _ => ⟨rfl, rfl, hcreated, hupdated⟩)
      (.recorded hregistered ?_)
    rw [hput]
    exact changes_put h.inOrder hhas fun _ => rfl
  · refine done_of_ok rfl (h.set fun hother => absurd hother hregistered) ?_
    exact .noted hregistered rfl (stored?_set_of_not_registered h.inOrder hregistered)

/-- Every operation on a well kept store ends in one of its ways, and leaves the store well kept. -/
theorem done {micros : Int} (h : WellKept store) (op : Operation)
    (hadmissible : op.Admissible store) (hnow : (Moment.utc micros).InCalendar)
    (hfresh : fresh ≠ "") : Done store (.utc micros) fresh op := by
  cases op with
  | create ref => exact done_create h hadmissible hnow hfresh
  | update ref => exact done_update h hadmissible hnow
  | delete id => exact done_delete h id
  | record ref key value => exact done_record h ref key value

end

end AgentStore

namespace Engine

open AgentStore

variable {σ τ : Type} [Time τ]

/-! ## A store in use -/

/-- Asks for an operation. -/
def operate : AgentStore.Operation → Run σ τ Unit
  | .create ref => createAgent ref none
  | .update ref => updateAgent ref none
  | .delete id => deleteAgent id none
  | .record ref key value => recordInteraction ref key value

/-- What a caller may do to a registered agent without asking the store. -/
structure Edited (agent edited : Agent) : Prop where
  id : edited.id = agent.id
  state : edited.state.isSome
  createdAt : edited.createdAt = agent.createdAt
  updatedAt : edited.updatedAt = agent.updatedAt

/-- The agents of the world have been in the care of the store from the beginning. Callers make
agents and change those that they know; in between, the clock and all the rest of the world may take
any turn. -/
inductive Served : World σ τ → Prop
  | fresh {w : World σ τ} (hempty : w.agents = {}) : Served w
  | elsewhere {w w' : World σ τ} (hbefore : Served w) (hagents : w'.agents = w.agents) : Served w'
  | made {w : World σ τ} (hbefore : Served w) (agent : Agent) :
      Served { w with agents := w.agents.add agent }
  | changed {w : World σ τ} (hbefore : Served w) {ref : Ref Agent} {agent : Agent}
      (hedited : w.agents.Registered ref → Edited (w.agents.agent ref) agent) :
      Served { w with agents := w.agents.set ref agent }
  | asked {w : World σ τ} (hbefore : Served w) {op : Operation}
      (hadmissible : op.Admissible w.agents) (hclock : w.surroundings.clock.now.InCalendar) :
      Served (worldAfter (operate op) w)

omit [Time τ] in
/-- What the store refuses is not done. -/
theorem agents_replaced (result : Except Fault AgentStore) (note : AgentStore → String)
    (w : World σ τ) :
    let run : Run σ τ Unit := do
      let agents ← lift result
      modify fun w => { w with agents }
      log .info agentLogger (note agents)
    outcomeOf run w = result.map (fun _ => ()) ∧
      (worldAfter run w).agents = w.agents.after result := by
  cases result with
  | ok later => exact ⟨rfl, rfl⟩
  | error fault => exact ⟨rfl, rfl⟩

/-- An operation of the engine does what the operation of the store does. -/
theorem operate_result (op : Operation) (w : World σ τ) :
    let result := op.result w.agents w.surroundings.clock.now (Identifier.issue w.issued)
    outcomeOf (operate op) w = result.map (fun _ => ()) ∧
      (worldAfter (operate op) w).agents = w.agents.after result := by
  cases op with
  | create ref =>
    exact agents_replaced _ (fun agents => "Created agent " ++ agentLabel (agents.agent ref))
      { w with issued := w.issued + 1 }
  | update ref =>
    exact agents_replaced _ (fun agents => "Updated agent " ++ agentLabel (agents.agent ref)) w
  | delete id => exact agents_replaced _ (fun _ => "Deleted agent " ++ id) w
  | record ref key value => exact ⟨rfl, rfl⟩

/-- What is asked of a well kept store ends in one of the ways in which operations end, and the
store stays well kept. -/
theorem operated {w : World σ τ} (h : WellKept w.agents) {op : Operation}
    (hadmissible : op.Admissible w.agents) (hclock : w.surroundings.clock.now.InCalendar) :
    WellKept (worldAfter (operate op) w).agents ∧
      Ends w.agents w.surroundings.clock.now (Identifier.issue w.issued) op
        (outcomeOf (operate op) w) (worldAfter (operate op) w).agents := by
  obtain ⟨houtcome, hagents⟩ := operate_result op w
  rw [houtcome, hagents]
  obtain ⟨hkept, hends⟩ := done h op hadmissible hclock (Identifier.issue_ne_empty w.issued)
  exact ⟨hkept, hends⟩

/-- A store is well kept at any point of its use, by induction on what was done with it. -/
theorem Served.wellKept {w : World σ τ} (h : Served w) : WellKept w.agents := by
  induction h with
  | fresh hempty =>
    rw [hempty]
    exact .empty
  | elsewhere _ hagents ih =>
    rw [hagents]
    exact ih
  | made _ agent ih => exact ih.add agent
  | changed _ hedited ih =>
    refine ih.set fun hregistered => ?_
    obtain ⟨hid, hstate, hcreated, hupdated⟩ := hedited hregistered
    have hkept := ih.kept (stored?_eq_some_iff.mpr ⟨_, hregistered, rfl⟩)
    exact ⟨hid, hstate, hcreated ▸ hkept.createdAt, hupdated ▸ hkept.updatedAt⟩
  | asked _ hadmissible hclock ih => exact (operated ih hadmissible hclock).1

/-- **The register of agents.** Whatever has been asked of a store, and whatever the wall clock has
shown, it has one agent under each of its ids, which bears that id, a state and the times of its
creation and its latest update. Every operation ends in one of the ways in which operations end, and
leaves what is registered under other ids alone. -/
theorem wellKept_and_ends {w : World σ τ} (h : Served w) :
    WellKept w.agents ∧
      ∀ op : Operation, op.Admissible w.agents → w.surroundings.clock.now.InCalendar →
        Ends w.agents w.surroundings.clock.now (Identifier.issue w.issued) op
          (outcomeOf (operate op) w) (worldAfter (operate op) w).agents ∧
        ∀ other ≠ op.target w.agents (Identifier.issue w.issued),
          (worldAfter (operate op) w).agents.stored? other = w.agents.stored? other := by
  refine ⟨h.wellKept, fun op hadmissible hclock => ?_⟩
  have hends := (operated h.wellKept hadmissible hclock).2
  exact ⟨hends, fun other hother => hends.stored?_of_ne hother⟩

/-! ## An agent that is updated while the clock stands still -/

/-- A quiet engine with an agent that has just been registered. -/
def engineWithHelper : World (Scripted.Script Rat) Rat :=
  worldAfter (operate (.create ⟨0⟩))
    { quietEngine with agents := quietEngine.agents.add { id := "helper", name := "Helper" } }

/-- The agent of this engine was registered by an operation. -/
theorem served_engineWithHelper : Served engineWithHelper := by
  refine .asked (.made (.fresh rfl) { id := "helper", name := "Helper" }) ?_ ?_
  · exact Nat.zero_lt_one
  · exact ⟨Int.le_refl 0, by decide⟩

/-- The clock still shows when the helper was registered, so its update is dated one microsecond
later. -/
theorem wellKept_and_ends_engineWithHelper :
    let w := engineWithHelper
    let w' := worldAfter (operate (.update ⟨0⟩)) w
    Served w ∧ Operation.Admissible w.agents (.update ⟨0⟩) ∧
      w.surroundings.clock.now.InCalendar ∧ WellKept w.agents ∧
      Ends w.agents w.surroundings.clock.now (Identifier.issue w.issued) (.update ⟨0⟩)
        (outcomeOf (operate (.update ⟨0⟩)) w) w'.agents ∧
      ((w.agents.stored? "helper").bind (·.updatedAt) = some (.utc 0)) ∧
      ((w'.agents.stored? "helper").bind (·.updatedAt) = some (.utc 1)) := by
  intro w w'
  have hadmissible : Operation.Admissible w.agents (.update ⟨0⟩) := Nat.zero_lt_one
  have hclock : w.surroundings.clock.now.InCalendar := ⟨Int.le_refl 0, by decide⟩
  obtain ⟨hkept, hends⟩ := wellKept_and_ends served_engineWithHelper
  exact ⟨served_engineWithHelper, hadmissible, hclock, hkept,
    (hends (.update ⟨0⟩) hadmissible hclock).1, rfl, rfl⟩

end Engine

end Orchestration
