import Mathlib.Order.Defs.Unbundled
import Orchestration.Engine.AgentStore

/-!
# Who is registered

A store is in order if it has each agent under the id that the agent bears (`InOrder`). No operation
on the store disturbs that, and none of them takes a live agent away or gives it another id
(`Keeps`). What an agent remembers does not matter to its registration (`SameRegister`).
-/

namespace Orchestration.AgentStore

/-- Two stores register the same agents under the same ids. What the agents remember may differ. -/
structure SameRegister (store later : AgentStore) : Prop where
  index : later.index = store.index
  count : later.live.values.length = store.live.values.length
  id : ∀ ref, (later.agent ref).id = (store.agent ref).id

/-- Whoever is registered is live and bears the id under which it is registered, which is not
empty. -/
def InOrder (store : AgentStore) : Prop :=
  ∀ id ref, store.find? id = some ref →
    store.live.Has ref ∧ (store.agent ref).id = id ∧ id ≠ ""

/-- Live agents stay live, and stay who they are once they have an id. -/
structure Keeps (store later : AgentStore) : Prop where
  has : ∀ {ref}, store.live.Has ref → later.live.Has ref
  id : ∀ {ref}, store.live.Has ref → (store.agent ref).id ≠ "" →
    (later.agent ref).id = (store.agent ref).id

instance : IsPreorder AgentStore SameRegister where
  refl _ := ⟨rfl, rfl, fun _ => rfl⟩
  trans _ _ _ h h' :=
    ⟨h'.index.trans h.index, h'.count.trans h.count, fun ref => (h'.id ref).trans (h.id ref)⟩

instance : IsPreorder AgentStore Keeps where
  refl _ := ⟨fun h => h, fun _ _ => rfl⟩
  trans _ _ _ h h' := {
    has := fun hhas => h'.has (h.has hhas)
    id := fun hhas hne => (h'.id (h.has hhas) (h.id hhas hne ▸ hne)).trans (h.id hhas hne) }

variable {store later : AgentStore} {ref : Ref Agent}

theorem find?_of_get {id : String} (h : store.get id = .ok ref) : store.find? id = some ref := by
  unfold get at h
  split at h
  next heq =>
    cases h
    exact heq
  next => cases h

theorem get_of_find? {id : String} (h : store.find? id = some ref) : store.get id = .ok ref := by
  rw [AgentStore.get, h]

theorem get_of_find?_eq_none {id : String} (h : store.find? id = none) :
    store.get id = .error (.missing .agent id) := by
  rw [AgentStore.get, h]

/-- Registered agents are all found. -/
theorem exists_mapM_get {ids : List String} (h : ∀ id ∈ ids, (store.find? id).isSome) :
    ∃ refs, ids.mapM store.get = .ok refs := by
  refine Fault.mapM_returns_iff.mpr fun id hmem => ?_
  obtain ⟨ref, hfound⟩ := Option.isSome_iff_exists.mp (h id hmem)
  exact ⟨ref, get_of_find? hfound⟩

/-! ## What does not touch the register -/

namespace SameRegister

theorem find? (h : SameRegister store later) (id : String) : later.find? id = store.find? id := by
  rw [AgentStore.find?, AgentStore.find?, h.index]

theorem has_iff (h : SameRegister store later) : later.live.Has ref ↔ store.live.Has ref := by
  rw [Live.Has, Live.Has, h.count]

/-- A store with the same register keeps what was there. -/
theorem keeps (h : SameRegister store later) : Keeps store later :=
  ⟨h.has_iff.mpr, fun _ _ => h.id _⟩

/-- A register that is the same stays in order. -/
theorem inOrder (h : SameRegister store later) (horder : InOrder store) : InOrder later := by
  intro id ref hfind
  rw [h.find?] at hfind
  rw [h.has_iff, h.id]
  exact horder id ref hfind

end SameRegister

/-- An agent may change in everything but its id. -/
theorem sameRegister_modify {change : Agent → Agent} (h : ∀ agent, (change agent).id = agent.id)
    (store : AgentStore) (ref : Ref Agent) :
    SameRegister store (store.set ref (change (store.agent ref))) where
  index := rfl
  count := Live.length_set _ _ _
  id other := Live.proj_get_modify store.live ref h other

/-- Recording an interaction registers nobody and removes nobody. -/
theorem sameRegister_record (store : AgentStore) (ref : Ref Agent) (now : Moment) (key : String)
    (value : Value) : SameRegister store (store.record ref now key value) :=
  have h : ∀ agent : Agent, (agent.record now key value).id = agent.id := fun _ => rfl
  sameRegister_modify h store ref

/-- Making an agent live registers nobody. -/
theorem keeps_add (store : AgentStore) (agent : Agent) : Keeps store (store.add agent) where
  has := Live.has_add_of_has agent
  id hhas _ := congrArg Agent.id (Live.get_add_of_has store.live agent hhas)

/-- An agent that is made does not disturb the order. -/
theorem InOrder.add (h : InOrder store) (agent : Agent) : InOrder (store.add agent) := by
  intro id ref hfind
  obtain ⟨hhas, hid, hne⟩ := h id ref hfind
  exact ⟨(keeps_add store agent).has hhas,
    ((keeps_add store agent).id hhas (hid ▸ hne)).trans hid, hne⟩

/-! ## Registration -/

section

variable {agent : Agent}

/-- An agent that has an id may be given any other state with that id, and be registered. -/
theorem keeps_put (hid : (store.agent ref).id ≠ "" → agent.id = (store.agent ref).id) :
    Keeps store (store.put ref agent) where
  has hhas := Live.has_set.mpr hhas
  id {other} hhas hne := by
    by_cases hother : other = ref
    · subst hother
      rw [← hid hne]
      exact congrArg Agent.id (Live.get_set_self store.live agent hhas)
    · exact congrArg Agent.id (Live.get_set_of_ne store.live agent hother)

/-- An agent may be registered under the id that it had, or under a new one if it had none. -/
theorem InOrder.put (h : InOrder store) (hhas : store.live.Has ref) (hne : agent.id ≠ "")
    (hid : (store.agent ref).id ≠ "" → agent.id = (store.agent ref).id) :
    InOrder (store.put ref agent) := by
  have hkeeps := keeps_put hid
  intro id other hfind
  rw [AgentStore.find?, AgentStore.put, Table.find?_insert] at hfind
  split at hfind
  -- The id of the agent itself, or that of another one, which was found before.
  next heq =>
    cases hfind
    refine ⟨hkeeps.has hhas, ?_, heq ▸ hne⟩
    rw [heq]
    exact congrArg Agent.id (Live.get_set_self store.live agent hhas)
  next =>
    obtain ⟨hother, hold, hid_ne⟩ := h id other hfind
    exact ⟨hkeeps.has hother, (hkeeps.id hother (hold ▸ hid_ne)).trans hold, hid_ne⟩

end

/-- An agent that is created gets an id if it has none, and keeps the one that it has. -/
theorem create_spec {fresh : String} {now : Moment} (hfresh : fresh ≠ "") (h : InOrder store)
    (hhas : store.live.Has ref) (hcreate : store.create ref fresh now = .ok later) :
    InOrder later ∧ Keeps store later := by
  unfold create at hcreate
  dsimp only at hcreate
  split at hcreate
  -- An agent without an id takes the fresh one, and nobody knew it under another.
  next hempty =>
    cases hcreate
    exact ⟨h.put hhas hfresh fun hne => absurd hempty hne, keeps_put fun hne => absurd hempty hne⟩
  next hne =>
    split at hcreate
    · cases hcreate
    · cases hcreate
      exact ⟨h.put hhas hne fun _ => rfl, keeps_put fun _ => rfl⟩

/-- An agent that is updated was registered under its id. -/
theorem update_spec {now : Moment} (h : InOrder store) (hhas : store.live.Has ref)
    (hupdate : store.update ref now = .ok later) : InOrder later ∧ Keeps store later := by
  obtain ⟨previous, hget, hupdate⟩ := Fault.bind_eq_ok_iff.mp hupdate
  obtain ⟨time, htime, hupdate⟩ := Fault.bind_eq_ok_iff.mp hupdate
  cases hupdate
  have hne : (store.agent ref).id ≠ "" := (h _ previous (find?_of_get hget)).2.2
  exact ⟨h.put hhas hne fun _ => rfl, keeps_put fun _ => rfl⟩

/-- An agent that is deleted stays live. -/
theorem delete_spec {id : String} (h : InOrder store) (hdelete : store.delete id = .ok later) :
    InOrder later ∧ Keeps store later := by
  unfold delete at hdelete
  split at hdelete
  · cases hdelete
    -- Only the index has changed, and what is still found was found before.
    refine ⟨?_, ⟨fun hhas => hhas, fun _ _ => rfl⟩⟩
    intro other ref hfind
    rw [AgentStore.find?, Table.find?_erase] at hfind
    split at hfind
    · cases hfind
    · exact h other ref hfind
  · cases hdelete

end Orchestration.AgentStore
