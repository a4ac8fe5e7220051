import Orchestration.Proofs.Interaction
import Orchestration.Proofs.Memory
import Orchestration.Proofs.Registration

/-!
# How long context windows are

An interaction that is recorded goes to the end of a context window, and what the window has no
room for is cut off at its start. So what an engine does of itself never makes a window too long:
all that its services do to agents is that they record interactions (`serviceLaw_onAgents`).

But callers register agents with states of their own, and change the agents that they know, and
then nothing is cut off. The main statement is `windows_bounded_iff`: the windows of all registered
agents keep their bound exactly as long as nobody brings one that exceeds it.
-/

namespace Orchestration

/-! ## The windows of agents -/

/-- The context window of the agent has no more entries than there is room for. -/
def Agent.Bounded (agent : Agent) : Prop :=
  agent.context.length ≤ contextLimit

/-- A state that is made for an agent without one has an empty window. -/
theorem Agent.context_ensureState (agent : Agent) (now : Moment) :
    (agent.ensureState now).context = agent.context := by
  unfold ensureState stateOr context
  cases agent.state <;> rfl

/-- Whatever the window was before, there is room for all of it once an interaction is recorded. -/
theorem Agent.bounded_record (agent : Agent) (now : Moment) (key : String) (value : Value) :
    (agent.record now key value).Bounded :=
  (AgentState.length_window _).trans_le (Nat.min_le_left _ _)

namespace AgentStore

/-- All agents in the store have bounded windows. -/
def Bounded (store : AgentStore) : Prop :=
  ∀ id agent, store.stored? id = some agent → agent.Bounded

/-- The same agents are registered, and no window has become too long. -/
structure KeepsWindows (store later : AgentStore) : Prop where
  index : later.index = store.index
  bounded : ∀ ref, (store.agent ref).Bounded → (later.agent ref).Bounded

instance : IsPreorder AgentStore KeepsWindows where
  refl _ := ⟨rfl, fun _ => id⟩
  trans _ _ _ h h' := ⟨h'.index.trans h.index, fun ref => h'.bounded ref ∘ h.bounded ref⟩

variable {store later : AgentStore} {ref : Ref Agent} {agent : Agent}

/-- The windows of a store are bounded if those of all registered references are. -/
theorem bounded_iff :
    store.Bounded ↔ ∀ id ref, store.find? id = some ref → (store.agent ref).Bounded := by
  constructor
  · intro h id ref hfind
    exact h id _ (stored?_eq_some_iff.mpr ⟨ref, hfind, rfl⟩)
  · intro h id agent hstored
    obtain ⟨ref, hfind, rfl⟩ := stored?_eq_some_iff.mp hstored
    exact h id ref hfind

/-- What keeps the windows of all agents keeps those of the store. -/
theorem KeepsWindows.stored (h : KeepsWindows store later) (hbounded : store.Bounded) :
    later.Bounded := by
  rw [bounded_iff] at hbounded ⊢
  intro id ref hfind
  rw [AgentStore.find?, h.index] at hfind
  exact h.bounded ref (hbounded id ref hfind)

/-- An interaction that is recorded drops as many old entries as there is no room for. -/
theorem keepsWindows_record (store : AgentStore) (ref : Ref Agent) (now : Moment) (key : String)
    (value : Value) : KeepsWindows store (store.record ref now key value) where
  index := rfl
  bounded other := by
    let keeps : Agent → Agent → Prop := fun agent agent' => agent.Bounded → agent'.Bounded
    have : Std.Refl keeps := ⟨fun _ => id⟩
    exact Live.rel_get_modify (r := keeps) store.live ref
      (fun agent _ => agent.bounded_record now key value) other

/-! ## Windows that are brought -/

/-- Registering an agent leaves the windows of the others alone, so it is up to the window that the
agent brings. -/
theorem bounded_put_iff (hbounded : store.Bounded) (hhas : store.live.Has ref) :
    (store.put ref agent).Bounded ↔ agent.Bounded := by
  have hself : (store.put ref agent).agent ref = agent := Live.get_set_self _ _ hhas
  have hfind : ∀ id, (store.put ref agent).find? id =
      if id = agent.id then some ref else store.find? id :=
    fun id => Table.find?_insert store.index agent.id id ref
  rw [bounded_iff] at hbounded ⊢
  constructor
  · intro h
    rw [← hself]
    exact h agent.id ref (by rw [hfind, if_pos rfl])
  · intro hagent id other hother
    -- The same agent may be known under another id, too.
    by_cases hsame : other = ref
    · rw [hsame, hself]
      exact hagent
    · rw [hfind] at hother
      split at hother
      · exact absurd (Option.some.inj hother).symm hsame
      · have hleft : (store.put ref agent).agent other = store.agent other :=
          Live.get_set_of_ne _ _ hsame
        rw [hleft]
        exact hbounded id other hother

/-- A change of an agent matters to the store if the agent is registered. -/
theorem bounded_set_iff (horder : store.InOrder) (hbounded : store.Bounded)
    (hid : agent.id = (store.agent ref).id) :
    (store.set ref agent).Bounded ↔ (store.Registered ref → agent.Bounded) := by
  by_cases hregistered : store.Registered ref
  · have hhas := (horder _ ref hregistered).1
    rw [set_eq_put hregistered hid, bounded_put_iff hbounded hhas]
    simp [hregistered]
  · have hsame : (store.set ref agent).Bounded ↔ store.Bounded := by
      rw [Bounded, stored?_set_of_not_registered horder hregistered, Bounded]
    rw [hsame]
    exact iff_of_true hbounded fun h => absurd h hregistered

/-- An agent that is made is not in the store yet. -/
theorem Bounded.add (h : store.Bounded) (horder : store.InOrder) (agent : Agent) :
    (store.add agent).Bounded := by
  rw [bounded_iff] at h ⊢
  intro id ref hfind
  have hhas : store.live.Has ref := (horder id ref hfind).1
  have hsame : (store.add agent).agent ref = store.agent ref := Live.get_add_of_has _ _ hhas
  rw [hsame]
  exact h id ref hfind

/-- To take an agent out lengthens no window. -/
theorem Bounded.without (h : store.Bounded) (id : String) : (store.without id).Bounded := by
  intro other agent hstored
  rw [(changes_without store id).stored?, Function.update_apply] at hstored
  split at hstored
  · cases hstored
  · exact h other agent hstored

end AgentStore

namespace Engine

open AgentStore

variable {σ τ : Type}

/-! ## What services do to agents -/

section Services

/-- The agents of the two worlds stand in the relation. -/
def OnAgents (r : AgentStore → AgentStore → Prop) (w w' : World σ τ) : Prop :=
  r w.agents w'.agents

variable {r : AgentStore → AgentStore → Prop} [IsPreorder AgentStore r]

instance : IsPreorder (World σ τ) (OnAgents r) where
  refl w := Std.Refl.refl w.agents
  trans w₁ w₂ w₃ h h' := IsTrans.trans w₁.agents w₂.agents w₃.agents h h'

/-- An operation that leaves the agents alone respects every relation between them. -/
theorem onAgents_of_eq {w w' : World σ τ} (h : w'.agents = w.agents) : OnAgents r w w' := by
  rw [OnAgents, h]
  exact Std.Refl.refl _

theorem onAgents_log (level : Log.Level) (logger message : String) :
    Guarantees (OnAgents r) (log level logger message : Run σ τ Unit) :=
  guarantees_modify fun _ => onAgents_of_eq rfl

theorem onAgents_freshId : Guarantees (OnAgents r) (freshId : Run σ τ String) :=
  guarantees_modifyGet fun _ => onAgents_of_eq rfl

variable (hrecord : ∀ store ref now key value, r store (store.record ref now key value))

include hrecord

omit [IsPreorder AgentStore r] in
/-- To record an interaction is the step that the relation has to allow. -/
theorem onAgents_recordInteraction (ref : Ref Agent) (key : String) (value : Value) :
    Guarantees (OnAgents r) (recordInteraction ref key value : Run σ τ Unit) :=
  guarantees_modify fun w => hrecord w.agents ref _ key value

/-- An announcement is recorded with each member in turn. -/
theorem onAgents_announced (w : World σ τ) (id : String) (members : List (Ref Agent)) :
    r w.agents (announced w id members) := by
  unfold announced
  generalize w.agents = agents
  induction members generalizing agents with
  | nil => exact Std.Refl.refl _
  | cons member rest ih => exact IsTrans.trans _ _ _ (hrecord agents member _ _ _) (ih _)

/-- A message is recorded with its sender and its receiver, and with nobody else. -/
theorem onAgents_deliver (conversationId : String) (ref : Ref Message) (admission : Admission) :
    Guarantees (OnAgents r) (deliver conversationId ref admission : Run σ τ Message) := by
  have hpost : ∀ message, Guarantees (OnAgents r) (post conversationId admission.conversation
      message admission.sender admission.receiver : Run σ τ Unit) := by
    intro message
    refine guarantees_now.bind fun _ => Guarantees.bind ?_ fun _ => ?_
    · exact guarantees_modify fun _ => onAgents_of_eq rfl
    refine (onAgents_recordInteraction hrecord _ _ _).bind fun _ => ?_
    split
    · exact onAgents_recordInteraction hrecord _ _ _
    · exact guarantees_pure _
  refine guarantees_get.bind fun _ => onAgents_freshId.bind fun _ => guarantees_now.bind fun _ => ?_
  refine Guarantees.bind (guarantees_modify fun _ => onAgents_of_eq rfl) fun _ => ?_
  exact (hpost _).bind fun _ => (onAgents_log _ _ _).bind fun _ => guarantees_pure _

variable [Time τ]

/-- To send a message changes agents only where it is delivered. -/
theorem onAgents_send (conversationId : String) (ref : Ref Message) (context : Option String) :
    Guarantees (OnAgents r) (send conversationId ref context : Run σ τ Message) := by
  refine guarantees_get.bind fun w => (guarantees_lift _).bind fun admission => ?_
  refine (onAgents_deliver hrecord _ _ _).bind fun message => ?_
  refine Guarantees.bind ?_ fun _ => guarantees_pure _
  -- Starting a worker has nothing to do with what agents remember.
  unfold startWorker
  split
  · refine onAgents_freshId.bind fun _ => (guarantees_agent _).bind fun _ =>
      guarantees_get.bind fun _ => guarantees_now.bind fun _ => (guarantees_lift _).bind fun _ => ?_
    refine Guarantees.bind (guarantees_modifyGet fun _ => onAgents_of_eq rfl) fun _ => ?_
    exact Guarantees.bind (guarantees_modify fun _ => onAgents_of_eq rfl) fun _ =>
      onAgents_log _ _ _
  · exact guarantees_pure _

/-- To close a conversation changes agents only in that it is announced. -/
theorem onAgents_closeConversation (id : String) (context : Option String) :
    Guarantees (OnAgents r) (closeConversation id context : Run σ τ Conversation) := by
  refine (guarantees_check _ _).bind fun _ => guarantees_get.bind fun _ => ?_
  refine (guarantees_lift _).bind fun conversation => ?_
  split
  · exact (onAgents_log _ _ _).bind fun _ => guarantees_pure _
  refine guarantees_now.bind fun _ => Guarantees.bind ?_ fun _ => ?_
  · exact guarantees_modify fun _ => onAgents_of_eq rfl
  refine Guarantees.bind ?_ fun _ => guarantees_pure _
  refine (guarantees_forM _ fun _ _ => guarantees_get.bind fun _ => ?_).bind fun _ =>
    onAgents_log _ _ _
  split
  · exact onAgents_recordInteraction hrecord _ _ _
  · exact guarantees_pure _

/-- An execution changes agents only in its work. -/
theorem onAgents_execute [Backend σ τ] (ref : Ref Task) (agentRef : Ref Agent)
    (context : Option String) (tracked : Bool) :
    Guarantees (OnAgents r) (execute ref agentRef context tracked : Run σ τ TaskResult) := by
  intro w
  have hleaves := agents_execute ref agentRef context tracked w
  -- Whatever comes of the task, at most one interaction is remembered.
  have hremembering : ∀ interaction,
      r w.agents (remembering w.agents agentRef w.surroundings.clock.now interaction) := by
    intro interaction
    cases interaction with
    | none => exact Std.Refl.refl _
    | some interaction => exact hrecord _ _ _ _ _
  unfold Leaves at hleaves
  rw [OnAgents]
  generalize outcomeOf (execute ref agentRef context tracked) w = outcome at hleaves
  cases hleaves with
  | failed hagents => exact hagents ▸ hremembering _
  | returned _ hagents => exact hagents ▸ hremembering _

/-- All that services do to agents is that they record interactions. -/
theorem serviceLaw_onAgents [Backend σ τ] : ServiceLaw (OnAgents (σ := σ) (τ := τ) r) where
  idle _ _ _ _ _ _ _ := onAgents_of_eq rfl
  issued _ := onAgents_of_eq rfl
  registry _ _ := onAgents_of_eq rfl
  workers _ _ _ := onAgents_of_eq rfl
  taskAdded _ _ _ := onAgents_of_eq rfl
  startConversation participants topic metadata context w := by
    have hstarting := starting participants topic metadata context w
    generalize outcomeOf (startConversation participants topic metadata context) w = outcome,
      worldAfter (startConversation participants topic metadata context) w = w' at hstarting ⊢
    cases hstarting with
    | refused => exact Std.Refl.refl _
    | started _ _ hagents =>
      rw [OnAgents, hagents]
      exact onAgents_announced hrecord w _ _
  sendNew w message conversationId context _ :=
    onAgents_send hrecord conversationId w.messages.next context
      { w with messages := w.messages.add message }
  closeConversation := onAgents_closeConversation hrecord
  execute := onAgents_execute hrecord

end Services

/-! ## What callers bring -/

section Callers

variable [Time τ] {w : World σ τ} {ref : Ref Agent} {context : Option String}

/-- What registering an agent comes to, as far as context windows go: the agent takes its place with
the window that it brings, or nothing happens. -/
def Places (w : World σ τ) (ref : Ref Agent) (outcome : Except Fault Unit) (w' : World σ τ) :
    Prop :=
  match outcome with
  | .ok _ => ∃ agent, w'.agents = w.agents.put ref agent ∧
      agent.context = (w.agents.agent ref).context
  | .error _ => w'.agents = w.agents

omit [Time τ] in
/-- What the store refuses is not done, and what it does is to put the agent in its place. -/
theorem places_replaced {result : Except Fault AgentStore} (note : AgentStore → String)
    (h : ∀ later, result = .ok later → ∃ agent, later = w.agents.put ref agent ∧
      agent.context = (w.agents.agent ref).context) :
    let run : Run σ τ Unit := do
      let agents ← lift result
      modify fun w => { w with agents }
      log .info agentLogger (note agents)
    Places w ref (outcomeOf run w) (worldAfter run w) := by
  intro run
  obtain ⟨houtcome, hagents⟩ := agents_replaced result note w
  rw [houtcome]
  cases hresult : result with
  | error fault => exact hagents.trans (by rw [hresult]; rfl)
  | ok later =>
    obtain ⟨agent, hput, hcontext⟩ := h later hresult
    refine ⟨agent, ?_, hcontext⟩
    rw [hagents, hresult, ← hput]
    rfl

/-- An agent that is registered brings its window, and keeps it. -/
theorem places_createAgent (ref : Ref Agent) (context : Option String) (w : World σ τ) :
    Places w ref (outcomeOf (createAgent ref context) w)
      (worldAfter (createAgent ref context) w) := by
  refine rel_of_check (fun _ => rfl) ?_
  refine places_replaced (w := { w with issued := w.issued + 1 })
    (fun agents => "Created agent " ++ agentLabel (agents.agent ref)) fun later hcreate => ?_
  unfold AgentStore.create at hcreate
  dsimp only at hcreate
  split at hcreate
  · cases hcreate
    exact ⟨_, rfl, Agent.context_ensureState _ _⟩
  · split at hcreate
    · cases hcreate
    · cases hcreate
      exact ⟨_, rfl, Agent.context_ensureState _ _⟩

/-- An agent that is updated brings its window, and keeps it. -/
theorem places_updateAgent (ref : Ref Agent) (context : Option String) (w : World σ τ) :
    Places w ref (outcomeOf (updateAgent ref context) w)
      (worldAfter (updateAgent ref context) w) := by
  refine rel_of_check (fun _ => rfl) ?_
  refine places_replaced (fun agents => "Updated agent " ++ agentLabel (agents.agent ref))
    fun later hupdate => ?_
  obtain ⟨previous, -, hupdate⟩ := Fault.bind_eq_ok_iff.mp hupdate
  obtain ⟨time, -, hupdate⟩ := Fault.bind_eq_ok_iff.mp hupdate
  cases hupdate
  exact ⟨_, rfl, Agent.context_ensureState _ _⟩

omit [Time τ] in
/-- Whoever registers an agent is responsible for the window that it brings. -/
theorem Places.bounded_iff {w' : World σ τ} {outcome : Except Fault Unit}
    (h : Places w ref outcome w') (hbounded : w.agents.Bounded) (hhas : w.agents.live.Has ref) :
    w'.agents.Bounded ↔ ¬ (outcome = .ok () ∧ ¬ (w.agents.agent ref).Bounded) := by
  cases outcome with
  | error fault =>
    have hsame : w'.agents = w.agents := h
    rw [hsame]
    exact iff_of_true hbounded fun hboth => nomatch hboth.1
  | ok _ =>
    obtain ⟨agent, hput, hcontext⟩ := h
    rw [hput, bounded_put_iff hbounded hhas, Agent.Bounded, hcontext]
    simp [Agent.Bounded]

/-- An agent that the engine makes for a caller brings an empty window. -/
theorem bounded_createNew (hconsistent : Consistent w) (hbounded : w.agents.Bounded) {agent : Agent}
    (hempty : agent.context = []) (context : Option String) :
    (worldAfter (do
      let ref ← newAgent agent
      createAgent ref context
      return ref : Run σ τ (Ref Agent)) w).agents.Bounded := by
  rw [worldAfter_createNew]
  set made : World σ τ := { w with agents := w.agents.add agent }
  have hself : made.agents.agent w.agents.live.next = agent := Live.get_add_next _ _
  have hmade : made.agents.Bounded := hbounded.add hconsistent.agents agent
  have hplaces := places_createAgent w.agents.live.next context made
  refine (hplaces.bounded_iff hmade (Live.has_add_next _ _)).mpr fun hboth => hboth.2 ?_
  rw [hself, Agent.Bounded, hempty]
  exact Nat.zero_le _

end Callers

variable [Time τ] [Backend σ τ]

/-- A registered agent gets a window that is too long from a caller, who registers it so or changes
it later. -/
def Event.Overfills (w : World σ τ) : Event σ τ → Prop
  | createAgent ref context =>
    outcomeOf (Engine.createAgent ref context) w = .ok () ∧ ¬ (w.agents.agent ref).Bounded
  | updateAgent ref context =>
    outcomeOf (Engine.updateAgent ref context) w = .ok () ∧ ¬ (w.agents.agent ref).Bounded
  | changeAgent ref change =>
    w.agents.Registered ref ∧ ¬ (change (w.agents.agent ref)).Bounded
  | _ => False

/-- **Step law.** Windows that are bounded stay so, unless a caller brings one that is not. -/
theorem bounded_event_iff {w : World σ τ} {event : Event σ τ} (hconsistent : Consistent w)
    (hbounded : w.agents.Bounded) (hadmissible : event.Admissible w) :
    (worldAfter event.run w).agents.Bounded ↔ ¬ event.Overfills w := by
  -- Services only record interactions, so what matters is what is up to callers.
  have hservice : ¬ event.Direct → (worldAfter event.run w).agents.Bounded := fun hnot =>
    KeepsWindows.stored ((serviceLaw_onAgents keepsWindows_record).event fun h => absurd h hnot)
      hbounded
  cases event with
  | changeAgent ref change =>
    have hset : (w.agents.set ref (change (w.agents.agent ref))).Bounded ↔
        (w.agents.Registered ref → (change (w.agents.agent ref)).Bounded) :=
      bounded_set_iff hconsistent.agents hbounded (hadmissible _)
    have hoverfills : (w.agents.Registered ref → (change (w.agents.agent ref)).Bounded) ↔
        ¬ (Event.changeAgent ref change).Overfills w := by simp [Event.Overfills]
    exact hset.trans hoverfills
  | createAgent ref context =>
    exact (places_createAgent ref context w).bounded_iff hbounded hadmissible
  | updateAgent ref context =>
    exact (places_updateAgent ref context w).bounded_iff hbounded hadmissible
  | makeAgent agent => exact iff_of_true (hbounded.add hconsistent.agents agent) id
  | makeTask _ | makeMessage _ | changeMessage _ _ => exact iff_of_true hbounded id
  | deleteAgent id context =>
    refine iff_of_true ?_ fun h => h
    refine rel_of_check (R := fun _ w' => w'.agents.Bounded) (fun _ => hbounded) ?_
    have hagents := (agents_replaced (w.agents.delete id) (fun _ => "Deleted agent " ++ id) w).2
    have hdeleted : (w.agents.after (w.agents.delete id)).Bounded := by
      rw [AgentStore.delete]
      split
      · exact hbounded.without id
      · exact hbounded
    exact hagents.symm ▸ hdeleted
  | createDefaultAgent context =>
    have hempty : (defaultAgent w.settings w.registry).context = [] := rfl
    have hmade := bounded_createNew hconsistent hbounded hempty context
    exact iff_of_true ((worldAfter_bind_pure _ _ _).symm ▸ hmade) id
  | createSpecializedAgent type domain context =>
    refine iff_of_true ?_ id
    have hrun : worldAfter (Event.createSpecializedAgent type domain context).run w =
        worldAfter (Engine.createSpecializedAgent type domain context) w :=
      worldAfter_bind_pure _ _ _
    rw [hrun, Engine.createSpecializedAgent]
    cases flavourOf type with
    | error fault => exact hbounded
    | ok flavour =>
      cases domainOf domain with
      | error fault => exact hbounded
      | ok domain => exact bounded_createNew hconsistent hbounded rfl context
  | send conversationId ref context =>
    have hkeeps := (onAgents_send keepsWindows_record conversationId ref context).discard w
    exact iff_of_true (KeepsWindows.stored hkeeps hbounded) id
  | _ => exact iff_of_true (hservice id) id

/-- **How long context windows are.** In a run that starts with a fresh engine, whatever agents are
made, registered, updated and deleted, whatever tasks, conversations and delegations there are,
every registered agent has at most as many entries in its context window as there is room for, in
every world on the way, exactly as long as no caller brings more: by registering an agent or
updating one with a window that is too long, or by giving a registered agent such a window. -/
theorem windows_bounded_iff {w : World σ τ} {events : List (Event σ τ)} (hfresh : Fresh w)
    (hadmissible : AdmissibleFrom w events) :
    (∀ earlier, earlier <+: events → ∀ id agent,
        (after w earlier).agents.stored? id = some agent → agent.context.length ≤ contextLimit) ↔
      Throughout (fun w event => ¬ event.Overfills w) w events := by
  have hempty : w.agents.Bounded := by
    rw [hfresh.agents]
    exact fun id agent hstored => nomatch hstored
  refine (admissibleFrom_iff.mp hadmissible).always_iff Consistent (fun w => w.agents.Bounded) ?_
    hfresh.consistent hempty
  intro w event hconsistent hadmissible
  exact ⟨(advances_event event hadmissible hconsistent).1,
    fun hbounded => bounded_event_iff hconsistent hbounded hadmissible⟩

/-! ## An agent with a past -/

/-- An agent that brings as many entries as given is made and registered. -/
def arrival (entries : Nat) : List (Event (Scripted.Script Rat) Rat) :=
  [.makeAgent {
      id := "al"
      state := some { AgentState.fresh (.utc 0) with
        context := List.replicate entries ⟨"note", .null, .utc 0, 1.0⟩ } },
    .createAgent ⟨0⟩ none]

/-- An agent whose window is full hears of a conversation, and has forgotten its oldest
entry then. -/
theorem windows_bounded_arrival :
    let events := arrival 10 ++ [.startConversation ["al"] "" [] none]
    Fresh quietEngine ∧ AdmissibleFrom quietEngine events ∧
      (∀ earlier, earlier <+: events → ∀ id agent,
        (after quietEngine earlier).agents.stored? id = some agent →
          agent.context.length ≤ contextLimit) ∧
      ((after quietEngine events).agents.agent ⟨0⟩).context.map (·.key) =
        List.replicate 9 "note" ++ ["conversation_started"] := by
  intro events
  have hadmissible : AdmissibleFrom quietEngine events :=
    ⟨trivial, Nat.zero_lt_one, trivial, trivial⟩
  -- The one who registers brings ten entries, and that is what there is room for.
  have hfits : Throughout (fun w event => ¬ event.Overfills w) quietEngine events :=
    ⟨id, fun hboth => hboth.2 (Nat.le_refl 10), id, trivial⟩
  exact ⟨fresh_quietEngine, hadmissible,
    (windows_bounded_iff fresh_quietEngine hadmissible).mpr hfits, rfl⟩

/-- An agent that brings one entry more than there is room for is registered with all of them. -/
theorem not_bounded_arrival :
    let w := after quietEngine (arrival 11)
    Reachable w ∧ ∃ agent, w.agents.stored? "al" = some agent ∧
      contextLimit < agent.context.length := by
  intro w
  have hreaches : Reaches quietEngine w := reaches_after ⟨trivial, Nat.zero_lt_one, trivial⟩
  exact ⟨⟨quietEngine, fresh_quietEngine, hreaches⟩, _, rfl, by decide⟩

end Engine

end Orchestration
