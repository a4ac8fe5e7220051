import Orchestration.Proofs.Consistency

/-!
# Runs of an engine

A run is any sequence of events (`Reaches`): callers make and change what they know and ask the
engine for something, workers of delegations run in any order, and time passes. Whatever the events
are, and whether what was asked for succeeds or fails, a run that starts with a fresh engine stays
consistent (`Reachable.consistent`), and what is there stays there (`Reachable.evolves`).
-/

namespace Orchestration.Engine

variable {σ τ : Type}

/-! ## Events -/

/-- What can happen to an engine. -/
inductive Event (σ τ : Type) where
  /-- Time passes, contexts are made and cancelled, and the backend changes. -/
  | outside (surroundings : Surroundings τ) (backend : σ)
  /-- An identifier is issued to a caller. -/
  | issue
  | makeAgent (agent : Agent)
  /-- A caller changes an agent that it knows. -/
  | changeAgent (ref : Ref Agent) (change : Agent → Agent)
  | makeTask (task : Task)
  | makeMessage (message : Message)
  /-- A caller changes a message that it knows. -/
  | changeMessage (ref : Ref Message) (message : Message)
  | registerCapability (loaded : ClassPath.Loaded)
  | createAgent (ref : Ref Agent) (context : Option String)
  | updateAgent (ref : Ref Agent) (context : Option String)
  | deleteAgent (id : String) (context : Option String)
  | createDefaultAgent (context : Option String)
  | createSpecializedAgent (type : Value) (domain : String) (context : Option String)
  | startConversation (participants : List String) (topic : String) (metadata : Fields)
      (context : Option String)
  | send (conversationId : String) (ref : Ref Message) (context : Option String)
  | closeConversation (id : String) (context : Option String)
  | runConversationWorkflow (workflow : ConversationWorkflow) (context : Option String)
  /-- The worker at a position of the queue runs to its end. -/
  | runQueued (position : Nat)
  | drain
  | executeTask (agentId : String) (task : Ref Task) (context : Option String)
  | executeTasks (agentId : String) (tasks : List (Ref Task)) (sequential : Bool)
      (context : Option String)
  | orchestrate (request : OrchestrationRequest) (context : Option String)
  | smartRoute (agentId text : String) (type : Value) (context : Option String)
  | runWorkflow (agentId : String) (steps : List WorkflowStep) (context : Option String)

namespace Event

/-- What an event does. Whoever asked for something learns what came of it; the engine goes on with
the world that is left. -/
def run [Time τ] [Backend σ τ] : Event σ τ → Run σ τ Unit
  | outside surroundings backend => modify fun w => { w with surroundings, backend }
  | issue => discard freshId
  | makeAgent agent => discard (newAgent agent)
  | changeAgent ref change =>
    modify fun w => { w with agents := w.agents.set ref (change (w.agents.agent ref)) }
  | makeTask task => discard (newTask task)
  | makeMessage message => discard (newMessage message)
  | changeMessage ref message => modify fun w => { w with messages := w.messages.set ref message }
  | registerCapability loaded => register loaded
  | createAgent ref context => Engine.createAgent ref context
  | updateAgent ref context => Engine.updateAgent ref context
  | deleteAgent id context => Engine.deleteAgent id context
  | createDefaultAgent context => discard (Engine.createDefaultAgent context)
  | createSpecializedAgent type domain context =>
    discard (Engine.createSpecializedAgent type domain context)
  | startConversation participants topic metadata context =>
    discard (Engine.startConversation participants topic metadata context)
  | send conversationId ref context => discard (Engine.send conversationId ref context)
  | closeConversation id context => discard (Engine.closeConversation id context)
  | runConversationWorkflow workflow context =>
    discard (Engine.runConversationWorkflow workflow context)
  | runQueued position => Engine.runQueued position
  | drain => Engine.drain
  | executeTask agentId task context => discard (Engine.executeTask agentId task context)
  | executeTasks agentId tasks sequential context =>
    discard (Engine.executeTasks agentId tasks sequential context)
  | orchestrate request context => discard (Engine.orchestrate request context)
  | smartRoute agentId text type context =>
    discard (Engine.smartRoute agentId text type context)
  | runWorkflow agentId steps context => discard (Engine.runWorkflow agentId steps context)

/-- Callers name agents that they know, and leave them their ids. -/
def Admissible (w : World σ τ) : Event σ τ → Prop
  | changeAgent _ change => ∀ agent, (change agent).id = agent.id
  | createAgent ref _ | updateAgent ref _ => w.agents.live.Has ref
  | _ => True

/-- A caller makes or changes something without asking the engine. -/
def Own : Event σ τ → Prop
  | changeAgent _ _ | makeTask _ | changeMessage _ _ => True
  | _ => False

/-- It is up to the caller which agent, task or message the event is about. -/
def Direct : Event σ τ → Prop
  | makeAgent _ | changeAgent _ _ | createAgent _ _ | updateAgent _ _ | deleteAgent _ _
  | createDefaultAgent _ | createSpecializedAgent _ _ _
  | makeTask _ | makeMessage _ | changeMessage _ _ | send _ _ _ => True
  | _ => False

end Event

/-! ## Runs -/

section Runs

variable [Time τ] [Backend σ τ]

/-- The engine can come from the first world to the second one. -/
inductive Reaches : World σ τ → World σ τ → Prop
  | refl (w : World σ τ) : Reaches w w
  | step {w w' : World σ τ} (hbefore : Reaches w w') (event : Event σ τ)
      (hadmissible : event.Admissible w') : Reaches w (worldAfter event.run w')

omit [Time τ] [Backend σ τ] in
/-- Nobody is registered yet, and there is nothing to talk about and nothing to do. -/
structure Fresh (w : World σ τ) : Prop where
  agents : w.agents = {}
  tasks : w.tasks = {}
  conversations : w.conversations = []
  workers : w.workers = []

/-- The worlds of runs that start with a fresh engine. -/
def Reachable (w : World σ τ) : Prop :=
  ∃ fresh, Fresh fresh ∧ Reaches fresh w

/-- What is reached from a world that was reached is reached. -/
theorem Reaches.trans {w₁ w₂ w₃ : World σ τ} (h : Reaches w₁ w₂) (h' : Reaches w₂ w₃) :
    Reaches w₁ w₃ := by
  induction h' with
  | refl => exact h
  | step _ event hadmissible ih => exact .step ih event hadmissible

/-- What is reached from a reachable world is reachable. -/
theorem Reachable.reaches {w w' : World σ τ} (h : Reachable w) (h' : Reaches w w') :
    Reachable w' := by
  obtain ⟨fresh, hfresh, hreaches⟩ := h
  exact ⟨fresh, hfresh, hreaches.trans h'⟩

omit [Time τ] [Backend σ τ] in
/-- An engine with neither agents nor conversations is consistent. -/
theorem Fresh.consistent {w : World σ τ} (h : Fresh w) : Consistent w where
  agents id ref hfind := by
    rw [h.agents] at hfind
    cases hfind
  conversations id conversation hfound := by
    rw [h.conversations] at hfound
    cases hfound
  workers delegation hmem := by
    rw [h.workers] at hmem
    cases hmem

/-- What every service guarantees, every event guarantees, if callers guarantee it for the agents
and messages that they bring. -/
theorem ServiceLaw.event {R : World σ τ → World σ τ → Prop} [IsPreorder (World σ τ) R]
    (law : ServiceLaw R) {event : Event σ τ} {w : World σ τ}
    (hdirect : event.Direct → R w (worldAfter event.run w)) : R w (worldAfter event.run w) := by
  -- The events of the first group are those that a service law says nothing about.
  cases event with
  | makeAgent _ | changeAgent _ _ | createAgent _ _ | updateAgent _ _ | deleteAgent _ _
  | createDefaultAgent _ | createSpecializedAgent _ _ _
  | makeTask _ | makeMessage _ | changeMessage _ _ | send _ _ _ => exact hdirect trivial
  | outside surroundings backend =>
    exact law.idle w surroundings backend w.scope w.thread w.journal w.history
  | issue => exact law.freshId.discard w
  | registerCapability loaded => exact law.register loaded w
  | startConversation participants topic metadata context =>
    exact (law.startConversation participants topic metadata context).discard w
  | closeConversation id context => exact (law.closeConversation id context).discard w
  | runConversationWorkflow workflow context =>
    exact (law.runConversationWorkflow workflow context).discard w
  | runQueued position => exact law.runQueued position w
  | drain => exact law.drain w
  | executeTask agentId task context =>
    exact (law.executeTask agentId task context).discard w
  | executeTasks agentId tasks sequential context =>
    exact (law.executeTasks agentId tasks sequential context).discard w
  | orchestrate request context => exact (law.orchestrate request context).discard w
  | smartRoute agentId text type context =>
    exact (law.smartRoute agentId text type context).discard w
  | runWorkflow agentId steps context =>
    exact (law.runWorkflow agentId steps context).discard w

/-- What every operation guarantees, every event guarantees, if callers guarantee it for what they
do on their own. -/
theorem Law.event {R : World σ τ → World σ τ → Prop} [IsPreorder (World σ τ) R] (law : Law R)
    {event : Event σ τ} {w : World σ τ} (h : event.Admissible w)
    (hown : event.Own → R w (worldAfter event.run w)) : R w (worldAfter event.run w) := by
  refine law.service.event fun hdirect => ?_
  cases event with
  | makeAgent agent =>
    exact (guarantees_modifyGet fun w => law.agentAdded w agent).discard w
  | makeMessage message =>
    exact (guarantees_modifyGet fun w => law.messageAdded w message).discard w
  | changeAgent _ _ | makeTask _ | changeMessage _ _ => exact hown trivial
  | createAgent ref context => exact law.createAgent w ref context h
  | updateAgent ref context => exact law.updateAgent w ref context h
  | deleteAgent id context => exact law.deleteAgent id context w
  | createDefaultAgent context => exact (law.createDefaultAgent context).discard w
  | createSpecializedAgent type domain context =>
    exact (law.createSpecializedAgent type domain context).discard w
  | send conversationId ref context =>
    exact (law.send conversationId ref context).discard w
  | _ => cases hdirect

/-- **Step law.** Every event advances the engine. -/
theorem advances_event (event : Event σ τ) {w : World σ τ} (h : event.Admissible w) :
    Advances w (worldAfter event.run w) := by
  refine advances.event h fun hown => ?_
  cases event with
  | changeAgent ref change =>
    -- The caller has left the agent its id.
    have hsame := AgentStore.sameRegister_modify h w.agents ref
    exact advances_withAgents fun horder => ⟨hsame.inOrder horder, hsame.keeps⟩
  | makeTask task => exact advances_addTask w task
  | changeMessage ref message => exact advances_withMessages w (w.messages.set ref message)
  | _ => cases hown

/-- **Run law.** Every run advances the engine. -/
theorem Reaches.advances {w w' : World σ τ} (h : Reaches w w') : Advances w w' := by
  induction h with
  | refl => exact Std.Refl.refl _
  | step _ event hadmissible ih => exact IsTrans.trans _ _ _ ih (advances_event event hadmissible)

/-- Every reachable engine is consistent. -/
theorem Reachable.consistent {w : World σ τ} (h : Reachable w) : Consistent w := by
  obtain ⟨fresh, hfresh, hreaches⟩ := h
  exact (hreaches.advances hfresh.consistent).1

/-- What is there in a reachable engine stays there. -/
theorem Reachable.evolves {w w' : World σ τ} (h : Reachable w) (h' : Reaches w w') :
    Evolves w w' :=
  (h'.advances h.consistent).2

end Runs

/-- The world after some events. -/
def after [Time τ] [Backend σ τ] (w : World σ τ) (events : List (Event σ τ)) : World σ τ :=
  events.foldl (fun w event => worldAfter event.run w) w

/-- Events can be divided into those of before and those of later. -/
theorem after_append [Time τ] [Backend σ τ] (w : World σ τ) (events later : List (Event σ τ)) :
    after w (events ++ later) = after (after w events) later :=
  List.foldl_append

/-- Each of the events is admissible when its turn comes. -/
def AdmissibleFrom [Time τ] [Backend σ τ] (w : World σ τ) : List (Event σ τ) → Prop
  | [] => True
  | event :: rest => event.Admissible w ∧ AdmissibleFrom (worldAfter event.run w) rest

/-- Admissible events make up a run. -/
theorem reaches_after [Time τ] [Backend σ τ] {w : World σ τ} {events : List (Event σ τ)}
    (h : AdmissibleFrom w events) : Reaches w (after w events) := by
  induction events generalizing w with
  | nil => exact .refl w
  | cons event rest ih =>
    obtain ⟨hadmissible, hrest⟩ := h
    exact Reaches.trans (.step (.refl w) event hadmissible) (ih hrest)

/-! ## What holds throughout a run -/

section Throughout

variable [Time τ] [Backend σ τ]

/-- Something holds of each of the events in the world that it finds when its turn comes. -/
def Throughout (P : World σ τ → Event σ τ → Prop) (w : World σ τ) : List (Event σ τ) → Prop
  | [] => True
  | event :: rest => P w event ∧ Throughout P (worldAfter event.run w) rest

/-- Events are admissible one after the other if each is at its turn. -/
theorem admissibleFrom_iff {w : World σ τ} {events : List (Event σ τ)} :
    AdmissibleFrom w events ↔ Throughout (fun w event => event.Admissible w) w events := by
  induction events generalizing w with
  | nil => exact Iff.rfl
  | cons event rest ih => exact and_congr_right' ih

variable {P Q : World σ τ → Event σ τ → Prop} {w : World σ τ} {events : List (Event σ τ)}

/-- Two properties of events hold throughout together. -/
theorem Throughout.and (h : Throughout P w events) (h' : Throughout Q w events) :
    Throughout (fun w event => P w event ∧ Q w event) w events := by
  induction events generalizing w with
  | nil => exact trivial
  | cons event rest ih => exact ⟨⟨h.1, h'.1⟩, ih h.2 h'.2⟩

/-- A property holds throughout if it does in both parts. -/
theorem throughout_append {later : List (Event σ τ)} :
    Throughout P w (events ++ later) ↔
      Throughout P w events ∧ Throughout P (after w events) later := by
  induction events generalizing w with
  | nil => simp [Throughout, after]
  | cons event rest ih =>
    rw [List.cons_append, Throughout, Throughout, ih, and_assoc]
    rfl

/-- **Run law.** What no event of a run breaks holds at its end. -/
theorem Throughout.invariant (Inv : World σ τ → Prop)
    (hstep : ∀ {w : World σ τ} {event : Event σ τ}, Inv w → P w event →
      Inv (worldAfter event.run w))
    (hinv : Inv w) (h : Throughout P w events) : Inv (after w events) := by
  induction events generalizing w with
  | nil => exact hinv
  | cons event rest ih => exact ih (hstep hinv h.1) h.2

/-- **Run law.** What can be broken holds in the whole of a run exactly if no event of the run
breaks it. -/
theorem Throughout.always_iff (Inv Good : World σ τ → Prop)
    {Breaks : World σ τ → Event σ τ → Prop}
    (hstep : ∀ {w : World σ τ} {event : Event σ τ}, Inv w → P w event →
      Inv (worldAfter event.run w) ∧ (Good w → (Good (worldAfter event.run w) ↔ ¬ Breaks w event)))
    (hinv : Inv w) (hgood : Good w) (h : Throughout P w events) :
    (∀ earlier, earlier <+: events → Good (after w earlier)) ↔
      Throughout (fun w event => ¬ Breaks w event) w events := by
  induction events generalizing w with
  | nil =>
    refine iff_of_true (fun earlier hprefix => ?_) trivial
    rw [List.prefix_nil.mp hprefix]
    exact hgood
  | cons event rest ih =>
    obtain ⟨hinv', hbreaks⟩ := hstep hinv h.1
    constructor
    · intro halways
      -- The first event is judged by the world that it leaves, the others by what comes after.
      have hkept : Good (worldAfter event.run w) := halways [event] (by simp)
      refine ⟨(hbreaks hgood).mp hkept, (ih hinv' hkept h.2).mp fun earlier hprefix => ?_⟩
      exact halways (event :: earlier) ((List.prefix_cons_inj event).mpr hprefix)
    · rintro ⟨hfirst, hrest⟩ earlier hprefix
      rcases List.prefix_cons_iff.mp hprefix with rfl | ⟨later, rfl, hlater⟩
      · exact hgood
      · exact (ih hinv' ((hbreaks hgood).mpr hfirst) h.2).mpr hrest later hlater

end Throughout

/-- An engine to which nothing has happened yet, with a scripted backend. -/
def quietEngine : World (Scripted.Script Rat) Rat where
  surroundings := { clock := ⟨0, 0⟩ }
  backend := {}

theorem fresh_quietEngine : Fresh quietEngine :=
  ⟨rfl, rfl, rfl, rfl⟩

/-- Two agents exchange a message and close their conversation. -/
def farewell : List (Event (Scripted.Script Rat) Rat) :=
  [.makeAgent { id := "al" },
    .makeAgent { id := "bo" },
    .createAgent ⟨0⟩ none,
    .createAgent ⟨1⟩ none,
    .startConversation ["al", "bo"] "farewell" [] none,
    .makeMessage { fromAgent := "al", toAgent := "bo", content := "bye" },
    .send (Identifier.issue 2) ⟨0⟩ none,
    .closeConversation (Identifier.issue 2) none]

/-- The farewell is a run of admissible events. -/
theorem reachable_farewell : Reachable (after quietEngine farewell) := by
  have hadmissible : AdmissibleFrom quietEngine farewell :=
    ⟨trivial, trivial, Nat.zero_lt_two, Nat.one_lt_two, trivial, trivial, trivial, trivial, trivial⟩
  exact ⟨quietEngine, fresh_quietEngine, reaches_after hadmissible⟩

end Orchestration.Engine
