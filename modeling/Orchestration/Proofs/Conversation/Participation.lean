import Mathlib.Logic.Function.Iterate
import Orchestration.Proofs.ContextWindow
import Orchestration.Proofs.Conversation.Figures

/-!
# What it means to participate

A list of participants can name an agent more than once, and then those who read it do not agree.
Whoever lists the conversations of an agent finds such a conversation once, the figures count it as
often as it names the agent, and the agent records its start as often, too. As long as no list names
an agent twice, they all agree.

The main statement is `participation_agrees_iff`.
-/

namespace Orchestration

/-- What figures and list say of an agent agrees exactly if no conversation names it twice. -/
theorem ConversationMetrics.participation_eq_length_iff {δ : Type} [Duration δ]
    (conversations : List Conversation) (agentId : String) :
    (Table.find? (ofConversations conversations : ConversationMetrics δ).participation
        agentId).getD 0 = (Conversation.ofParticipant conversations agentId).length ↔
      ∀ conversation ∈ conversations, conversation.participants.count agentId ≤ 1 := by
  have hlist : (Conversation.ofParticipant conversations agentId).length =
      (conversations.map (·.participants)).countP fun list => agentId ∈ list := by
    rw [(Conversation.sortedBy_ofParticipant conversations agentId).perm.length_eq,
      ← List.countP_eq_length_filter, List.countP_map]
    rfl
  have hfigure : (Table.find? (ofConversations conversations : ConversationMetrics δ).participation
      agentId).getD 0 = ((conversations.map (·.participants)).map (·.count agentId)).sum := by
    show (Table.find? (Table.countAll (participants conversations)) agentId).getD 0 = _
    rw [Table.getD_find?_countAll, participants, List.count_flatMap, List.map_map]
  rw [hlist, hfigure, sum_count_eq_countP_mem_iff, List.forall_mem_map]

/-! ## What a member records -/

/-- The entry tells that the conversation was started. -/
def ContextItem.Announces (item : ContextItem) (id : String) : Prop :=
  item.key = "conversation_started" ∧ item.value.text? = some id

instance (item : ContextItem) (id : String) : Decidable (item.Announces id) := by
  unfold ContextItem.Announces
  infer_instance

/-- How often the context window of the agent tells that the conversation was started. -/
def Agent.announcements (agent : Agent) (id : String) : Nat :=
  agent.context.countP (·.Announces id)

/-- The agent when it has recorded the start of a conversation. -/
def Agent.told (now : Moment) (id : String) (agent : Agent) : Agent :=
  agent.record now "conversation_started" (.text id)

namespace Agent

variable (agent : Agent) (now : Moment) (id : String)

/-- The entry that an agent has when it has recorded the start of a conversation. -/
def announcement (now : Moment) (id : String) : ContextItem :=
  ⟨"conversation_started", .text id, now, 1.0⟩

theorem context_told :
    (agent.told now id).context = AgentState.window (agent.context ++ [announcement now id]) := by
  rw [← agent.context_ensureState now]
  rfl

theorem context_iterate_told (n : Nat) :
    ((told now id)^[n + 1] agent).context =
      AgentState.window (agent.context ++ List.replicate (n + 1) (announcement now id)) := by
  induction n with
  | zero => exact context_told agent now id
  | succ n ih =>
    rw [Function.iterate_succ_apply', context_told, ih, AgentState.window_window_append,
      List.append_assoc, ← List.replicate_succ']

/-- Who has not heard of a conversation has as many entries of its start as it has recorded, or as
many as its context window keeps. -/
theorem announcements_iterate_told (hunheard : agent.announcements id = 0) (n : Nat) :
    ((told now id)^[n + 1] agent).announcements id = min contextLimit (n + 1) := by
  have hannounced : (announcement now id).Announces id := ⟨rfl, rfl⟩
  have hbefore : ∀ k, (agent.context.drop k).countP (·.Announces id) = 0 :=
    fun k => Nat.le_zero.mp (hunheard ▸ (List.drop_sublist k _).countP_le)
  rw [announcements, context_iterate_told, AgentState.window, List.drop_append,
    List.countP_append, hbefore, List.drop_replicate, List.countP_replicate,
    if_pos (decide_eq_true hannounced)]
  simp only [List.length_append, List.length_replicate]
  omega

end Agent

namespace Engine

variable {σ τ : Type} {w : World σ τ}

/-- Each member has recorded the start as often as it is listed. -/
theorem agent_announced {ref : Ref Agent} (hlive : w.agents.live.Has ref) (id : String)
    (members : List (Ref Agent)) :
    (announced w id members).agent ref =
      (Agent.told w.surroundings.clock.now id)^[members.count ref] (w.agents.agent ref) := by
  unfold announced
  generalize w.agents = agents at hlive ⊢
  induction members generalizing agents with
  | nil => rfl
  | cons member rest ih =>
    rw [List.foldl_cons, ih _ (Live.has_set.mpr hlive)]
    by_cases hself : member = ref
    · subst hself
      rw [List.count_cons_self, Function.iterate_succ_apply]
      congr 1
      exact Live.get_set_self _ _ hlive
    · rw [List.count_cons_of_ne hself]
      congr 1
      exact Live.get_set_of_ne _ _ (Ne.symm hself)

/-- The members are the registered participants, each of them as often as it is named. -/
theorem count_members {agents : AgentStore} (horder : agents.InOrder) {participants : List String}
    {members : List (Ref Agent)} (hmembers : participants.mapM agents.get = .ok members)
    {participant : String} {ref : Ref Agent} (hfound : agents.find? participant = some ref) :
    members.count ref = participants.count participant := by
  induction participants generalizing members with
  | nil =>
    cases hmembers
    rfl
  | cons first rest ih =>
    rw [List.mapM_cons] at hmembers
    obtain ⟨member, hmember, hmembers⟩ := Fault.bind_eq_ok_iff.mp hmembers
    obtain ⟨others, hothers, hmembers⟩ := Fault.bind_eq_ok_iff.mp hmembers
    cases hmembers
    have hregistered := AgentStore.find?_of_get hmember
    -- Whoever is registered bears the id under which it is registered.
    have hsame : member = ref ↔ first = participant := by
      constructor
      · rintro rfl
        exact (horder _ _ hregistered).2.1.symm.trans (horder _ _ hfound).2.1
      · rintro rfl
        exact Option.some.inj (hregistered.symm.trans hfound)
    simp only [List.count_cons, ih hothers, beq_iff_eq, hsame]

section

variable [Time τ]

/-- Each participant of a conversation that is started records that as often as it is named. -/
theorem told_of_startConversation (horder : w.agents.InOrder) {participants : List String}
    {topic : String} {metadata : Fields} {context : Option String} {conversation : Conversation}
    (h : outcomeOf (startConversation participants topic metadata context) w = .ok conversation)
    {participant : String} (hmem : participant ∈ participants) :
    ∃ ref, w.agents.find? participant = some ref ∧
      (worldAfter (startConversation participants topic metadata context) w).agents.agent ref =
        (Agent.told w.surroundings.clock.now conversation.id)^[participants.count participant]
          (w.agents.agent ref) := by
  have hstarting := starting participants topic metadata context w
  rw [h] at hstarting
  obtain ⟨-, -, members, hmembers, hagents⟩ := hstarting.of_ok
  obtain ⟨ref, hget⟩ := Fault.mapM_returns_iff.mp ⟨members, hmembers⟩ participant hmem
  have hfound := AgentStore.find?_of_get hget
  refine ⟨ref, hfound, ?_⟩
  rw [hagents, agent_announced (horder participant ref hfound).1,
    count_members horder hmembers hfound]

variable [Backend σ τ]

/-- **Participation.** Callers whose request is admitted find as many conversations of an agent as
the figures count exactly if none of the conversations names the agent twice. And whenever a
conversation is started, each participant records that as often as it is named, so one that has not
heard of the conversation before has one entry of its start exactly if it is named once. -/
theorem participation_agrees_iff {δ : Type} [Duration δ] (hreachable : Reachable w) :
    (∀ agentId context, w.surroundings.check context none = .ok () →
      ∃ (metrics : ConversationMetrics δ) (found : List Conversation),
        outcomeOf conversationMetrics w = .ok metrics ∧
        outcomeOf (listConversations agentId context) w = .ok found ∧
        ((Table.find? metrics.participation agentId).getD 0 = found.length ↔
          ∀ conversation ∈ Table.values w.conversations,
            conversation.participants.count agentId ≤ 1)) ∧
      ∀ participants topic metadata context conversation,
        let start := startConversation participants topic metadata context
        outcomeOf start w = .ok conversation → ∀ participant ∈ participants,
          ∃ ref, w.agents.find? participant = some ref ∧
            let before := w.agents.agent ref
            let later := (worldAfter start w).agents.agent ref
            later = (Agent.told w.surroundings.clock.now conversation.id)^[
              participants.count participant] before ∧
            (before.announcements conversation.id = 0 →
              (later.announcements conversation.id = 1 ↔
                participants.count participant = 1)) := by
  constructor
  · intro agentId context hopen
    exact ⟨_, _, rfl, outcomeOf_listConversations hopen agentId,
      ConversationMetrics.participation_eq_length_iff _ agentId⟩
  · intro participants topic metadata context conversation start houtcome participant hmem
    obtain ⟨ref, hfound, htold⟩ :=
      told_of_startConversation hreachable.consistent.agents houtcome hmem
    refine ⟨ref, hfound, htold, fun hunheard => ?_⟩
    obtain ⟨n, hn⟩ : ∃ n, participants.count participant = n + 1 :=
      Nat.exists_eq_add_one.mpr (List.count_pos_iff.mpr hmem)
    -- A participant is told as often as it is named, as far as there is room in its window.
    rw [htold, hn, Agent.announcements_iterate_told _ _ _ hunheard, contextLimit]
    omega

end

/-- In the dialogue nobody is named twice, so the figures and the list of an agent agree. And if the
agents start another conversation, the first one has one entry of that. -/
theorem participation_agrees_dialogue :
    let w := after quietEngine dialogue
    Reachable w ∧
      (∃ (metrics : ConversationMetrics Rat) (found : List Conversation),
        outcomeOf conversationMetrics w = .ok metrics ∧
        outcomeOf (listConversations "al" none) w = .ok found ∧
        (Table.find? metrics.participation "al").getD 0 = found.length) ∧
      ∃ conversation ref,
        outcomeOf (startConversation ["al", "bo"] "" [] none) w = .ok conversation ∧
        w.agents.find? "al" = some ref ∧
        ((worldAfter (startConversation ["al", "bo"] "" [] none) w).agents.agent
          ref).announcements conversation.id = 1 := by
  intro w
  have hreachable : Reachable w := ⟨quietEngine, fresh_quietEngine, reaches_dialogue⟩
  obtain ⟨hqueries, hstarts⟩ := participation_agrees_iff (δ := Rat) hreachable
  have hopen : w.surroundings.check none none = .ok () := rfl
  obtain ⟨metrics, found, hmetrics, hfound, hagree⟩ := hqueries "al" none hopen
  have hstart : ∃ conversation,
      outcomeOf (startConversation ["al", "bo"] "" [] none) w = .ok conversation := ⟨_, rfl⟩
  obtain ⟨conversation, hstart⟩ := hstart
  obtain ⟨ref, href, -, hentries⟩ :=
    hstarts ["al", "bo"] "" [] none conversation hstart "al" List.mem_cons_self
  refine ⟨hreachable, ⟨metrics, found, hmetrics, hfound, hagree.mpr (by decide)⟩, conversation, ref,
    hstart, href, (hentries ?_).mpr (by decide)⟩
  cases hstart
  cases href
  decide

/-- An agent starts a conversation with itself. -/
def soliloquy : List (Event (Scripted.Script Rat) Rat) :=
  [.makeAgent { id := "al" }, .createAgent ⟨0⟩ none,
    .startConversation ["al", "al"] "" [] none]

/-- The figures count the conversation twice, the list has it once, and the agent, which had no
entries before, has two entries of its start. -/
theorem not_participation_agrees_soliloquy :
    let w := after quietEngine soliloquy
    Reachable w ∧ ((after quietEngine (soliloquy.take 2)).agents.agent ⟨0⟩).context = [] ∧
      ∃ (metrics : ConversationMetrics Rat) (conversation : Conversation),
        outcomeOf conversationMetrics w = .ok metrics ∧
        (Table.find? metrics.participation "al").getD 0 = 2 ∧
        outcomeOf (listConversations "al" none) w = .ok [conversation] ∧
        (w.agents.agent ⟨0⟩).announcements conversation.id = 2 := by
  intro w
  have hreaches : Reaches quietEngine w :=
    reaches_after ⟨trivial, Nat.zero_lt_one, trivial, trivial⟩
  have hopen : w.surroundings.check none none = .ok () := rfl
  obtain ⟨conversation, hvalues, hentries⟩ : ∃ conversation,
      Table.values w.conversations = [conversation] ∧
        (w.agents.agent ⟨0⟩).announcements conversation.id = 2 := ⟨_, rfl, by decide⟩
  have hlist : Conversation.ofParticipant (Table.values w.conversations) "al" = [conversation] := by
    have hperm := (Conversation.sortedBy_ofParticipant (Table.values w.conversations) "al").perm
    have hnamed : (Table.values w.conversations).filter
        (fun conversation => "al" ∈ conversation.participants) = [conversation] := hvalues ▸ rfl
    rw [hnamed] at hperm
    exact List.perm_singleton.mp hperm
  refine ⟨⟨quietEngine, fresh_quietEngine, hreaches⟩, rfl, _, conversation, rfl, rfl, ?_, hentries⟩
  rw [outcomeOf_listConversations hopen, hlist]

end Engine

end Orchestration
