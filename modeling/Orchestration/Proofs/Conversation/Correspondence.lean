import Orchestration.Engine.Correspondence
import Orchestration.Proofs.Session
import Orchestration.Proofs.Workflow.Steps

/-!
# What a conversation workflow sends and what it reports

A conversation workflow starts a conversation and sends a message for each of its steps, one after
the other, up to the first that cannot be sent (`SentInTurn`, `Ending`). Its answer and the log of
the conversation tell the same story (`Account`): the messages that were sent, in their order, and
the step that ended the workflow.

While a workflow runs, others go on with the engine: they may close the conversation, remove agents,
send messages of their own, or cancel the context. So the steps are looked at with any change of the
world before each of them (`sendStepsAmid`); if nobody changes anything, they are the steps of the
workflow itself (`runConversationWorkflow_eq_amid`).

The main statement is `conversationWorkflow_accounted_iff`. There are two ways in which a workflow
among registered agents gives no answer: the template of a step needs a value that cannot be
written, or a step delegates a task that cannot be made (`StepStrands`).
-/

namespace Orchestration.Engine

variable {σ τ : Type} [Time τ]

/-! ## The message of a step -/

/-- Makes the message of a step and sends it. -/
def sendStep (conversationId : String) (context : Option String) (contents : Fields)
    (step : ConversationStep) : Run σ τ Message := do
  let content ← lift (stepContent contents step)
  let message ← newMessage (stepMessage step content)
  send conversationId message context

/-- The world in which the message of a step is ready to be sent. -/
def withStepMessage (w : World σ τ) (step : ConversationStep) (content : String) : World σ τ :=
  { w with messages := w.messages.add (stepMessage step content) }

/-- The message of a step as it is sent. -/
def stepMessageAt (w : World σ τ) (step : ConversationStep) (content : String) : Message :=
  stamped (stepMessage step content) (Identifier.issue w.issued) w.surroundings.clock.now

/-- A message is admitted and delegates a task that cannot be made. -/
structure Strands (w : World σ τ) (conversationId : String) (context : Option String)
    (message : Message) : Prop where
  admitted : ∃ admission, Admitted w conversationId message context admission
  type : message.type = .taskDelegation
  parameters : ¬ Delegable message

/-- A step is stranded: its template needs a value that cannot be written, or its message strands.
What the step says plays no part in the latter. -/
inductive StepStrands (w : World σ τ) (conversationId : String) (context : Option String)
    (contents : Fields) (step : ConversationStep) : Prop
  | unwritten
      (h : Template.Unrenderable (Table.merge contents step.parameters) step.template)
  | undelegated {content : String} (hcontent : stepContent contents step = .ok content)
      (h : Strands w conversationId context (stepMessage step content))

/-- The message of a step has come to the end of the log of its conversation. -/
def Appended (conversationId : String) (message : Message) (w w' : World σ τ) : Prop :=
  ∃ conversation, Table.find? w.conversations conversationId = some conversation ∧
    w'.conversations = Table.insert w.conversations conversationId
      (appended conversation message w.surroundings.clock.now)

/-- The ways in which sending the message of a step comes out. -/
inductive StepSending (conversationId : String) (context : Option String) (contents : Fields)
    (step : ConversationStep) (w : World σ τ) : Except Fault Message → World σ τ → Prop
  | sent {content : String} {w' : World σ τ} (hcontent : stepContent contents step = .ok content)
      (happended : Appended conversationId (stepMessageAt w step content) w w')
      (hnot : ¬ StepStrands w conversationId context contents step) :
      StepSending conversationId context contents step w (.ok (stepMessageAt w step content)) w'
  /-- The message was not admitted, and all that has happened is that it was made. -/
  | refused {content : String} {fault : Fault} (hcontent : stepContent contents step = .ok content)
      (htaxonomy : fault.isOrchestration = true)
      (hnot : ¬ StepStrands w conversationId context contents step) :
      StepSending conversationId context contents step w (.error fault)
        (withStepMessage w step content)
  | stranded {fault : Fault} {w' : World σ τ} (hforeign : fault.isOrchestration = false)
      (hstrands : StepStrands w conversationId context contents step) :
      StepSending conversationId context contents step w (.error fault) w'

/-- It makes no difference to a message whether others are made. -/
theorem admitted_withStepMessage {conversationId : String} {context : Option String}
    {step : ConversationStep} {content : String} {w : World σ τ} {message : Message}
    {admission : Admission} :
    Admitted (withStepMessage w step content) conversationId message context admission ↔
      Admitted w conversationId message context admission :=
  ⟨fun h => ⟨h.live, h.found, h.active, h.sender, h.receiver⟩,
    fun h => ⟨h.live, h.found, h.active, h.sender, h.receiver⟩⟩

section

variable (conversationId : String) (context : Option String) (contents : Fields)
  (step : ConversationStep) (w : World σ τ)

/-- When the content of a step is known, its message is made and sent. -/
theorem run_sendStep {content : String} (hcontent : stepContent contents step = .ok content) :
    (sendStep conversationId context contents step).run w =
      (send conversationId w.messages.next context).run (withStepMessage w step content) := by
  rw [sendStep, EStateM.run_bind, run_lift, hcontent]
  rfl

/-- A step whose content is known is stranded if its message strands. -/
theorem stepStrands_iff_of_content {content : String}
    (hcontent : stepContent contents step = .ok content) :
    StepStrands w conversationId context contents step ↔
      Strands w conversationId context (stepMessage step content) := by
  refine ⟨?_, .undelegated hcontent⟩
  rintro (hunwritten | ⟨hother, hstrands⟩)
  · rcases Template.render_cases (Table.merge contents step.parameters) step.template with
      ⟨-, hfails⟩ | ⟨hwritten, -⟩
    · cases hcontent.symm.trans hfails
    · exact absurd hunwritten hwritten
  · cases hcontent.symm.trans hother
    exact hstrands

/-- The message of a step whose content is known is sent, refused or stranded. -/
theorem stepSending_of_content {content : String}
    (hcontent : stepContent contents step = .ok content) :
    StepSending conversationId context contents step w
      (outcomeOf (sendStep conversationId context contents step) w)
      (worldAfter (sendStep conversationId context contents step) w) := by
  have hrun := run_sendStep conversationId context contents step w hcontent
  rw [outcomeOf, worldAfter, hrun, ← outcomeOf, ← worldAfter]
  set made := withStepMessage w step content
  have hmessage : made.messages.get w.messages.next = stepMessage step content :=
    Live.get_add_next _ _
  have hstamped : stampedAt made w.messages.next = stepMessageAt w step content := by
    rw [stampedAt, hmessage]
    rfl
  -- The sending is that of a message that was made for the step, in the world that has it.
  have hsending := sending conversationId w.messages.next context made
  generalize houtcome : outcomeOf (send conversationId w.messages.next context) made = outcome
    at hsending
  generalize worldAfter (send conversationId w.messages.next context) made = w' at hsending
  -- Sending a message that cannot be delegated fails behind its delivery; any other message is sent
  -- or refused.
  by_cases hstrands : Strands w conversationId context (stepMessage step content)
  · obtain ⟨admission, hadmitted⟩ := hstrands.admitted
    rw [← admitted_withStepMessage, ← hmessage] at hadmitted
    obtain ⟨fault, hfault, hforeign⟩ := send_stranded hadmitted (hmessage ▸ hstrands.type)
      (hmessage ▸ hstrands.parameters)
    rw [← houtcome, hfault]
    exact .stranded hforeign (.undelegated hcontent hstrands)
  · have hnot : ¬ StepStrands w conversationId context contents step :=
      mt (stepStrands_iff_of_content conversationId context contents step w hcontent).mp hstrands
    have hposted : ∀ {admission : Admission},
        Admitted made conversationId (made.messages.get w.messages.next) context admission →
        Appended conversationId (stepMessageAt w step content) w w' := by
      intro admission hadmitted
      have htable := (hsending.conversations hadmitted).1
      rw [hstamped] at htable
      exact ⟨admission.conversation, hadmitted.found, htable⟩
    cases hsending with
    | refused hrefused => exact .refused hcontent (isOrchestration_of_admissionOf hrefused) hnot
    | posted hadmitted =>
      rw [hstamped]
      exact .sent hcontent (hposted hadmitted) hnot
    | delegated hadmitted =>
      rw [hstamped]
      exact .sent hcontent (hposted hadmitted) hnot
    | unstarted hadmitted _ htype hparameters =>
      rw [hmessage] at hadmitted htype hparameters
      exact absurd ⟨⟨_, admitted_withStepMessage.mp hadmitted⟩, htype, hparameters⟩ hstrands

/-- The message of a step is sent, refused or stranded. -/
theorem stepSending :
    StepSending conversationId context contents step w
      (outcomeOf (sendStep conversationId context contents step) w)
      (worldAfter (sendStep conversationId context contents step) w) := by
  rcases Template.render_cases (Table.merge contents step.parameters) step.template with
    ⟨hunwritten, hrender⟩ | ⟨-, content, hcontent⟩
  · have hrun : (sendStep conversationId context contents step).run w =
        .error .overlongInteger w := by
      rw [sendStep, EStateM.run_bind, run_lift, stepContent, hrender]
    obtain ⟨houtcome, -⟩ := run_eq_error_iff.mp hrun
    rw [houtcome]
    exact .stranded rfl (.unwritten hunwritten)
  · exact stepSending_of_content conversationId context contents step w hcontent

end

/-! ## Workflows among others -/

/-- Sends the messages of the steps as `sendSteps` does, while others change the world before each
of them. -/
def sendStepsAmid (others : Nat → World σ τ → World σ τ) (workflowId conversationId : String)
    (context : Option String) :
    (position : Nat) → (contents : Fields) → List ConversationStep →
      Run σ τ ConversationWorkflowResult
  | _, _, [] => return { conversationId }
  | position, contents, step :: rest => do
    modify (others position)
    let start ← reading
    match ← attempt (sendStep conversationId context contents step) with
    | .error fault =>
      if fault.isOrchestration then
        let result := stoppedAt conversationId position step fault
        log .warning conversationLogger
          ("Conversation workflow " ++ workflowId ++ " aborted: " ++ result.error)
        return result
      else throw fault
    | .ok sent =>
      let durationMs ← millisSince start
      let contents := publish contents position step.id sent.content
      let later ←
        sendStepsAmid others workflowId conversationId context (position + 1) contents rest
      return preceded later position step sent durationMs

/-- Runs a conversation workflow while others change the world before each of its steps. -/
def runConversationWorkflowAmid (others : Nat → World σ τ → World σ τ)
    (workflow : ConversationWorkflow) (context : Option String) :
    Run σ τ ConversationWorkflowResult := do
  let conversation ← startConversation workflow.participants (topicOf workflow)
    [("workflow_id", .text workflow.id)] context
  let start ← reading
  let result ← sendStepsAmid others workflow.id conversation.id context 1 [] workflow.steps
  let durationMs ← millisSince start
  log .info conversationLogger ("Conversation workflow " ++ workflow.id ++ " finished: success=" ++
    boolText result.success ++ ", " ++ Decimal.integerText result.stepResults.length ++ " steps")
  return { result with durationMs, finalOutcome := finalOutcome result workflow.steps.length }

/-- Steps that nobody interferes with are sent amid nothing. -/
theorem sendSteps_eq_amid (workflowId conversationId : String) (context : Option String)
    (position : Nat) (contents : Fields) (steps : List ConversationStep) :
    (sendSteps workflowId conversationId context position contents steps :
        Run σ τ ConversationWorkflowResult) =
      sendStepsAmid (fun _ w => w) workflowId conversationId context position contents steps := by
  induction steps generalizing position contents with
  | nil => rfl
  | cons step rest ih =>
    rw [sendSteps, sendStepsAmid]
    rcases Template.render_cases (Table.merge contents step.parameters) step.template with
      ⟨-, hcontent⟩ | ⟨-, content, hcontent⟩
    · -- A fault from outside the taxonomy is passed on, wherever it is raised.
      simp only [ih, sendStep, stepContent, hcontent]
      rfl
    · simp only [ih, sendStep, stepContent, hcontent]
      rfl

/-- If others leave the world alone, the workflow runs as it does on its own. -/
theorem runConversationWorkflow_eq_amid (workflow : ConversationWorkflow)
    (context : Option String) :
    (runConversationWorkflow workflow context : Run σ τ ConversationWorkflowResult) =
      runConversationWorkflowAmid (fun _ w => w) workflow context := by
  rw [runConversationWorkflow, runConversationWorkflowAmid]
  simp only [sendSteps_eq_amid]

/-! ## The steps that were sent -/

/-- A step whose message was sent. -/
structure SentStep (σ τ : Type) where
  step : ConversationStep
  /-- The message as it was sent. -/
  message : Message
  /-- The world in which it was sent. -/
  before : World σ τ
  /-- The world that this has left. -/
  left : World σ τ

/-- The names of the steps that were sent, with the contents of their messages. -/
def contentsOf (sent : List (SentStep σ τ)) : List (String × String) :=
  sent.map fun sent => (sent.step.id, sent.message.content)

omit [Time τ] in
/-- The content of a further step is published under its number. -/
theorem published_contentsOf_concat (earlier : List (SentStep σ τ)) (last : SentStep σ τ) :
    published (contentsOf (earlier ++ [last])) =
      publish (published (contentsOf earlier)) (earlier.length + 1) last.step.id
        last.message.content := by
  have hconcat : contentsOf (earlier ++ [last]) =
      contentsOf earlier ++ [(last.step.id, last.message.content)] := List.map_append
  rw [hconcat, published_concat, contentsOf, List.length_map]

section

variable (others : Nat → World σ τ → World σ τ) (conversationId : String)
  (context : Option String)

/-- Steps are sent one after the other. Before each of them, others change the world that the one
before it has left; its message is made of what the steps before it have sent. -/
inductive SentInTurn (w : World σ τ) : List (SentStep σ τ) → World σ τ → Prop
  | start : SentInTurn w [] w
  | next {earlier : List (SentStep σ τ)} {w₁ w₂ : World σ τ} {message : Message}
      (step : ConversationStep) (hbefore : SentInTurn w earlier w₁)
      (hsend : (sendStep conversationId context (published (contentsOf earlier)) step).run
        (others (earlier.length + 1) w₁) = .ok message w₂) :
      SentInTurn w (earlier ++ [⟨step, message, others (earlier.length + 1) w₁, w₂⟩]) w₂

/-- How the steps of a workflow end, whether this is a success, and what is said of it: all of them
were sent, or they were up to one that was refused. Then only its message was made. -/
inductive Ending (w : World σ τ) (steps : List ConversationStep) (sent : List (SentStep σ τ)) :
    (success : Bool) → (error : String) → World σ τ → Prop
  | finished {w₁ : World σ τ} (hsent : SentInTurn others conversationId context w sent w₁)
      (hsteps : sent.map (·.step) = steps) : Ending w steps sent true "" w₁
  | stopped {step : ConversationStep} {after : List ConversationStep} {fault : Fault}
      {w₁ : World σ τ} (hsent : SentInTurn others conversationId context w sent w₁)
      (hsteps : sent.map (·.step) ++ step :: after = steps)
      {content : String} (hcontent : stepContent (published (contentsOf sent)) step = .ok content)
      (hrefused : (sendStep conversationId context (published (contentsOf sent)) step).run
          (others (sent.length + 1) w₁) =
        .error fault (withStepMessage (others (sent.length + 1) w₁) step content))
      (journal : List Log.Record) :
      Ending w steps sent false
        ("Step " ++ Decimal.integerText ↑(sent.length + 1) ++ " (" ++ step.id ++ ") failed: " ++
          fault.message)
        { withStepMessage (others (sent.length + 1) w₁) step content with journal }

/-- Some step after those that were sent is stranded when its turn comes. -/
inductive StrandedAmid : (position : Nat) → (contents : Fields) → List ConversationStep →
    World σ τ → Prop
  | here {position : Nat} {contents : Fields} {step : ConversationStep}
      {rest : List ConversationStep} {w : World σ τ}
      (hstrands : StepStrands (others position w) conversationId context contents step) :
      StrandedAmid position contents (step :: rest) w
  | later {position : Nat} {contents : Fields} {step : ConversationStep}
      {rest : List ConversationStep} {w w₁ : World σ τ} {message : Message}
      (hsend : (sendStep conversationId context contents step).run (others position w) =
        .ok message w₁)
      (hlater : StrandedAmid (position + 1) (publish contents position step.id message.content)
        rest w₁) :
      StrandedAmid position contents (step :: rest) w

end

/-- What the result of a workflow lists, when these steps were sent from the given position on. -/
structure Lists (conversationId : String) (position : Nat) (sent : List (SentStep σ τ))
    (result : ConversationWorkflowResult) : Prop where
  conversationId : result.conversationId = conversationId
  steps : result.stepResults.map (fun step => (step.stepId, step.message)) =
    sent.map fun sent => (sent.step.id, sent.message)
  insights : result.insights = (sent.zipIdx position).map fun entry =>
    "Step " ++ Decimal.integerText entry.2 ++ ": " ++ entry.1.step.fromAgent ++ " -> " ++
      (if entry.1.step.toAgent = "" then "all" else entry.1.step.toAgent) ++
      " completed successfully"

section

variable {others : Nat → World σ τ → World σ τ} {conversationId : String}
  {context : Option String} {position : Nat} {contents : Fields} {step : ConversationStep}
  {w w₁ w₂ : World σ τ}

omit [Time τ] in
/-- A step that is sent comes before the others in the result. -/
theorem Lists.cons {sent : List (SentStep σ τ)} {later : ConversationWorkflowResult}
    (h : Lists conversationId (position + 1) sent later) (first : SentStep σ τ)
    (durationMs : Float) :
    Lists conversationId position (first :: sent)
      (preceded later position first.step first.message durationMs) where
  conversationId := h.conversationId
  steps := congrArg ((first.step.id, first.message) :: ·) h.steps
  insights := congrArg (insight position first.step :: ·) h.insights

/-- A step that is sent is not stranded. -/
theorem strandedAmid_cons_iff {message : Message} {rest : List ConversationStep}
    (hfirst : (sendStep conversationId context contents step).run (others position w) =
      .ok message w₁) :
    StrandedAmid others conversationId context position contents (step :: rest) w ↔
      StrandedAmid others conversationId context (position + 1)
        (publish contents position step.id message.content) rest w₁ := by
  refine ⟨?_, .later hfirst⟩
  rintro (hstrands | ⟨hsend, hlater⟩)
  · have hsending := stepSending conversationId context contents step (others position w)
    rw [(run_eq_ok_iff.mp hfirst).1] at hsending
    cases hsending with
    | sent _ _ hnot => exact absurd hstrands hnot
  · cases hfirst.symm.trans hsend
    exact hlater

/-- After a step that is sent, the steps after it decide. -/
theorem run_sendStepsAmid_of_ok {message : Message} (workflowId : String)
    (rest : List ConversationStep)
    (hfirst : (sendStep conversationId context contents step).run (others position w) =
      .ok message w₁) :
    ∃ durationMs, (sendStepsAmid others workflowId conversationId context position contents
        (step :: rest)).run w =
      (do
        let later ← sendStepsAmid others workflowId conversationId context (position + 1)
          (publish contents position step.id message.content) rest
        return preceded later position step message durationMs :
        Run σ τ ConversationWorkflowResult).run w₁ := by
  obtain ⟨houtcome, hworld⟩ := run_eq_ok_iff.mp hfirst
  rw [sendStepsAmid]
  simp only [EStateM.run_bind, EStateM.run_modify, run_reading, run_attempt, houtcome, hworld]
  exact ⟨_, rfl⟩

/-- A step that fails ends the workflow. -/
theorem run_sendStepsAmid_of_error {fault : Fault} (workflowId : String)
    (rest : List ConversationStep)
    (hfirst : (sendStep conversationId context contents step).run (others position w) =
      .error fault w₁) :
    ∃ journal, (sendStepsAmid others workflowId conversationId context position contents
        (step :: rest)).run w =
      if fault.isOrchestration then
        .ok (stoppedAt conversationId position step fault) { w₁ with journal }
      else .error fault w₁ := by
  obtain ⟨houtcome, hworld⟩ := run_eq_error_iff.mp hfirst
  rw [sendStepsAmid]
  simp only [EStateM.run_bind, EStateM.run_modify, run_reading, run_attempt, houtcome, hworld]
  split
  · exact ⟨_, rfl⟩
  · exact ⟨[], rfl⟩

/-- The steps are sent one after the other until they stop, unless one of them is stranded. -/
theorem run_sendStepsAmid {earlier : List (SentStep σ τ)} (workflowId : String)
    (h : SentInTurn others conversationId context w earlier w₁) (steps : List ConversationStep) :
    (StrandedAmid others conversationId context (earlier.length + 1)
        (published (contentsOf earlier)) steps w₁ ∧
      ∃ fault w₂, (sendStepsAmid others workflowId conversationId context (earlier.length + 1)
        (published (contentsOf earlier)) steps).run w₁ = .error fault w₂) ∨
    (¬ StrandedAmid others conversationId context (earlier.length + 1)
        (published (contentsOf earlier)) steps w₁ ∧
      ∃ sent result w₂, (sendStepsAmid others workflowId conversationId context (earlier.length + 1)
          (published (contentsOf earlier)) steps).run w₁ = .ok result w₂ ∧
        Lists conversationId (earlier.length + 1) sent result ∧
        Ending others conversationId context w (earlier.map (·.step) ++ steps) (earlier ++ sent)
          result.success result.error w₂) := by
  induction steps generalizing w₁ earlier with
  | nil =>
    refine .inr ⟨nofun, [], { conversationId }, w₁, rfl, ⟨rfl, rfl, rfl⟩, ?_⟩
    rw [List.append_nil, List.append_nil]
    exact .finished h rfl
  | cons step rest ih =>
    set contents := published (contentsOf earlier)
    set before := others (earlier.length + 1) w₁
    have hsending := stepSending conversationId context contents step before
    cases hfirst : (sendStep conversationId context contents step).run before with
    | error fault w₂ =>
      -- The steps of the rest are never looked at.
      obtain ⟨journal, hrun⟩ := run_sendStepsAmid_of_error workflowId rest hfirst
      obtain ⟨houtcome, hworld⟩ := run_eq_error_iff.mp hfirst
      rw [houtcome, hworld] at hsending
      rw [hrun]
      cases hsending with
      | refused hcontent htaxonomy hnot =>
        rw [if_pos htaxonomy]
        refine .inr ⟨?_, [], _, _, rfl, ⟨rfl, rfl, rfl⟩, ?_⟩
        · rintro (hstrands | ⟨hsend, -⟩)
          · exact hnot hstrands
          · cases hfirst.symm.trans hsend
        · rw [List.append_nil, stoppedAt, stepLabel_failed]
          exact .stopped h rfl hcontent hfirst journal
      | stranded hforeign hstrands =>
        rw [hforeign]
        exact .inl ⟨.here hstrands, _, _, rfl⟩
    | ok message w₂ =>
      have hnext := SentInTurn.next step h hfirst
      set first : SentStep σ τ := ⟨step, message, before, w₂⟩
      have hcontents : published (contentsOf (earlier ++ [first])) =
          publish contents (earlier.length + 1) step.id message.content :=
        published_contentsOf_concat earlier first
      have hposition : (earlier ++ [first]).length = earlier.length + 1 := List.length_append
      have hsteps : (earlier ++ [first]).map (·.step) ++ rest =
          earlier.map (·.step) ++ step :: rest := by
        rw [List.map_append, List.append_assoc]
        rfl
      have hrest := ih hnext
      rw [hcontents, hposition, hsteps] at hrest
      obtain ⟨durationMs, hrun⟩ := run_sendStepsAmid_of_ok workflowId rest hfirst
      rw [strandedAmid_cons_iff hfirst, hrun]
      rcases hrest with ⟨hstranded, fault, w₃, hlater⟩ |
        ⟨hnot, sent, later, w₃, hlater, hlists, hending⟩
      · rw [EStateM.run_bind, hlater]
        exact .inl ⟨hstranded, fault, w₃, rfl⟩
      · rw [EStateM.run_bind, hlater]
        rw [List.append_assoc] at hending
        exact .inr ⟨hnot, first :: sent, _, w₃, rfl, hlists.cons first durationMs, hending⟩

end

/-! ## The account of a workflow -/

/-- What a step has sent when the given steps were sent before it: its message says what the step
says, with the template filled in, and has come to the end of the log. In the template, the
parameters of the step come before what the earlier steps have sent. -/
structure Conveyed (conversationId : String) (earlier : List (SentStep σ τ))
    (sent : SentStep σ τ) : Prop where
  fromAgent : sent.message.fromAgent = sent.step.fromAgent
  toAgent : sent.message.toAgent = sent.step.toAgent
  type : sent.message.type = sent.step.type
  context : sent.message.context = sent.step.parameters
  content : ∃ values : Fields,
    Template.render values sent.step.template = .ok sent.message.content ∧
    ∀ key, Table.find? values key = (Table.find? (Table.ofEntries sent.step.parameters) key).or
      (Table.find? (published (contentsOf earlier)) key)
  appended : Appended conversationId sent.message sent.before sent.left

section

variable {others : Nat → World σ τ → World σ τ} {conversationId : String}
  {context : Option String} {w w₁ : World σ τ} {sent : List (SentStep σ τ)}

/-- A message that is sent says what its step says. -/
theorem conveyed_of_ok {earlier : List (SentStep σ τ)} {step : ConversationStep}
    {message : Message} {before left : World σ τ}
    (hsend : (sendStep conversationId context (published (contentsOf earlier)) step).run before =
      .ok message left) :
    Conveyed conversationId earlier ⟨step, message, before, left⟩ := by
  have hsending := stepSending conversationId context (published (contentsOf earlier)) step before
  obtain ⟨houtcome, hworld⟩ := run_eq_ok_iff.mp hsend
  rw [houtcome, hworld] at hsending
  cases hsending with
  | sent hcontent happended =>
    exact ⟨rfl, rfl, rfl, rfl, ⟨_, hcontent, fun key => Table.find?_merge _ _ key⟩, happended⟩

/-- Each step has sent what it says. -/
theorem SentInTurn.conveyed (h : SentInTurn others conversationId context w sent w₁) :
    ∀ position (hposition : position < sent.length),
      Conveyed conversationId (sent.take position) sent[position] := by
  induction h with
  | start => exact fun position hposition => absurd hposition (Nat.not_lt_zero _)
  | @next earlier w₁ w₂ message step hbefore hsend ih =>
    intro position hposition
    rcases Nat.lt_or_ge position earlier.length with hlt | hge
    · rw [List.take_append_of_le_length (Nat.le_of_lt hlt), List.getElem_append_left hlt]
      exact ih position hlt
    · have hlast : position = earlier.length := by
        rw [List.length_append, List.length_singleton] at hposition
        omega
      subst hlast
      rw [List.take_left, List.getElem_concat_length rfl]
      exact conveyed_of_ok hsend

/-- If others leave the world alone, the log has grown by the messages that were sent. -/
theorem SentInTurn.log (h : SentInTurn others conversationId context w sent w₁)
    (halone : ∀ position w, others position w = w) {conversation : Conversation}
    (hfound : Table.find? w.conversations conversationId = some conversation) :
    ∃ later, w₁.conversations = Table.insert w.conversations conversationId later ∧
      later.messages = conversation.messages ++ sent.map (·.message) := by
  induction h with
  | start =>
    exact ⟨conversation, (Table.insert_of_find?_eq_some hfound).symm, (List.append_nil _).symm⟩
  | @next earlier w₁ w₂ message step hbefore hsend ih =>
    obtain ⟨later, htable, hlog⟩ := ih
    obtain ⟨last, hlast, hinsert⟩ := (conveyed_of_ok hsend).appended
    dsimp only at hlast hinsert
    rw [halone, htable, Table.find?_insert_self, Option.some.injEq] at hlast
    rw [halone, htable, Table.insert_insert_self, ← hlast] at hinsert
    refine ⟨_, hinsert, ?_⟩
    rw [List.map_append, ← List.append_assoc, ← hlog]
    rfl

/-- A workflow is successful exactly if all its steps were sent. -/
theorem Ending.success_iff {steps : List ConversationStep} {success : Bool} {error : String}
    (h : Ending others conversationId context w steps sent success error w₁) :
    success = true ↔ sent.length = steps.length := by
  cases h with
  | finished hsent hsteps => exact iff_of_true rfl (hsteps ▸ (List.length_map _).symm)
  | stopped hsent hsteps =>
    refine iff_of_false Bool.false_ne_true fun hlength => ?_
    have hlengths := congrArg List.length hsteps
    rw [List.length_append, List.length_map, List.length_cons] at hlengths
    omega

/-- If others leave the world alone, the log has grown by what was sent, whatever the end. -/
theorem Ending.log {steps : List ConversationStep} {success : Bool} {error : String}
    (h : Ending others conversationId context w steps sent success error w₁)
    (halone : ∀ position w, others position w = w) {conversation : Conversation}
    (hfound : Table.find? w.conversations conversationId = some conversation) :
    ∃ later, w₁.conversations = Table.insert w.conversations conversationId later ∧
      later.messages = conversation.messages ++ sent.map (·.message) := by
  cases h with
  | finished hsent _ => exact hsent.log halone hfound
  | @stopped _ _ _ w₂ hsent =>
    obtain ⟨later, htable, hlog⟩ := hsent.log halone hfound
    refine ⟨later, ?_, hlog⟩
    -- The message that was refused is in no log.
    show (others (sent.length + 1) w₂).conversations = _
    rw [halone, htable]

end

/-- The world in which the conversation of a workflow is started. -/
def opened (workflow : ConversationWorkflow) (context : Option String) (w : World σ τ) :
    World σ τ :=
  worldAfter (startConversation workflow.participants (topicOf workflow)
    [("workflow_id", .text workflow.id)] context) w

/-- The conversation of a workflow when it is started. -/
def openedConversation (workflow : ConversationWorkflow) (w : World σ τ) : Conversation :=
  conversationOf w workflow.participants (topicOf workflow) [("workflow_id", .text workflow.id)]

/-- What a workflow has done, and what its result says of that. -/
structure Account (others : Nat → World σ τ → World σ τ) (workflow : ConversationWorkflow)
    (context : Option String) (w : World σ τ) (sent : List (SentStep σ τ))
    (result : ConversationWorkflowResult) (w' : World σ τ) : Prop where
  /-- One conversation was started, which is new. -/
  started : (opened workflow context w).conversations =
    w.conversations ++ [(Identifier.issue w.issued, openedConversation workflow w)]
  /-- The result lists the steps that were sent, in their order. -/
  lists : Lists (Identifier.issue w.issued) 1 sent result
  /-- They are all steps, or those before one that was refused. Nothing was sent after that. -/
  ending : ∃ w₁ journal, Ending others (Identifier.issue w.issued) context
      (opened workflow context w) workflow.steps sent result.success result.error w₁ ∧
    w' = { w₁ with journal }
  success : result.success = true ↔ sent.length = workflow.steps.length
  /-- Each step has sent what it says. -/
  conveyed : ∀ position (hposition : position < sent.length),
    Conveyed (Identifier.issue w.issued) (sent.take position) sent[position]
  /-- If others leave the world alone, the log has what the result lists, and nothing else. -/
  log : (∀ position w, others position w = w) → ∃ conversation,
    w'.conversations = w.conversations ++ [(Identifier.issue w.issued, conversation)] ∧
      conversation.messages = result.stepResults.map (·.message)

section

variable {others : Nat → World σ τ → World σ τ} {workflow : ConversationWorkflow}
  {context : Option String} {w : World σ τ}

/-- A workflow among registered agents starts its conversation. -/
theorem run_startConversation_of_workflow
    (hknown : ∀ participant ∈ workflow.participants, (w.agents.find? participant).isSome)
    (hlive : w.surroundings.check context none = .ok ()) :
    (startConversation workflow.participants (topicOf workflow)
        [("workflow_id", .text workflow.id)] context).run w =
      .ok (openedConversation workflow w) (opened workflow context w) ∧
    (opened workflow context w).conversations =
      Table.insert w.conversations (Identifier.issue w.issued) (openedConversation workflow w) := by
  obtain ⟨members, hmembers⟩ := AgentStore.exists_mapM_get hknown
  obtain ⟨journal, hstart⟩ := run_startConversation workflow.participants (topicOf workflow)
    [("workflow_id", .text workflow.id)] context w hlive hmembers
  obtain ⟨houtcome, hworld⟩ := run_eq_ok_iff.mp hstart
  refine ⟨run_eq_ok_iff.mpr ⟨houtcome, rfl⟩, ?_⟩
  rw [opened, hworld]
  rfl

/-- A workflow whose conversation is started sends its steps. -/
theorem run_runConversationWorkflowAmid (others : Nat → World σ τ → World σ τ)
    (hstart : (startConversation workflow.participants (topicOf workflow)
        [("workflow_id", .text workflow.id)] context).run w =
      .ok (openedConversation workflow w) (opened workflow context w)) :
    (∀ fault w₁, (sendStepsAmid others workflow.id (Identifier.issue w.issued) context 1 []
        workflow.steps).run (opened workflow context w) = .error fault w₁ →
      (runConversationWorkflowAmid others workflow context).run w = .error fault w₁) ∧
    (∀ result w₁, (sendStepsAmid others workflow.id (Identifier.issue w.issued) context 1 []
        workflow.steps).run (opened workflow context w) = .ok result w₁ →
      ∃ journal durationMs, (runConversationWorkflowAmid others workflow context).run w =
        .ok { result with
          durationMs, finalOutcome := finalOutcome result workflow.steps.length }
          { w₁ with journal }) := by
  rw [runConversationWorkflowAmid, EStateM.run_bind, hstart]
  simp only [EStateM.run_bind, run_reading]
  refine ⟨fun fault w₁ hsteps => ?_, fun result w₁ hsteps => ?_⟩
  · rw [openedConversation, conversationOf, hsteps]
  · rw [openedConversation, conversationOf, hsteps]
    exact ⟨_, _, rfl⟩

omit [Time τ] in
/-- What a result lists does not depend on how long that took. -/
theorem Lists.finish {conversationId : String} {position : Nat} {sent : List (SentStep σ τ)}
    {result : ConversationWorkflowResult} (h : Lists conversationId position sent result)
    (durationMs : Float) (finalOutcome : String) :
    Lists conversationId position sent { result with durationMs, finalOutcome } :=
  ⟨h.conversationId, h.steps, h.insights⟩

omit [Time τ] in
/-- The messages of a result are those of the steps that were sent. -/
theorem Lists.messages {conversationId : String} {position : Nat} {sent : List (SentStep σ τ)}
    {result : ConversationWorkflowResult} (h : Lists conversationId position sent result) :
    result.stepResults.map (·.message) = sent.map (·.message) := by
  have hmessages := congrArg (List.map Prod.snd) h.steps
  rw [List.map_map, List.map_map] at hmessages
  exact hmessages

/-- However a workflow ends, its steps were sent in turn. -/
theorem Ending.inTurn {conversationId : String} {w₁ : World σ τ} {steps : List ConversationStep}
    {sent : List (SentStep σ τ)} {success : Bool} {error : String}
    (h : Ending others conversationId context w steps sent success error w₁) :
    ∃ w₂, SentInTurn others conversationId context w sent w₂ := by
  cases h with
  | finished hsent => exact ⟨_, hsent⟩
  | stopped hsent => exact ⟨_, hsent⟩

/-- A workflow that has come to an end has given an account. -/
theorem account_of_ending {sent : List (SentStep σ τ)} {result : ConversationWorkflowResult}
    {w₁ : World σ τ} {journal : List Log.Record}
    (hnew : Table.find? w.conversations (Identifier.issue w.issued) = none)
    (htable : (opened workflow context w).conversations =
      Table.insert w.conversations (Identifier.issue w.issued) (openedConversation workflow w))
    (hlists : Lists (Identifier.issue w.issued) 1 sent result)
    (hending : Ending others (Identifier.issue w.issued) context (opened workflow context w)
      workflow.steps sent result.success result.error w₁) :
    Account others workflow context w sent result { w₁ with journal } := by
  obtain ⟨w₂, hsent⟩ := hending.inTurn
  refine ⟨?_, hlists, ⟨w₁, journal, hending, rfl⟩, hending.success_iff, hsent.conveyed, ?_⟩
  · rw [htable, Table.insert_of_find?_eq_none _ hnew]
  · intro halone
    have hfound : Table.find? (opened workflow context w).conversations
        (Identifier.issue w.issued) = some (openedConversation workflow w) := by
      rw [htable, Table.find?_insert_self]
    obtain ⟨conversation, hconversations, hlog⟩ := hending.log halone hfound
    refine ⟨conversation, ?_, ?_⟩
    · show w₁.conversations = _
      rw [hconversations, htable, Table.insert_insert_self, Table.insert_of_find?_eq_none _ hnew]
    · rw [hlog, hlists.messages]
      rfl

/-- All values can be written. -/
def AllWritable (values : Fields) : Prop :=
  ∀ key value, Table.find? values key = some value → value.overlong = false

theorem allWritable_nil : AllWritable [] :=
  fun _ _ h => nomatch h

/-- A value that can be written may be added. -/
theorem AllWritable.insert {values : Fields} (h : AllWritable values) (key : String)
    {value : Value} (hvalue : value.overlong = false) :
    AllWritable (Table.insert values key value) := by
  intro other found hfound
  rw [Table.find?_insert] at hfound
  split at hfound
  · cases hfound
    exact hvalue
  · exact h other found hfound

/-- What a step has sent is a text. -/
theorem AllWritable.publish {contents : Fields} (h : AllWritable contents) (position : Nat)
    (name output : String) : AllWritable (publish contents position name output) :=
  (h.insert (stepKey position) rfl).insert name rfl

/-- A workflow strands at most at a step whose parameters cannot be written or that delegates a task
which cannot be made. -/
theorem not_strandedAmid {conversationId : String} {steps : List ConversationStep}
    (hwritten : ∀ step ∈ steps, AllWritable (Table.ofEntries step.parameters))
    (hdelegable : ∀ step ∈ steps, step.type = .taskDelegation →
      ∀ content, Delegable (stepMessage step content))
    {contents : Fields} (hcontents : AllWritable contents) (position : Nat) (w : World σ τ) :
    ¬ StrandedAmid others conversationId context position contents steps w := by
  intro hstranded
  induction hstranded with
  | @here position contents step rest w hstrands =>
    rcases hstrands with ⟨_, name, -, value, hvalue, hlong⟩ | ⟨hcontent, hstrands⟩
    · rw [Table.find?_merge, Option.or_eq_some_iff] at hvalue
      rcases hvalue with hown | ⟨-, hearlier⟩
      · cases (hwritten step List.mem_cons_self _ _ hown).symm.trans hlong
      · cases (hcontents _ _ hearlier).symm.trans hlong
    · exact hstrands.parameters (hdelegable step List.mem_cons_self hstrands.type _)
  | later _ _ ih =>
    exact ih (fun step hmem => hwritten step (List.mem_cons_of_mem _ hmem))
      (fun step hmem => hdelegable step (List.mem_cons_of_mem _ hmem)) (hcontents.publish _ _ _)

/-- **Conversation workflows.** A workflow that runs among registered agents, on behalf of a call
that is not stopped when it starts, returns and gives an account of what it has done, whatever
others do to the world before each of its steps, exactly if none of its steps is stranded when its
turn comes. If others leave the world alone, this is what the workflow does on its own. -/
theorem conversationWorkflow_accounted_iff [Backend σ τ] (hreachable : Reachable w)
    (hknown : ∀ participant ∈ workflow.participants, (w.agents.find? participant).isSome)
    (hlive : w.surroundings.check context none = .ok ()) :
    (runConversationWorkflow workflow context : Run σ τ ConversationWorkflowResult) =
        runConversationWorkflowAmid (fun _ w => w) workflow context ∧
      ∀ others : Nat → World σ τ → World σ τ,
        (∃ sent result w', (runConversationWorkflowAmid others workflow context).run w =
            .ok result w' ∧ Account others workflow context w sent result w') ↔
          ¬ StrandedAmid others (Identifier.issue w.issued) context 1 [] workflow.steps
            (opened workflow context w) := by
  refine ⟨runConversationWorkflow_eq_amid workflow context, fun others => ?_⟩
  obtain ⟨hstart, htable⟩ := run_startConversation_of_workflow hknown hlive
  obtain ⟨hfails, hreturns⟩ := run_runConversationWorkflowAmid others hstart
  have hnew := hreachable.consistent.find?_issue (Nat.le_refl w.issued)
  have hbegin : SentInTurn others (Identifier.issue w.issued) context (opened workflow context w) []
    (opened workflow context w) := .start
  -- A step that strands makes the whole run fail; otherwise there is a result to account for.
  rcases run_sendStepsAmid workflow.id hbegin workflow.steps with
    ⟨hstranded, fault, w₁, hsteps⟩ | ⟨hnot, sent, result, w₁, hsteps, hlists, hending⟩
  · refine iff_of_false ?_ (not_not_intro hstranded)
    rintro ⟨sent, result, w', hrun, -⟩
    cases (hfails fault w₁ hsteps).symm.trans hrun
  · refine iff_of_true ?_ hnot
    obtain ⟨journal, durationMs, hrun⟩ := hreturns result w₁ hsteps
    exact ⟨sent, _, _, hrun, account_of_ending hnew htable (hlists.finish _ _) hending⟩

end

/-! ## Workflows of two agents -/

/-- Two agents are registered. -/
def acquainted : List (Event (Scripted.Script Rat) Rat) :=
  [.makeAgent { id := "al" }, .createAgent ⟨0⟩ none, .makeAgent { id := "bo" },
    .createAgent ⟨1⟩ none]

theorem reachable_acquainted : Reachable (after quietEngine acquainted) := by
  have hrun : AdmissibleFrom quietEngine acquainted :=
    ⟨trivial, Nat.zero_lt_one, trivial, Nat.one_lt_two, trivial⟩
  exact ⟨quietEngine, fresh_quietEngine, reaches_after hrun⟩

/-- One agent asks the other one for something, and gets it back. -/
def errands : ConversationWorkflow where
  id := "errands"
  participants := ["al", "bo"]
  steps := [
    { id := "ask", fromAgent := "al", toAgent := "bo", template := "\x7b\x7btopic\x7d\x7d?",
      parameters := [("topic", .text "news")] },
    { id := "answer", fromAgent := "bo", toAgent := "al", template := "\x7b\x7bask\x7d\x7d" }]

/-- The second agent is removed before the second step. -/
def removingSecond (position : Nat) (w : World (Scripted.Script Rat) Rat) :
    World (Scripted.Script Rat) Rat :=
  if position = 2 then worldAfter (deleteAgent "bo" none) w else w

/-- The workflow gives an account although the second agent is removed while it runs. -/
theorem conversationWorkflow_accounted_errands :
    let w := after quietEngine acquainted
    Reachable w ∧ (∀ participant ∈ errands.participants, (w.agents.find? participant).isSome) ∧
      w.surroundings.check none none = .ok () ∧
      ∃ sent result w', (runConversationWorkflowAmid removingSecond errands none).run w =
          .ok result w' ∧ Account removingSecond errands none w sent result w' := by
  intro w
  have hknown : ∀ participant ∈ errands.participants, (w.agents.find? participant).isSome :=
    List.forall_mem_cons.mpr ⟨rfl, List.forall_mem_cons.mpr ⟨rfl, nofun⟩⟩
  have hlive : w.surroundings.check none none = .ok () := rfl
  refine ⟨reachable_acquainted, hknown, hlive, ?_⟩
  have haccounted := (conversationWorkflow_accounted_iff reachable_acquainted hknown hlive).2
  refine (haccounted removingSecond).mpr (not_strandedAmid ?_ ?_ allWritable_nil 1 _)
  · -- The only parameter is a text.
    exact List.forall_mem_cons.mpr ⟨allWritable_nil.insert "topic" rfl,
      List.forall_mem_cons.mpr ⟨allWritable_nil, nofun⟩⟩
  · -- None of the steps delegates anything.
    exact List.forall_mem_cons.mpr ⟨nofun, List.forall_mem_cons.mpr ⟨nofun, nofun⟩⟩

/-- An agent delegates a task, with a number for the name of a parameter. -/
def strandedErrand : ConversationWorkflow where
  id := "stranded"
  participants := ["al"]
  steps := [
    { id := "delegate", fromAgent := "al", toAgent := "al", template := "hi",
      type := .taskDelegation
      parameters := [("task_parameters", .map [(.int 1, .text "x")])] }]

/-- The workflow gives no answer: the fault of its only step is from outside the taxonomy. The
message of the step is in the log all the same. -/
theorem unanswered_strandedErrand :
    let w := after quietEngine acquainted
    Reachable w ∧ (∀ participant ∈ strandedErrand.participants,
        (w.agents.find? participant).isSome) ∧
      w.surroundings.check none none = .ok () ∧
      ∃ fault w', (runConversationWorkflow strandedErrand none).run w = .error fault w' ∧
        fault.isOrchestration = false ∧
        (Table.find? w'.conversations (Identifier.issue w.issued)).map
          (·.messages.length) = some 1 := by
  have hknown : ∀ participant ∈ strandedErrand.participants,
      ((after quietEngine acquainted).agents.find? participant).isSome :=
    List.forall_mem_cons.mpr ⟨rfl, nofun⟩
  refine ⟨reachable_acquainted, hknown, rfl, ?_⟩
  refine ⟨_, _, rfl, ?_, ?_⟩
  · rfl
  · rfl

end Orchestration.Engine
