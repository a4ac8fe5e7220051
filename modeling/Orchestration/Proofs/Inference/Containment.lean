import Orchestration.Proofs.Inference.Streams

/-!
# What the adapter lets through

Whatever goes wrong in the service, a caller of the adapter should see it as a fault of inference;
the only other fault is the one that says that the call itself was cancelled or ran out of time
(`Contained`). For streams this holds however malformed the parts are, and whatever happens between
two chunks: a part is made into a chunk where its faults are caught. For embeddings it does not
hold. The vector is read when nothing is caught any more, so a malformed response comes through as
the fault of reading it.

The main statement is `contained_iff`.
-/

namespace Orchestration

/-! ## Faults of reading -/

namespace Fault

/-- The fault is one of reading a value: it has nothing to do with calls. -/
def IsReading : Fault → Prop
  | foreign _ _ | schema _ _ => True
  | _ => False

/-- A value that cannot be read says nothing about the call. -/
theorem IsReading.isCancellation {fault : Fault} (h : fault.IsReading) :
    fault.isCancellation = false := by
  cases fault with
  | execution failure message taskId => exact h.elim
  | _ => rfl

end Fault

namespace Adapter

/-! ## Parts of a reply -/

section Parts

/-- An entry that is required may be missing. -/
theorem reading_entry (v : Value) (name : String) :
    Fault.FailsWith Fault.IsReading (entry v name) := by
  unfold entry
  split
  · exact Fault.failsWith_ok _
  · exact Fault.failsWith_error trivial

/-- An entry with a default can be looked up in a mapping only. -/
theorem reading_entryOr (v : Value) (name : String) (default : Value) :
    Fault.FailsWith Fault.IsReading (entryOr v name default) := by
  unfold entryOr
  split
  · exact Fault.failsWith_ok _
  · exact Fault.failsWith_error trivial

theorem reading_promptContent (part : Value) :
    Fault.FailsWith Fault.IsReading (promptContent part) :=
  reading_entryOr _ _ _

theorem reading_chatContent (part : Value) :
    Fault.FailsWith Fault.IsReading (chatContent part) :=
  (reading_entry _ _).bind fun _ => (reading_entry _ _).bind fun _ => Fault.failsWith_ok _

/-- However malformed a part is, making a chunk of it fails only with a fault of reading. -/
theorem reading_chunkOf {content : Value → Except Fault Value}
    (hcontent : ∀ part, Fault.FailsWith Fault.IsReading (content part)) (part : Value) :
    Fault.FailsWith Fault.IsReading (chunkOf content part) := by
  have hcount : ∀ (done : Bool) (name : String), Fault.FailsWith Fault.IsReading
      (if done then entry part name else .ok .null) := by
    intro done name
    cases done with
    | false => exact Fault.failsWith_ok _
    | true => exact reading_entry _ _
  refine (hcontent part).bind fun text => (reading_entryOr _ _ _).bind fun done => ?_
  refine (hcount _ _).bind fun input => (hcount _ _).bind fun output => ?_
  exact Checked.failsWith_orFault (fun _ => trivial) _

end Parts

/-! ## Vectors -/

section Vectors

/-- The value stands for a number. -/
def StandsForNumber : Value → Prop
  | .float _ | .bool _ => True
  | .int n => Decimal.isFinite (Decimal.ofInteger n) = true
  | .text s => (Numeral.number? s.toList).isSome = true
  | _ => False

/-- The response to a request for an embedding can be read: it is a mapping, and what it has under
`embeddings` is empty, or begins with an item all of whose items stand for numbers. -/
def Readable (response : Value) : Prop :=
  ∃ entries, response = .map entries ∧
    let embeddings := (Value.entry? entries "embeddings").getD .null
    embeddings.truthy = true → ∃ first items,
      firstItem embeddings = .ok first ∧ itemsOf first = .ok items ∧ ∀ v ∈ items, StandsForNumber v

/-- A number is made of what stands for one, and of nothing else. -/
theorem component_returns_iff (v : Value) :
    (∃ x, component v = .ok x) ↔ StandsForNumber v := by
  unfold component StandsForNumber
  split
  · simp
  · simp
  next n => by_cases hfinite : Decimal.isFinite (Decimal.ofInteger n) = true <;> simp [hfinite]
  next s => cases hnumber : Numeral.number? s.toList <;> simp_all
  next => simp_all

/-- What stands for no number fails in reading it. -/
theorem reading_component (v : Value) : Fault.FailsWith Fault.IsReading (component v) := by
  unfold component
  split
  · exact Fault.failsWith_ok _
  · exact Fault.failsWith_ok _
  · dsimp only
    split
    · exact Fault.failsWith_ok _
    · exact Fault.failsWith_error trivial
  · split
    · exact Fault.failsWith_ok _
    · exact Fault.failsWith_error trivial
  · exact Fault.failsWith_error trivial

/-- What has no first item fails in reading it. -/
theorem reading_firstItem (v : Value) : Fault.FailsWith Fault.IsReading (firstItem v) := by
  unfold firstItem
  split
  · exact Fault.failsWith_ok _
  · exact Fault.failsWith_ok _
  · split
    · exact Fault.failsWith_ok _
    · exact Fault.failsWith_error trivial
  · exact Fault.failsWith_error trivial

/-- What has no items fails in reading them. -/
theorem reading_itemsOf (v : Value) : Fault.FailsWith Fault.IsReading (itemsOf v) := by
  unfold itemsOf
  split
  · exact Fault.failsWith_ok _
  · exact Fault.failsWith_ok _
  · exact Fault.failsWith_ok _
  · exact Fault.failsWith_error trivial

end Vectors

/-! ## Contained faults -/

section Contained

variable {τ : Type} [Time τ]

/-- What a caller of the adapter may see: a fault of inference, or that its call is over when the
context says so at that moment. -/
inductive Contained (s : Surroundings τ) (context : Option String) : Fault → Prop
  | inference (message : String) (taskId : Option String) :
    Contained s context (.execution .inference message taskId)
  | cancelled (message : String) (taskId : Option String)
    (stopped : (s.context context).stopped s.clock.reading = true) :
    Contained s context (.execution .cancelled message taskId)

variable {s : Surroundings τ} {context : Option String}

/-- A fault of reading is neither one of inference nor the end of the call. -/
theorem not_contained_of_reading {fault : Fault} (h : fault.IsReading) :
    ¬ Contained s context fault := by
  rintro (_ | _) <;> exact h

/-- An operation that fails only in reading is contained exactly if it does not fail at all. -/
theorem contained_iff_returns {α : Type} {result : Except Fault α}
    (h : Fault.FailsWith Fault.IsReading result) :
    Fault.FailsWith (Contained s context) result ↔ ∃ a, result = .ok a := by
  cases result with
  | ok a => exact iff_of_true (Fault.failsWith_ok a) ⟨a, rfl⟩
  | error fault =>
    refine iff_of_false (fun hcontained => ?_) nofun
    exact not_contained_of_reading (h fault rfl) (hcontained fault rfl)

/-- The vector that begins the embeddings of a response. -/
def vectorIn (embeddings : Value) : Except Fault Value := do
  let vector ← (← itemsOf (← firstItem embeddings)).mapM component
  return .list (vector.map Value.float)

/-- The vector of a response fails in reading it, or not at all. -/
theorem reading_vectorIn (embeddings : Value) :
    Fault.FailsWith Fault.IsReading (vectorIn embeddings) :=
  (reading_firstItem _).bind fun _ => (reading_itemsOf _).bind fun _ =>
    (Fault.failsWith_mapM reading_component).bind fun _ => Fault.failsWith_ok _

/-- There is a vector exactly if there is a first item, and all of its items stand for numbers. -/
theorem vectorIn_returns_iff (embeddings : Value) :
    (∃ vector, vectorIn embeddings = .ok vector) ↔ ∃ first items,
      firstItem embeddings = .ok first ∧ itemsOf first = .ok items ∧
        ∀ v ∈ items, StandsForNumber v := by
  constructor
  · rintro ⟨vector, h⟩
    obtain ⟨first, hfirst, h⟩ := Fault.bind_eq_ok_iff.mp h
    obtain ⟨items, hitems, h⟩ := Fault.bind_eq_ok_iff.mp h
    obtain ⟨numbers, hnumbers, -⟩ := Fault.bind_eq_ok_iff.mp h
    have hall := Fault.mapM_returns_iff.mp ⟨numbers, hnumbers⟩
    exact ⟨first, items, hfirst, hitems, fun v hv => (component_returns_iff v).mp (hall v hv)⟩
  · rintro ⟨first, items, hfirst, hitems, hall⟩
    obtain ⟨numbers, hnumbers⟩ := Fault.mapM_returns_iff.mpr
      fun v hv => (component_returns_iff v).mpr (hall v hv)
    refine ⟨.list (numbers.map Value.float), ?_⟩
    rw [vectorIn, hfirst]
    show itemsOf first >>= _ = _
    rw [hitems]
    show items.mapM component >>= _ = _
    rw [hnumbers]
    rfl

/-- The vector of a response is read without a foreign fault exactly if the response can be read. -/
theorem contained_vectorOf_iff (request : ServiceRequest) (response : Value) :
    Fault.FailsWith (Contained s context) (vectorOf request response) ↔ Readable response := by
  rcases hentry : entry response "embeddings" with fault | embeddings
  · -- What has no entries at all cannot be read.
    have hfault : vectorOf request response = .error fault := by
      rw [vectorOf, hentry]
      rfl
    have hreading : fault.IsReading := reading_entry _ _ fault hentry
    refine iff_of_false (fun h => not_contained_of_reading hreading (h fault hfault)) ?_
    rintro ⟨entries, rfl, -⟩
    cases hentry
  · obtain ⟨entries, rfl⟩ : ∃ entries, response = .map entries := by
      cases response with
      | map entries => exact ⟨entries, rfl⟩
      | _ => cases hentry
    have hembeddings : (Value.entry? entries "embeddings").getD .null = embeddings :=
      Except.ok.inj hentry
    -- The first item is looked at only if there is anything under the name.
    have hvector : vectorOf request (.map entries) =
        if embeddings.truthy then vectorIn embeddings
        else .error (.execution .inference
          ("ollama returned no embedding for model " ++ Text.quoted request.model) none) := by
      rw [vectorOf, hentry]
      rfl
    have hreadable : Readable (.map entries) ↔
        (embeddings.truthy = true → ∃ vector, vectorIn embeddings = .ok vector) := by
      rw [vectorIn_returns_iff, ← hembeddings]
      exact ⟨by rintro ⟨_, ⟨⟩, h⟩; exact h, fun h => ⟨entries, rfl, h⟩⟩
    rw [hvector, hreadable]
    cases htruthy : embeddings.truthy with
    | false => exact iff_of_true (Fault.failsWith_error (.inference _ _)) nofun
    | true =>
      rw [if_pos rfl, contained_iff_returns (reading_vectorIn _)]
      exact ⟨fun h _ => h, fun h => h rfl⟩

end Contained

/-! ## Streams -/

section Streams

variable {τ : Type}

/-- No fault that the service raises says that the call was cancelled. -/
structure Honest (reply : ServiceReply τ) : Prop where
  failure : ∀ fault, reply.failure = some fault → fault.isCancellation = false
  parts : ∀ fault, .fail fault ∈ reply.parts → fault.isCancellation = false

/-- The event brings up no fault that says that the call was cancelled. -/
def Calm : StreamEvent τ → Prop
  | .effect _ => True
  | .chunk made => Fault.FailsWith (fun fault => fault.isCancellation = false) made
  | .fail fault => fault.isCancellation = false

/-- An honest reply makes calm events, however malformed its parts are. -/
theorem calm_eventsOf {content : Value → Except Fault Value} {reply : ServiceReply τ}
    (hcontent : ∀ part, Fault.FailsWith Fault.IsReading (content part)) (h : Honest reply)
    (context : Option String) : ∀ event ∈ eventsOf context content reply, Calm event := by
  -- A part brings up a fault of its own, or one of reading it.
  have hpart : ∀ part ∈ reply.parts, ∀ event ∈ eventOf context content part, Calm event := by
    intro part hmem event hevent
    cases part with
    | pass seconds =>
      rw [List.mem_singleton.mp hevent]
      trivial
    | cancel =>
      obtain ⟨name, -, rfl⟩ := Option.map_eq_some_iff.mp (Option.mem_toList.mp hevent)
      trivial
    | fail fault =>
      rw [List.mem_singleton.mp hevent]
      exact h.parts fault hmem
    | data value =>
      rw [List.mem_singleton.mp hevent]
      exact (reading_chunkOf hcontent value).mono fun _ hreading => hreading.isCancellation
  intro event hevent
  rcases List.mem_append.mp hevent with hdelay | hreply
  · obtain ⟨seconds, -, rfl⟩ := Option.map_eq_some_iff.mp (Option.mem_toList.mp hdelay)
    trivial
  · cases hfailure : reply.failure with
    | some fault =>
      rw [hfailure] at hreply
      rw [List.mem_singleton.mp hreply]
      exact h.failure fault hfailure
    | none =>
      rw [hfailure] at hreply
      obtain ⟨part, hmem, hevent⟩ := List.mem_flatMap.mp hreply
      exact hpart part hmem event hevent

variable [Time τ]

/-- The check of a context fails only if the call is over, and says so. -/
theorem stopped_of_check {s : Surroundings τ} {context taskId : Option String} {fault : Fault}
    (h : s.check context taskId = .error fault) :
    (s.context context).stopped s.clock.reading = true ∧
      ∃ message, fault = .execution .cancelled message taskId := by
  unfold Surroundings.check CallContext.check at h
  unfold CallContext.stopped
  split at h
  next hcancelled =>
    cases h
    exact ⟨by rw [hcancelled, Bool.true_or], _, rfl⟩
  next =>
    split at h
    next hexpired =>
      cases h
      exact ⟨by rw [hexpired, Bool.or_true], _, rfl⟩
    next => cases h

/-- What follows a chunk was part of the stream before. -/
theorem mem_of_mem_rest {s : Surroundings τ} {context : Option String}
    {events rest : List (StreamEvent τ)} {next : StreamChunk}
    (h : (StreamEvent.pull s context events).1 = .chunk next rest) : rest ⊆ events := by
  induction events generalizing s with
  | nil => cases h
  | cons event later ih =>
    apply List.Subset.trans _ (List.subset_cons_self event later)
    cases event with
    | effect e => exact ih h
    | chunk made =>
      rw [StreamEvent.pull] at h
      split at h
      · cases h
      · cases h
        exact List.Subset.refl _
    | fail fault => cases h

/-- If nothing else claims that the call was cancelled, then a stream ends with such a fault only
when its context says so. -/
theorem stopped_of_pull {s : Surroundings τ} {context : Option String}
    {events : List (StreamEvent τ)} {fault : Fault} {effects : List (Effect τ)}
    (hcalm : ∀ event ∈ events, Calm event)
    (h : StreamEvent.pull s context events = (.done (some fault), effects))
    (hcancelled : fault.isCancellation = true) :
    ((s.applyAll effects).context context).stopped (s.applyAll effects).clock.reading = true := by
  induction events generalizing s effects with
  | nil => cases h
  | cons event rest ih =>
    have hevent := hcalm event List.mem_cons_self
    have hrest := fun other hother => hcalm other (List.mem_cons_of_mem _ hother)
    cases event with
    | effect e =>
      rw [StreamEvent.pull, Prod.mk.injEq] at h
      obtain ⟨hdone, rfl⟩ := h
      exact ih (s := s.apply e) hrest (Prod.ext hdone rfl)
    | chunk made =>
      rw [StreamEvent.pull] at h
      cases hcheck : s.check context none with
      | error stop =>
        rw [hcheck] at h
        cases h
        exact (stopped_of_check hcheck).1
      | ok _ =>
        -- The chunk could not be made, which is no cancellation.
        rw [hcheck] at h
        cases made with
        | error cause =>
          cases h
          rw [hevent fault rfl] at hcancelled
          cases hcancelled
        | ok next => cases h
    | fail cause =>
      cases h
      rw [show fault.isCancellation = false from hevent] at hcancelled
      cases hcancelled

end Streams

/-! ## Consumers -/

section Consumers

variable {τ : Type} [Time τ]

/-- Whichever client a call gets, its request goes to the same service. -/
theorem service_begin (adapter : Adapter τ) (s : Surroundings τ) (context : Option String)
    (request : ServiceRequest) :
    (adapter.begin s context request).2.1 = adapter.service adapter.requests request ∧
      (adapter.begin s context request).2.2.service = adapter.service := by
  obtain ⟨clients, shared, hbegun⟩ := begin_frame adapter s context request
  rw [hbegun]
  exact ⟨rfl, rfl⟩

/-- The service never says by itself that a call was cancelled. -/
def HonestService (adapter : Adapter τ) : Prop :=
  ∀ earlier request, Honest (adapter.service earlier request)

/-- A stream that the adapter has given for a prompt or a chat, at any point of its consumption.
Between two chunks anything may happen to the adapter and to its surroundings. -/
inductive Consumed (context : Option String) : Flow τ → Prop
  | prompt (model prompt : String) (options : Option Options) :
    Consumed context (.created (.generate model prompt options) context promptContent)
  | chat (model : String) (turns : List ChatMessage) (options : Option Options) :
    Consumed context (.created (.chat model turns options) context chatContent)
  | next {flow : Flow τ} (h : Consumed context flow) (adapter : Adapter τ)
    (honest : HonestService adapter) (s : Surroundings τ) :
    Consumed context (flow.next adapter s).value.1
  | closed {flow : Flow τ} (h : Consumed context flow) (adapter : Adapter τ) :
    Consumed context (flow.close adapter).2

/-- The stream is one of the context, and nothing that is still to come in it claims that the call
was cancelled. -/
def CalmFlow (context : Option String) : Flow τ → Prop
  | .created _ own content =>
    own = context ∧ ∀ part, Fault.FailsWith Fault.IsReading (content part)
  | .running _ own events => own = context ∧ ∀ event ∈ events, Calm event
  | .ended _ => True

variable {context : Option String} {adapter : Adapter τ} {s : Surroundings τ} {flow : Flow τ}

/-- A fault in a stream is told as one of inference, unless the call is over. -/
theorem contained_streamFault {request : ServiceRequest} {fault : Fault}
    (h : fault.isCancellation = true → (s.context context).stopped s.clock.reading = true) :
    Contained s context (streamFault request fault) := by
  unfold streamFault
  split
  next hcancelled =>
    match fault with
    | .execution .cancelled message taskId => exact .cancelled message taskId (h rfl)
  next => exact .inference _ _

/-- What a step of a consumer leaves is calm, and what it lets through is contained. -/
structure StepContained (s : Surroundings τ) (context : Option String)
    (answer : Answer (Adapter τ) τ (Flow τ × Option (Except Fault StreamChunk))) : Prop where
  calm : CalmFlow context answer.value.1
  contained : ∀ fault, answer.value.2 = some (.error fault) →
    Contained (s.applyAll answer.effects) context fault

/-- A stream that goes on with calm events stays calm, and lets only contained faults through. -/
theorem stepContained_resume {events : List (StreamEvent τ)} (adapter : Adapter τ)
    (s : Surroundings τ) (visit : Visit τ) (hcalm : ∀ event ∈ events, Calm event) :
    StepContained s context (Flow.resume adapter s visit context events) := by
  unfold Flow.resume
  rcases hpull : StreamEvent.pull s context events with ⟨⟨next, rest⟩ | ⟨_ | cause⟩, effects⟩
  · refine ⟨⟨rfl, fun event hevent => hcalm event ?_⟩, nofun⟩
    exact mem_of_mem_rest (congrArg Prod.fst hpull) hevent
  · exact ⟨trivial, nofun⟩
  · refine ⟨trivial, ?_⟩
    rintro fault ⟨⟩
    exact contained_streamFault (stopped_of_pull hcalm hpull)

/-- To ask a calm stream for a chunk leaves it calm, whether or not it had been started. -/
theorem stepContained_next (honest : HonestService adapter) (s : Surroundings τ)
    (h : CalmFlow context flow) : StepContained s context (flow.next adapter s) := by
  cases flow with
  | created request own content =>
    obtain ⟨rfl, hcontent⟩ := h
    have hreply := (service_begin adapter s own request).1
    have hhonest : Honest (adapter.begin s own request).2.1 := hreply ▸ honest _ _
    exact stepContained_resume _ _ _ (calm_eventsOf hcontent hhonest _)
  | running visit own events =>
    obtain ⟨rfl, hcalm⟩ := h
    exact stepContained_resume _ _ _ hcalm
  | ended visit => exact ⟨trivial, nofun⟩

/-- A stream of an honest service is calm at any point of its consumption. -/
theorem Consumed.calm (h : Consumed context flow) : CalmFlow context flow := by
  induction h with
  | prompt model prompt options => exact ⟨rfl, reading_promptContent⟩
  | chat model turns options => exact ⟨rfl, reading_chatContent⟩
  | next h adapter honest s ih => exact (stepContained_next honest s ih).calm
  | @closed flow h adapter ih => cases flow <;> trivial

/-- The service is still the same when a chunk was asked for. -/
theorem service_next (flow : Flow τ) (adapter : Adapter τ) (s : Surroundings τ) :
    (flow.next adapter s).backend.service = adapter.service := by
  have hfinish : ∀ (adapter : Adapter τ) session,
      (adapter.finish session).service = adapter.service := by
    intro adapter session
    obtain ⟨clients, hfinished⟩ := finish_frame adapter session
    rw [hfinished]
  have hresume : ∀ (adapter : Adapter τ) visit context events,
      (Flow.resume adapter s visit context events).backend.service = adapter.service := by
    intro adapter visit context events
    unfold Flow.resume
    rcases StreamEvent.pull s context events with ⟨⟨next, rest⟩ | fault, effects⟩
    · rfl
    · exact hfinish _ _
  cases flow with
  | created request context content =>
    exact (hresume _ _ _ _).trans (service_begin adapter s context request).2
  | running visit context events => exact hresume _ _ _ _
  | ended visit => rfl

/-- What a consumer gets who takes several chunks of a calm stream is contained. -/
theorem Drained.contained {limit : Option Nat} {delivery : Delivery} {effects : List (Effect τ)}
    {left : Adapter τ × Flow τ} (h : Drained s limit adapter flow delivery effects left)
    (honest : HonestService adapter) (hcalm : CalmFlow context flow) :
    ∀ fault, delivery.fault = some fault → Contained (s.applyAll effects) context fault := by
  induction h with
  | satisfied enough => exact nofun
  | @chunk s limit adapter flow adapter' flow' effects next delivery later left more got rest ih =>
    have hstep := stepContained_next honest s hcalm
    have hservice := service_next flow adapter s
    rw [got] at hstep hservice
    have hhonest : HonestService adapter' := fun earlier request => by
      rw [show adapter'.service = adapter.service from hservice]
      exact honest earlier request
    have happly : s.applyAll (effects ++ later) = (s.applyAll effects).applyAll later :=
      List.foldl_append
    rw [happly]
    exact ih hhonest hstep.calm
  | @failed s limit adapter flow adapter' flow' effects fault more got =>
    have hstep := stepContained_next honest s hcalm
    rw [got] at hstep
    rintro other ⟨⟩
    exact hstep.contained fault rfl
  | dry more got => exact nofun

/-! ## Embeddings -/

/-- What the service reports of a call for an embedding is told as a failure of inference. -/
theorem value_embed_of_failure {adapter : Adapter τ} {s : Surroundings τ}
    {context : Option String} {model text : String} {fault : Fault}
    (hopen : s.check context none = .ok ())
    (hfailure : (adapter.begin s context (.embed model text)).2.1.failure = some fault) :
    (adapter.embed s context model text).value = .error (report (.embed model text) fault) := by
  simp only [begin] at hfailure
  simp [embed, hopen, hfailure]

/-- The response to a call for an embedding is read as a vector. -/
theorem value_embed_of_response {adapter : Adapter τ} {s : Surroundings τ}
    {context : Option String} {model text : String}
    (hopen : s.check context none = .ok ())
    (hnone : (adapter.begin s context (.embed model text)).2.1.failure = none) :
    (adapter.embed s context model text).value =
      vectorOf (.embed model text) (adapter.begin s context (.embed model text)).2.1.response := by
  simp only [begin] at hnone ⊢
  simp [embed, hopen, hnone]

/-- A call for an embedding lets only contained faults through exactly if its response can be read,
in case the call is made and the service has a response. -/
theorem contained_embed_iff (adapter : Adapter τ) (s : Surroundings τ) (context : Option String)
    (model text : String) :
    Fault.FailsWith (Contained s context) (adapter.embed s context model text).value ↔
      (s.check context none = .ok () →
        let reply := adapter.service adapter.requests (.embed model text)
        reply.failure = none → Readable reply.response) := by
  cases hcheck : s.check context none with
  | error stop =>
    obtain ⟨hstopped, message, rfl⟩ := stopped_of_check hcheck
    rw [embed_of_error hcheck]
    exact iff_of_true (Fault.failsWith_error (.cancelled _ _ hstopped)) nofun
  | ok _ =>
    have hreply := (service_begin adapter s context (.embed model text)).1
    cases hfailure : (adapter.service adapter.requests (.embed model text)).failure with
    | some fault =>
      rw [value_embed_of_failure hcheck (hreply ▸ hfailure)]
      refine iff_of_true (Fault.failsWith_error (.inference _ _)) fun _ hnone => ?_
      cases hfailure.symm.trans hnone
    | none =>
      rw [value_embed_of_response hcheck (hreply ▸ hfailure), hreply, contained_vectorOf_iff]
      exact ⟨fun h _ _ => h, fun h => h rfl hfailure⟩

end Consumers

/-! ## The adapter as a whole -/

/-- **What the adapter lets through.** Whatever the service does, as long as it does not say by
itself that a call was cancelled, and whatever the context is: each step of the consumption of a
prompt or a chat, and so any number of steps, lets only contained faults through. A call for an
embedding does so exactly if the response can be read, in case the service gives one. -/
theorem contained_iff {τ : Type} [Time τ] {adapter : Adapter τ} (honest : HonestService adapter)
    (s : Surroundings τ) (context : Option String) :
    (∀ flow, Consumed context flow →
      let answer := flow.next adapter s
      ∀ fault, answer.value.2 = some (.error fault) →
        Contained (s.applyAll answer.effects) context fault) ∧
    (∀ limit model prompt options,
      let answer := adapter.generate s context limit model prompt options
      ∀ fault, answer.value.fault = some fault →
        Contained (s.applyAll answer.effects) context fault) ∧
    (∀ limit model turns options,
      let answer := adapter.chat s context limit model turns options
      ∀ fault, answer.value.fault = some fault →
        Contained (s.applyAll answer.effects) context fault) ∧
    ∀ model text,
      (∀ fault, (adapter.embed s context model text).value = .error fault →
        Contained s context fault) ↔
      (s.check context none = .ok () →
        let reply := adapter.service adapter.requests (.embed model text)
        reply.failure = none → Readable reply.response) := by
  refine ⟨?_, ?_, ?_, contained_embed_iff adapter s context⟩
  · intro flow hconsumed
    exact (stepContained_next honest s hconsumed.calm).contained
  · intro limit model prompt options
    have hflow : Consumed (τ := τ) context _ := .prompt model prompt (givenOptions options)
    exact (stream_drained ..).contained honest hflow.calm
  · intro limit model turns options
    have hflow : Consumed (τ := τ) context _ := .chat model turns (givenOptions options)
    exact (stream_drained ..).contained honest hflow.calm

/-- An adapter to a service that cannot be reached, except for embeddings, whose vectors lack a
number. -/
def brokenAdapter : Adapter Rat where
  timeout := 300
  service _ request := match request with
    | .embed _ _ => { response := .record [("embeddings", .list [.list [.null]])] }
    | _ => { failure := some (.foreign .connection "connection refused") }

/-- The broken service does not say that a call was cancelled. -/
theorem honest_brokenAdapter : HonestService brokenAdapter := by
  rintro earlier (_ | _ | _) <;> exact ⟨by rintro fault ⟨⟩ <;> rfl, nofun⟩

/-- A prompt to a service that cannot be reached fails as inference. The vector that lacks a number
comes through as the fault of reading it. -/
theorem contained_iff_brokenAdapter :
    let s : Surroundings Rat := ⟨⟨0, 0⟩, []⟩
    let answer := brokenAdapter.generate s none none "model" "prompt" none
    (∃ fault, answer.value.fault = some fault ∧ Contained s none fault) ∧
      ¬ ∀ fault, (brokenAdapter.embed s none "model" "text").value = .error fault →
        Contained s none fault := by
  intro s answer
  obtain ⟨-, hgenerate, -, hembed⟩ := contained_iff honest_brokenAdapter s none
  refine ⟨⟨_, rfl, hgenerate none "model" "prompt" none _ rfl⟩, fun h => ?_⟩
  obtain ⟨entries, hentries, hreadable⟩ := (hembed "model" "text").mp h rfl rfl
  cases hentries
  obtain ⟨first, items, hfirst, hitems, hall⟩ := hreadable rfl
  cases hfirst
  cases hitems
  exact hall .null List.mem_cons_self

/-- Not every fault that the adapter lets through is contained: a malformed vector is not. -/
theorem not_contained_malformedVector :
    ¬ ∀ adapter : Adapter Rat, HonestService adapter → ∀ (s : Surroundings Rat) context model text,
      ∀ fault, (adapter.embed s context model text).value = .error fault →
        Contained s context fault := by
  intro hall
  have hcontained := hall brokenAdapter honest_brokenAdapter ⟨⟨0, 0⟩, []⟩ none "model" "text"
    (.wrongType "float() argument must be a string or a real number, not 'NoneType'") rfl
  cases hcontained

end Adapter

end Orchestration
