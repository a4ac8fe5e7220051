import Mathlib.Logic.Relation
import Orchestration.Proofs.Inference.Clients

/-!
# Streams and the clients they use

A call for a stream does nothing by itself. The request is made when its consumer asks for the first
chunk, and the consumer may ask for as many as it likes, close the stream early or never start it;
other calls may come in between. `Flow` is a stream as its consumer holds it, and `Traffic` an
adapter with all the calls that were made to it. What the adapter does for a consumer who wants a
number of chunks at once is what `Flow.next` and `Flow.close` do one after the other
(`stream_drained`).

Every client then serves the calls that it was made for, and is closed when they end. The main
statement is `clients_accounted`.
-/

namespace Orchestration

/-! ## Chunk by chunk -/

/-- What comes next in a stream. -/
inductive Pulled (τ : Type) where
  | chunk (next : StreamChunk) (rest : List (StreamEvent τ))
  | done (fault : Option Fault)

namespace StreamEvent

variable {τ : Type} [Time τ]

/-- Takes the next chunk of a stream. -/
def pull (s : Surroundings τ) (context : Option String) :
    List (StreamEvent τ) → Pulled τ × List (Effect τ)
  | [] => (.done none, [])
  | .effect e :: rest => ((pull (s.apply e) context rest).1, e :: (pull (s.apply e) context rest).2)
  | .chunk made :: rest =>
    match s.check context none >>= fun _ => made with
    | .error fault => (.done (some fault), [])
    | .ok next => (.chunk next rest, [])
  | .fail fault :: _ => (.done (some fault), [])

/-- What follows a chunk is less than what there was. -/
theorem length_rest_lt {s : Surroundings τ} {context : Option String}
    {events rest : List (StreamEvent τ)} {next : StreamChunk}
    (h : (pull s context events).1 = .chunk next rest) : rest.length < events.length := by
  induction events generalizing s with
  | nil => simp [pull] at h
  | cons event later ih =>
    cases event with
    | effect e => exact Nat.lt_succ_of_lt (ih h)
    | chunk made =>
      rw [pull] at h
      split at h
      · simp at h
      · cases h
        exact Nat.lt_succ_self _
    | fail fault => simp [pull] at h

/-- A consumer who wants no more chunks gets none. -/
theorem consume_of_exhausted {limit : Option Nat} (h : exhausted limit = true)
    (s : Surroundings τ) (context : Option String) (events : List (StreamEvent τ)) :
    consume s context limit events = ({}, []) := by
  cases events <;> simp [consume, h]

/-- Consuming a stream is taking one chunk after the other. -/
theorem consume_eq_pull {limit : Option Nat} (h : exhausted limit = false) (s : Surroundings τ)
    (context : Option String) (events : List (StreamEvent τ)) :
    consume s context limit events =
      match pull s context events with
      | (.done fault, effects) => ({ fault }, effects)
      | (.chunk next rest, effects) =>
        let later := consume (s.applyAll effects) context (limit.map (· - 1)) rest
        ({ later.1 with chunks := next :: later.1.chunks }, effects ++ later.2) := by
  induction events generalizing s with
  | nil => simp [consume, pull]
  | cons event rest ih =>
    cases event with
    | effect e =>
      simp only [consume, h, Bool.false_eq_true, ↓reduceIte, ih, pull]
      rcases pull (s.apply e) context rest with ⟨_ | _, effects⟩ <;> rfl
    | chunk made =>
      simp only [consume, h, Bool.false_eq_true, ↓reduceIte, pull]
      rcases s.check context none >>= fun _ => made with fault | next <;> rfl
    | fail fault => simp [consume, h, pull]

end StreamEvent

namespace Adapter

variable {τ : Type} [Time τ]

/-! ## Streams as their consumers hold them -/

/-- A call to the adapter: a stream, or a call for an embedding, which has ended at once. -/
inductive Flow (τ : Type) where
  /-- Nobody has asked for a chunk yet. -/
  | created (request : ServiceRequest) (context : Option String)
    (content : Value → Except Fault Value)
  | running (visit : Visit τ) (context : Option String) (events : List (StreamEvent τ))
  /-- The call has ended; one that never started did not use a client. -/
  | ended (visit : Option (Visit τ))

namespace Flow

/-- The use that the call makes of a client, and whether it has ended. -/
def entry : Flow τ → Option (Visit τ × Bool)
  | created _ _ _ => none
  | running visit _ _ => some (visit, false)
  | ended visit => visit.map fun visit => (visit, true)

/-- Goes on with a stream that has started. -/
def resume (adapter : Adapter τ) (s : Surroundings τ) (visit : Visit τ) (context : Option String)
    (events : List (StreamEvent τ)) :
    Answer (Adapter τ) τ (Flow τ × Option (Except Fault StreamChunk)) :=
  match StreamEvent.pull s context events with
  | (.chunk next rest, effects) => ⟨adapter, effects, .running visit context rest, some (.ok next)⟩
  | (.done fault, effects) =>
    ⟨adapter.finish visit.session, effects, .ended (some visit),
      fault.map fun fault => .error (streamFault visit.request fault)⟩

/-- Asks for the next chunk. The request is made when the first one is asked for. -/
def next (adapter : Adapter τ) (s : Surroundings τ) :
    Flow τ → Answer (Adapter τ) τ (Flow τ × Option (Except Fault StreamChunk))
  | created request context content =>
    let started := adapter.begin s context request
    resume started.2.2 s started.1 context (eventsOf context content started.2.1)
  | running visit context events => resume adapter s visit context events
  | ended visit => ⟨adapter, [], .ended visit, none⟩

/-- Closes the stream. -/
def close (adapter : Adapter τ) : Flow τ → Adapter τ × Flow τ
  | created _ _ _ => (adapter, .ended none)
  | running visit _ _ => (adapter.finish visit.session, .ended (some visit))
  | ended visit => (adapter, .ended visit)

end Flow

/-- What a consumer gets who asks for at most `limit` chunks and then closes the stream: the
delivery, the effects on the surroundings, and the adapter and the stream afterwards. -/
inductive Drained : Surroundings τ → Option Nat → Adapter τ → Flow τ →
    Delivery → List (Effect τ) → Adapter τ × Flow τ → Prop where
  | satisfied {s limit adapter flow} (enough : StreamEvent.exhausted limit = true) :
      Drained s limit adapter flow {} [] (flow.close adapter)
  | chunk {s limit adapter flow adapter' flow' effects next delivery later left}
      (more : StreamEvent.exhausted limit = false)
      (got : flow.next adapter s = ⟨adapter', effects, flow', some (.ok next)⟩)
      (rest : Drained (s.applyAll effects) (limit.map (· - 1)) adapter' flow' delivery later left) :
      Drained s limit adapter flow { delivery with chunks := next :: delivery.chunks }
        (effects ++ later) left
  | failed {s limit adapter flow adapter' flow' effects fault}
      (more : StreamEvent.exhausted limit = false)
      (got : flow.next adapter s = ⟨adapter', effects, flow', some (.error fault)⟩) :
      Drained s limit adapter flow { fault := some fault } effects (adapter', flow')
  | dry {s limit adapter flow adapter' flow' effects}
      (more : StreamEvent.exhausted limit = false)
      (got : flow.next adapter s = ⟨adapter', effects, flow', none⟩) :
      Drained s limit adapter flow {} effects (adapter', flow')

/-- A stream that was started delivers what consuming its events delivers, and has ended then. -/
theorem running_drained (adapter : Adapter τ) (s : Surroundings τ) (visit : Visit τ)
    (context : Option String) (limit : Option Nat) (events : List (StreamEvent τ)) :
    Drained s limit adapter (.running visit context events)
      { (StreamEvent.consume s context limit events).1 with
        fault := (StreamEvent.consume s context limit events).1.fault.map
          (streamFault visit.request) }
      (StreamEvent.consume s context limit events).2
      (adapter.finish visit.session, .ended (some visit)) := by
  induction hlength : events.length using Nat.strongRecOn
    generalizing s limit events with
  | ind n ih =>
    rcases hlimit : StreamEvent.exhausted limit with _ | _
    · rw [StreamEvent.consume_eq_pull hlimit]
      rcases hpull : StreamEvent.pull s context events with ⟨⟨next, rest⟩ | ⟨_ | fault⟩, effects⟩
      · have hrest := StreamEvent.length_rest_lt (congrArg Prod.fst hpull)
        have hnext : (Flow.running visit context events).next adapter s =
            ⟨adapter, effects, .running visit context rest, some (.ok next)⟩ := by
          simp [Flow.next, Flow.resume, hpull]
        exact .chunk hlimit hnext (ih rest.length (hlength ▸ hrest) _ _ rest rfl)
      · exact .dry hlimit (by simp [Flow.next, Flow.resume, hpull])
      · exact .failed hlimit (by simp [Flow.next, Flow.resume, hpull])
    · rw [StreamEvent.consume_of_exhausted hlimit]
      exact .satisfied hlimit

/-- A stream whose consumer wants a chunk starts, and then delivers as a stream that has started. -/
theorem created_drained {adapter : Adapter τ} {s : Surroundings τ} {context : Option String}
    {request : ServiceRequest} {content : Value → Except Fault Value} {limit : Option Nat}
    {delivery : Delivery} {effects : List (Effect τ)} {left : Adapter τ × Flow τ}
    (more : StreamEvent.exhausted limit = false)
    (h : Drained s limit (adapter.begin s context request).2.2
      (.running (adapter.begin s context request).1 context
        (eventsOf context content (adapter.begin s context request).2.1)) delivery effects left) :
    Drained s limit adapter (.created request context content) delivery effects left := by
  cases h with
  | satisfied enough => simp [more] at enough
  | chunk more got rest => exact .chunk more got rest
  | failed more got => exact .failed more got
  | dry more got => exact .dry more got

/-- The use that a call for a stream makes of a client: none, if its consumer wants no chunk. -/
def streamVisit (adapter : Adapter τ) (s : Surroundings τ) (context : Option String)
    (limit : Option Nat) (request : ServiceRequest) : Option (Visit τ) :=
  if StreamEvent.exhausted limit then none else some (adapter.begin s context request).1

/-- A call for a stream is what a consumer does who takes the chunks one after the other. -/
theorem stream_drained (adapter : Adapter τ) (s : Surroundings τ) (context : Option String)
    (limit : Option Nat) (request : ServiceRequest) (content : Value → Except Fault Value) :
    Drained s limit adapter (.created request context content)
      (adapter.stream s context limit request content).value
      (adapter.stream s context limit request content).effects
      ((adapter.stream s context limit request content).backend,
        .ended (adapter.streamVisit s context limit request)) := by
  rcases hlimit : StreamEvent.exhausted limit with _ | _
  · simp only [stream, streamVisit, hlimit, Bool.false_eq_true, ↓reduceIte]
    exact created_drained hlimit (running_drained _ _ _ _ _ _)
  · simp only [stream, streamVisit, hlimit, ↓reduceIte]
    exact .satisfied hlimit

/-! ## Traffic -/

/-- An adapter, and the calls that were made to it. -/
structure Traffic (τ : Type) where
  adapter : Adapter τ
  flows : List (Flow τ) := []

/-- The clients that the calls use. -/
def Traffic.ledger (t : Traffic τ) : Ledger τ :=
  fun i => t.flows[i]?.bind Flow.entry

/-- The use that a call for an embedding makes of a client: none, if its context says stop. -/
def embedVisit (adapter : Adapter τ) (s : Surroundings τ) (context : Option String)
    (model text : String) : Option (Visit τ) :=
  match s.check context none with
  | .error _ => none
  | .ok _ => some (adapter.begin s context (.embed model text)).1

/-- A call for an embedding whose context says stop leaves no trace. -/
theorem embed_of_error {s : Surroundings τ} {context : Option String} {fault : Fault}
    (h : s.check context none = .error fault) (adapter : Adapter τ) (model text : String) :
    adapter.embed s context model text = ⟨adapter, [], .error fault⟩ := by
  simp [embed, h]

/-- Any other call for an embedding starts and ends at once. -/
theorem backend_embed_of_ok {s : Surroundings τ} {context : Option String}
    (h : s.check context none = .ok ()) (adapter : Adapter τ) (model text : String) :
    (adapter.embed s context model text).backend =
      (adapter.begin s context (.embed model text)).2.2.finish
        (adapter.begin s context (.embed model text)).1.session := by
  simp [embed, h, begin]

/-- What can happen to an adapter. -/
inductive Step : Traffic τ → Traffic τ → Prop where
  /-- A stream is made. -/
  | opened (t : Traffic τ) (request : ServiceRequest) (context : Option String)
      (content : Value → Except Fault Value) :
      Step t ⟨t.adapter, t.flows ++ [.created request context content]⟩
  /-- The next chunk of a stream is asked for. -/
  | next (t : Traffic τ) (s : Surroundings τ) {i : Nat} {flow : Flow τ}
      (found : t.flows[i]? = some flow) :
      Step t ⟨(flow.next t.adapter s).backend, t.flows.set i (flow.next t.adapter s).value.1⟩
  /-- A stream is closed. -/
  | closed (t : Traffic τ) {i : Nat} {flow : Flow τ} (found : t.flows[i]? = some flow) :
      Step t ⟨(flow.close t.adapter).1, t.flows.set i (flow.close t.adapter).2⟩
  /-- An embedding is asked for. -/
  | embedded (t : Traffic τ) (s : Surroundings τ) (context : Option String)
      (model text : String) :
      Step t ⟨(t.adapter.embed s context model text).backend,
        t.flows ++ [.ended (t.adapter.embedVisit s context model text)]⟩

/-- What can happen to an adapter in any number of steps. -/
abbrev Reaches : Traffic τ → Traffic τ → Prop :=
  Relation.ReflTransGen Step

/-- What a consumer takes from a stream is taken step by step. -/
theorem Drained.reaches {s : Surroundings τ} {limit : Option Nat} {adapter : Adapter τ}
    {flow : Flow τ} {delivery : Delivery} {effects : List (Effect τ)} {left : Adapter τ × Flow τ}
    (h : Drained s limit adapter flow delivery effects left) {flows : List (Flow τ)} {i : Nat}
    (found : flows[i]? = some flow) :
    Reaches ⟨adapter, flows⟩ ⟨left.1, flows.set i left.2⟩ := by
  have hi : i < flows.length := (List.getElem?_eq_some_iff.mp found).1
  induction h generalizing flows with
  | satisfied enough => exact .single (.closed ⟨_, flows⟩ found)
  | @chunk s limit adapter flow adapter' flow' effects next delivery later left more got rest ih =>
    have hstep := Step.next ⟨adapter, flows⟩ s found
    rw [got] at hstep
    have hlater := ih (List.getElem?_set_self hi) (by simpa using hi)
    rw [List.set_set] at hlater
    exact .head hstep hlater
  | @failed s limit adapter flow adapter' flow' effects fault more got =>
    have hstep := Step.next ⟨adapter, flows⟩ s found
    rw [got] at hstep
    exact .single hstep
  | @dry s limit adapter flow adapter' flow' effects more got =>
    have hstep := Step.next ⟨adapter, flows⟩ s found
    rw [got] at hstep
    exact .single hstep

/-- A call for a stream that is answered at once adds an ended stream to the traffic. -/
theorem reaches_stream (t : Traffic τ) (s : Surroundings τ) (context : Option String)
    (limit : Option Nat) (request : ServiceRequest) (content : Value → Except Fault Value) :
    Reaches t ⟨(t.adapter.stream s context limit request content).backend,
      t.flows ++ [.ended (t.adapter.streamVisit s context limit request)]⟩ := by
  have hdrained := (stream_drained t.adapter s context limit request content).reaches
    (List.getElem?_concat_length (l := t.flows))
  rw [List.set_append_right _ _ (Nat.le_refl _), Nat.sub_self] at hdrained
  exact .head (.opened t request context content) hdrained

/-! ## The balance of all clients -/

omit [Time τ] in
/-- A call that is added to the traffic is entered at its end. -/
theorem ledger_concat (adapter adapter' : Adapter τ) (flows : List (Flow τ)) (flow : Flow τ) :
    Traffic.ledger ⟨adapter', flows ++ [flow]⟩ =
      Function.update (Traffic.ledger ⟨adapter, flows⟩) flows.length flow.entry := by
  funext i
  simp only [Traffic.ledger, Function.update_apply]
  rcases Nat.lt_trichotomy i flows.length with hlt | rfl | hgt
  · rw [List.getElem?_append_left hlt, if_neg (Nat.ne_of_lt hlt)]
  · simp
  · rw [List.getElem?_eq_none (by simp; omega), List.getElem?_eq_none (Nat.le_of_lt hgt),
      if_neg (Nat.ne_of_gt hgt)]

omit [Time τ] in
/-- A call that goes on is entered at its place. -/
theorem ledger_set (adapter adapter' : Adapter τ) {flows : List (Flow τ)} {i : Nat}
    (hi : i < flows.length) (flow : Flow τ) :
    Traffic.ledger ⟨adapter', flows.set i flow⟩ =
      Function.update (Traffic.ledger ⟨adapter, flows⟩) i flow.entry := by
  funext j
  simp only [Traffic.ledger, Function.update_apply]
  by_cases hj : j = i
  · subst hj
    rw [List.getElem?_set_self hi, if_pos rfl]
    rfl
  · rw [List.getElem?_set_ne (Ne.symm hj), if_neg hj]

namespace Balanced

variable {adapter : Adapter τ} {ledger : Ledger τ} {i : Nat}

/-- A stream that has started and goes on keeps the balance. -/
theorem resume (h : Balanced adapter ledger) {visit : Visit τ}
    (hi : ledger i = some (visit, false)) (s : Surroundings τ) (context : Option String)
    (events : List (StreamEvent τ)) :
    Balanced (Flow.resume adapter s visit context events).backend
      (Function.update ledger i (Flow.resume adapter s visit context events).value.1.entry) := by
  unfold Flow.resume
  rcases StreamEvent.pull s context events with ⟨⟨next, rest⟩ | fault, effects⟩
  · simpa only [Flow.entry, ← hi, Function.update_eq_self] using h
  · exact h.finish hi

/-- Asking a stream for a chunk keeps the balance. -/
theorem next (h : Balanced adapter ledger) {flow : Flow τ} (hi : ledger i = flow.entry)
    (s : Surroundings τ) :
    Balanced (flow.next adapter s).backend
      (Function.update ledger i (flow.next adapter s).value.1.entry) := by
  cases flow with
  | created request context content =>
    have hbegun := (h.begin hi s context request).resume (Function.update_self ..) s context
      (eventsOf context content (adapter.begin s context request).2.1)
    rwa [Function.update_idem] at hbegun
  | running visit context events => exact h.resume hi s context events
  | ended visit => simpa only [Flow.next, ← hi, Function.update_eq_self] using h

/-- Closing a stream keeps the balance. -/
theorem close (h : Balanced adapter ledger) {flow : Flow τ} (hi : ledger i = flow.entry) :
    Balanced (flow.close adapter).1 (Function.update ledger i (flow.close adapter).2.entry) := by
  cases flow with
  | created request context content =>
    have hnone : ledger i = Flow.entry (.ended (τ := τ) none) := hi
    simpa only [Flow.close, ← hnone, Function.update_eq_self] using h
  | running visit context events => exact h.finish hi
  | ended visit => simpa only [Flow.close, ← hi, Function.update_eq_self] using h

/-- A call for an embedding keeps the balance. -/
theorem embed (h : Balanced adapter ledger) (vacant : ledger i = none) (s : Surroundings τ)
    (context : Option String) (model text : String) :
    Balanced (adapter.embed s context model text).backend
      (Function.update ledger i
        (Flow.ended (adapter.embedVisit s context model text)).entry) := by
  rcases hcheck : s.check context none with fault | _
  · have hnone : ledger i = (Flow.ended (adapter.embedVisit s context model text)).entry := by
      simp [vacant, embedVisit, hcheck, Flow.entry]
    rw [embed_of_error hcheck, ← hnone, Function.update_eq_self]
    exact h
  · rw [backend_embed_of_ok hcheck]
    simp only [embedVisit, hcheck]
    have hended := (h.begin vacant s context (.embed model text)).finish (Function.update_self ..)
    rwa [Function.update_idem] at hended

end Balanced

/-- What can happen to an adapter keeps the balance. -/
theorem Step.balanced {t t' : Traffic τ} (h : Step t t') (ht : Balanced t.adapter t.ledger) :
    Balanced t'.adapter t'.ledger := by
  have vacant : t.ledger t.flows.length = none := by simp [Traffic.ledger]
  cases h with
  | opened request context content =>
    have hnone : t.ledger t.flows.length = (Flow.created request context content).entry := vacant
    rw [ledger_concat t.adapter, ← hnone, Function.update_eq_self]
    exact ht
  | @next s i flow found =>
    rw [ledger_set t.adapter _ (List.getElem?_eq_some_iff.mp found).1]
    exact ht.next (by simp [Traffic.ledger, found]) s
  | @closed i flow found =>
    rw [ledger_set t.adapter _ (List.getElem?_eq_some_iff.mp found).1]
    exact ht.close (by simp [Traffic.ledger, found])
  | embedded s context model text =>
    rw [ledger_concat t.adapter]
    exact ht.embed vacant s context model text

/-! ## The timeout of the adapter -/

/-- A call that starts leaves the timeout of the adapter. -/
theorem timeout_begin (adapter : Adapter τ) (s : Surroundings τ) (context : Option String)
    (request : ServiceRequest) :
    (adapter.begin s context request).2.2.timeout = adapter.timeout := by
  obtain ⟨clients, shared, hbegun⟩ := begin_frame adapter s context request
  rw [hbegun]

omit [Time τ] in
/-- A call that ends leaves the timeout of the adapter. -/
@[simp]
theorem timeout_finish (adapter : Adapter τ) (session : ServiceSession) :
    (adapter.finish session).timeout = adapter.timeout := by
  obtain ⟨clients, hfinished⟩ := finish_frame adapter session
  rw [hfinished]

/-- A stream that goes on leaves the timeout of the adapter. -/
theorem timeout_resume (adapter : Adapter τ) (s : Surroundings τ) (visit : Visit τ)
    (context : Option String) (events : List (StreamEvent τ)) :
    (Flow.resume adapter s visit context events).backend.timeout = adapter.timeout := by
  unfold Flow.resume
  rcases StreamEvent.pull s context events with ⟨⟨next, rest⟩ | fault, effects⟩
  · rfl
  · exact timeout_finish _ _

/-- What can happen to an adapter leaves its timeout. -/
theorem Step.timeout {t t' : Traffic τ} (h : Step t t') :
    t'.adapter.timeout = t.adapter.timeout := by
  cases h with
  | opened => rfl
  | @next s i flow found =>
    cases flow with
    | created request context content =>
      exact (timeout_resume _ _ _ _ _).trans (timeout_begin _ _ _ _)
    | running visit context events => exact timeout_resume _ _ _ _ _
    | ended visit => rfl
  | @closed i flow found => cases flow <;> simp [Flow.close]
  | embedded s context model text =>
    rcases hcheck : s.check context none with fault | _
    · rw [embed_of_error hcheck]
    · rw [backend_embed_of_ok hcheck, timeout_finish, timeout_begin]

/-- Whatever happens to an adapter, its clients are accounted for, and it keeps its timeout. -/
theorem Reaches.balanced {t t' : Traffic τ} (h : Reaches t t')
    (ht : Balanced t.adapter t.ledger) :
    Balanced t'.adapter t'.ledger ∧ t'.adapter.timeout = t.adapter.timeout := by
  induction h with
  | refl => exact ⟨ht, rfl⟩
  | tail _ hstep ih => exact ⟨hstep.balanced ih.1, hstep.timeout.trans ih.2⟩

/-- Every client of an adapter is accounted for by the calls that were made to it, however their
streams are consumed. A call for a stream is answered as if its consumer took the chunks one after
the other. A stream that is never started and a call for an embedding whose context says stop leave
the adapter as it is. -/
theorem clients_accounted {host : Value} {timeout : τ}
    {service : List ServiceRequest → ServiceRequest → ServiceReply τ} {t : Traffic τ}
    (h : Reaches ⟨{ host, timeout, service }, []⟩ t) :
    (Balanced t.adapter t.ledger ∧ t.adapter.timeout = timeout) ∧
      (∀ s context limit request content,
        let answer := t.adapter.stream s context limit request content
        let flow := Flow.ended (t.adapter.streamVisit s context limit request)
        Drained s limit t.adapter (.created request context content) answer.value answer.effects
            (answer.backend, flow) ∧
          Reaches ⟨{ host, timeout, service }, []⟩ ⟨answer.backend, t.flows ++ [flow]⟩) ∧
      (∀ s context request content,
        t.adapter.stream s context (some 0) request content = ⟨t.adapter, [], {}⟩) ∧
      ∀ s context model text fault, s.check context none = .error fault →
        t.adapter.embed s context model text = ⟨t.adapter, [], .error fault⟩ := by
  have hfresh : Balanced ({ host, timeout, service } : Adapter τ)
      (Traffic.ledger ⟨{ host, timeout, service }, []⟩) := .fresh rfl rfl
  refine ⟨h.balanced hfresh, ?_, ?_, ?_⟩
  · intro s context limit request content
    exact ⟨stream_drained _ _ _ _ _ _, h.trans (reaches_stream _ _ _ _ _ _)⟩
  · intro s context request content
    simp [stream, StreamEvent.exhausted]
  · intro s context model text fault hcheck
    exact embed_of_error hcheck _ _ _

/-- An adapter with a timeout of five minutes, to a service whose replies are empty. -/
def quietAdapter : Adapter Rat where
  timeout := 300
  service _ _ := {}

/-- A call with two seconds left has a client of its own, which is closed when its stream ends; the
call after it has all the time it likes, and makes the shared client. -/
theorem clients_accounted_quietAdapter :
    let s : Surroundings Rat := ⟨⟨0, 0⟩, [("brief", { deadline := some 2 })]⟩
    let request := ServiceRequest.generate "model" "prompt" none
    let first := quietAdapter.stream s (some "brief") none request promptContent
    let second := first.backend.stream s none none request promptContent
    let t : Traffic Rat := ⟨second.backend,
      [.ended (quietAdapter.streamVisit s (some "brief") none request),
        .ended (first.backend.streamVisit s none none request)]⟩
    Reaches ⟨quietAdapter, []⟩ t ∧ Balanced t.adapter t.ledger ∧
      t.adapter.clients.map (fun client => (client.timeout, client.closed)) =
        [(2, 1), (300, 0)] := by
  intro s request first second t
  have hfirst := reaches_stream ⟨quietAdapter, []⟩ s (some "brief") none request promptContent
  have hreach : Reaches ⟨quietAdapter, []⟩ t :=
    hfirst.trans (reaches_stream _ s none none request promptContent)
  refine ⟨hreach, (clients_accounted hreach).1.1, ?_⟩
  decide +kernel

end Adapter

end Orchestration
