import Orchestration.Proofs.Impartial
import Orchestration.Proofs.Inference.Containment

/-!
# The parts of a reply

A part of a streamed reply has a text, says whether the reply is done, and counts tokens. The parts
of a reply to a prompt hold the text in an entry of their own, those of a reply to a chat in a
message (`PromptCarries`, `ChatCarries`). In both the text may be missing, or null. A reply to a
chat is read as if the text was empty then; a reply to a prompt is only if it is missing, and a null
text has no chunk (`promptContent_of_carries`, `chatContent_of_carries`).

What a call delivers then depends on nothing but the parts and the context, which may be stopped
between any two of them (`value_stream`).
-/

namespace Orchestration

/-! ## Texts -/

/-- The text of a part: it is given, or null, or missing. -/
inductive PartText where
  | missing
  | null
  | given (text : String)

namespace PartText

/-- The entry that holds the text. -/
def entry? : PartText → Option Value
  | missing => none
  | null => some .null
  | given text => some (.text text)

theorem eq_null_of_entry? {text : PartText} (h : text.entry? = some .null) : text = .null := by
  cases text with
  | null => rfl
  | missing => cases h
  | given text => cases h

/-- The text as far as there is one. -/
def shown : PartText → String
  | missing | null => ""
  | given text => text

end PartText

/-- A part of a reply to a prompt holds its text in an entry. -/
def PromptCarries (entries : List (Key × Value)) (text : PartText) : Prop :=
  Value.entry? entries "response" = text.entry?

/-- A part of a reply to a chat holds its text in a message. If the text is missing, there may be no
message. -/
inductive ChatCarries (entries : List (Key × Value)) : PartText → Prop
  | message {message : List (Key × Value)} {text : PartText}
    (found : Value.entry? entries "message" = some (.map message))
    (holds : Value.entry? message "content" = text.entry?) : ChatCarries entries text
  | silent (absent : ((Value.entry? entries "message").getD .null).truthy = false) :
    ChatCarries entries .missing

namespace Adapter

section Texts

variable {entries : List (Key × Value)} {text : PartText}

theorem promptContent_of_carries (h : PromptCarries entries text) :
    promptContent (.map entries) = .ok (text.entry?.getD (.text "")) :=
  congrArg (fun found : Option Value => Except.ok (found.getD (.text ""))) h

theorem chatContent_of_carries (h : ChatCarries entries text) :
    chatContent (.map entries) = .ok (.text text.shown) := by
  have hshown : orElse (text.entry?.getD .null) (.text "") = .text text.shown := by
    cases text with
    | missing => rfl
    | null => rfl
    | given text =>
      show (if (decide (text ≠ "")) = true then Value.text text else .text "") = .text text
      by_cases hempty : text = "" <;> simp [hempty]
  cases h with
  | @message message _ found holds =>
    have hentry : entry (orElse ((Value.entry? entries "message").getD .null) (.map [])) "content" =
        .ok (text.entry?.getD .null) := by
      rw [found, ← holds]
      cases message <;> rfl
    show (entry _ "content" >>= fun content => Except.ok (orElse content (.text ""))) = _
    rw [hentry]
    exact congrArg Except.ok hshown
  | silent absent =>
    show (entry (orElse _ (.map [])) "content" >>=
      fun content => Except.ok (orElse content (.text ""))) = _
    rw [orElse, absent]
    rfl

end Texts

/-! ## Chunks -/

/-- A part that is marked as done. -/
def isDone (entries : List (Key × Value)) : Bool :=
  ((Value.entry? entries "done").getD (.bool false)).truthy

/-- A count of tokens as a part has it: only a part that is marked as done has any. -/
def countOf (entries : List (Key × Value)) (name : String) : Checked (Option Int) :=
  Schema.nullable Schema.int
    (if isDone entries then (Value.entry? entries name).getD .null else .null)

/-- The chunk for a part with the given text. -/
def chunkWith (entries : List (Key × Value)) (content : Checked String) : Checked StreamChunk :=
  StreamChunk.mk <$> content.within (.field "content") <*> .ok (isDone entries)
    <*> (countOf entries "prompt_eval_count").within (.field "input_tokens")
    <*> (countOf entries "eval_count").within (.field "output_tokens")

theorem chunkOf_map {content : Value → Except Fault Value} {entries : List (Key × Value)}
    {text : Value} (h : content (.map entries) = .ok text) :
    chunkOf content (.map entries) =
      (chunkWith entries (Schema.text text)).orFault "StreamChunk" := by
  have hcount : ∀ name, (if isDone entries then entry (.map entries) name else .ok .null) =
      Except.ok (if isDone entries then (Value.entry? entries name).getD .null else .null) := by
    intro name
    cases isDone entries <;> rfl
  unfold chunkOf
  rw [h]
  -- The steps as binds, so that the counts can be rewritten.
  show ((if isDone entries then entry (.map entries) "prompt_eval_count" else .ok .null) >>=
    fun input => (if isDone entries then entry (.map entries) "eval_count" else .ok .null) >>=
      fun output => (StreamChunk.read (.record [("content", text), ("done", .bool (isDone entries)),
        ("input_tokens", input), ("output_tokens", output)])).orFault "StreamChunk") = _
  rw [hcount, hcount]
  rfl

/-- A part whose text and counts can be read has a chunk. -/
theorem chunkWith_ok {entries : List (Key × Value)} {input output : Option Int}
    (hinput : countOf entries "prompt_eval_count" = .ok input)
    (houtput : countOf entries "eval_count" = .ok output) (text : String) :
    chunkWith entries (.ok text) = .ok ⟨text, isDone entries, input, output⟩ := by
  rw [chunkWith, hinput, houtput]
  rfl

/-- A number that may be absent has one defect at most. -/
theorem nullable_int_cases (v : Value) :
    (∃ n, Schema.nullable Schema.int v = .ok n) ∨
      ∃ d, Schema.nullable Schema.int v = .defect d := by
  have hoption : ∀ (d : Defect) (found : Option Int),
      (∃ n, Checked.ofOption d found = .ok n) ∨ ∃ d', Checked.ofOption d found = .defect d' := by
    intro d found
    cases found with
    | none => exact .inr ⟨d, rfl⟩
    | some n => exact .inl ⟨n, rfl⟩
  -- Reading an integer ends in one of the two ways, whatever it is read from.
  have hint : (∃ n, Schema.int v = .ok n) ∨ ∃ d, Schema.int v = .defect d := by
    unfold Schema.int
    split
    · exact .inl ⟨_, rfl⟩
    · exact .inl ⟨_, rfl⟩
    · split
      · exact .inr ⟨_, rfl⟩
      · exact hoption _ _
    · split
      · split
        · exact .inr ⟨_, rfl⟩
        · exact hoption _ _
      · exact .inr ⟨_, rfl⟩
  have hsome : Schema.nullable Schema.int v = .ok none ∨
      Schema.nullable Schema.int v = some <$> Schema.int v := by
    cases v with
    | null => exact .inl rfl
    | _ => exact .inr rfl
  rcases hsome with hnone | hsome
  · exact .inl ⟨none, hnone⟩
  · rw [hsome]
    rcases hint with ⟨n, hn⟩ | ⟨d, hd⟩
    · exact .inl ⟨some n, by rw [hn]; rfl⟩
    · exact .inr ⟨d, by rw [hd]; rfl⟩

end Adapter

/-! ## What is delivered -/

section Streams

variable {τ : Type}

/-- What happens to the surroundings with a part. -/
def ServicePart.effects (context : Option String) : ServicePart τ → List (Effect τ)
  | .pass seconds => [.pass seconds]
  | .cancel => (context.map Effect.cancel).toList
  | .fail _ | .data _ => []

/-- What arrives of a reply: its parts, or the fault with which the request has failed. -/
def ServiceReply.received (reply : ServiceReply τ) : List (ServicePart τ) :=
  match reply.failure with
  | some fault => [.fail fault]
  | none => reply.parts

variable [Time τ]

/-- The surroundings when the service replies. -/
def ServiceReply.arrival (reply : ServiceReply τ) (s : Surroundings τ) : Surroundings τ :=
  s.applyAll (reply.delay.map Effect.pass).toList

namespace StreamEvent

variable (s : Surroundings τ) {context : Option String} {limit : Option Nat}

/-- What happens to the surroundings is there when the stream goes on. -/
theorem delivery_effects (effects : List (Effect τ)) (events : List (StreamEvent τ)) :
    (consume s context limit (effects.map .effect ++ events)).1 =
      (consume (s.applyAll effects) context limit events).1 := by
  cases hlimit : exhausted limit with
  | true => rw [consume_of_exhausted hlimit, consume_of_exhausted hlimit]
  | false =>
    induction effects generalizing s with
    | nil => rfl
    | cons effect rest ih =>
      rw [List.map_cons, List.cons_append, consume, hlimit, if_neg Bool.false_ne_true]
      exact ih (s.apply effect)

/-- A stream that has failed delivers nothing else. -/
theorem delivery_fail (hmore : exhausted limit = false) (fault : Fault)
    (events : List (StreamEvent τ)) :
    (consume s context limit (.fail fault :: events)).1 = ⟨[], some fault⟩ := by
  rw [consume, hmore, if_neg Bool.false_ne_true]

variable {s}

/-- While the context is open, a chunk is delivered if it can be made. -/
theorem delivery_chunk (hopen : s.Open context) (hmore : exhausted limit = false)
    (made : Except Fault StreamChunk) (events : List (StreamEvent τ)) :
    (consume s context limit (.chunk made :: events)).1 =
      match made with
      | .error fault => ⟨[], some fault⟩
      | .ok next =>
        let later := (consume s context (limit.map (· - 1)) events).1
        { later with chunks := next :: later.chunks } := by
  rw [consume, hmore, if_neg Bool.false_ne_true, hopen.check]
  cases made <;> rfl

/-- When the context is not open, no chunk is even made. -/
theorem delivery_chunk_of_not_open (hstopped : ¬ s.Open context)
    (made made' : Except Fault StreamChunk) (events events' : List (StreamEvent τ)) :
    (consume s context limit (.chunk made :: events)).1 =
      (consume s context limit (.chunk made' :: events')).1 := by
  cases hcheck : s.check context none with
  | ok _ => exact absurd (Surroundings.open_of_check hcheck) hstopped
  | error fault =>
    rw [consume, consume, hcheck]
    cases exhausted limit <;> rfl

end StreamEvent

namespace Adapter

variable (content content' : Value → Except Fault Value) (s : Surroundings τ)
  (context : Option String) (limit : Option Nat) (rest rest' : List (ServicePart τ))

/-- What a consumer gets of the parts of a reply. -/
def deliveryOf (parts : List (ServicePart τ)) : Delivery :=
  (StreamEvent.consume s context limit (parts.flatMap (eventOf context content))).1

theorem deliveryOf_pass (seconds : τ) :
    deliveryOf content s context limit (.pass seconds :: rest) =
      deliveryOf content (s.applyAll ((ServicePart.pass seconds).effects context)) context limit
        rest :=
  StreamEvent.delivery_effects s ((ServicePart.pass seconds).effects context) _

theorem deliveryOf_cancel :
    deliveryOf content s context limit (.cancel :: rest) =
      deliveryOf content (s.applyAll (ServicePart.cancel.effects context)) context limit rest := by
  have hevents : eventOf context content (.cancel : ServicePart τ) =
      (ServicePart.cancel.effects context).map .effect := by
    cases context <;> rfl
  rw [deliveryOf, List.flatMap_cons, hevents, StreamEvent.delivery_effects]
  rfl

variable {limit}

/-- A consumer who wants no more chunks gets nothing of the parts. -/
theorem deliveryOf_of_exhausted (h : StreamEvent.exhausted limit = true)
    (parts : List (ServicePart τ)) : deliveryOf content s context limit parts = {} := by
  rw [deliveryOf, StreamEvent.consume_of_exhausted h]

/-- After a fault nothing else arrives. -/
theorem deliveryOf_fail (hmore : StreamEvent.exhausted limit = false) (fault : Fault) :
    deliveryOf content s context limit (.fail fault :: rest) = ⟨[], some fault⟩ :=
  StreamEvent.delivery_fail s hmore fault _

variable {s context}

/-- While the context is open, a part with data is delivered if it can be made into a chunk. -/
theorem deliveryOf_data (hmore : StreamEvent.exhausted limit = false) (hopen : s.Open context)
    (part : Value) :
    deliveryOf content s context limit (.data part :: rest) =
      match chunkOf content part with
      | .error fault => ⟨[], some fault⟩
      | .ok next =>
        let later := deliveryOf content s context (limit.map (· - 1)) rest
        { later with chunks := next :: later.chunks } :=
  StreamEvent.delivery_chunk hopen hmore _ _

/-- When the context is not open, it does not matter what a part holds. -/
theorem deliveryOf_data_of_not_open (hstopped : ¬ s.Open context) (part part' : Value) :
    deliveryOf content s context limit (.data part :: rest) =
      deliveryOf content' s context limit (.data part' :: rest') :=
  StreamEvent.delivery_chunk_of_not_open hstopped _ _ _ _

variable (s context limit) in
/-- A reply is consumed when it has arrived. -/
theorem delivery_eventsOf (reply : ServiceReply τ) :
    (StreamEvent.consume s context limit (eventsOf context content reply)).1 =
      deliveryOf content (reply.arrival s) context limit reply.received := by
  have hevents : eventsOf context content reply =
      (reply.delay.map Effect.pass).toList.map .effect ++
        reply.received.flatMap (eventOf context content) := by
    unfold eventsOf ServiceReply.received
    cases reply.delay <;> cases reply.failure <;> simp [eventOf]
  rw [hevents, StreamEvent.delivery_effects]
  rfl

/-- A delivery as the caller of the adapter gets it. -/
def reported (request : ServiceRequest) (delivery : Delivery) : Delivery :=
  { delivery with fault := delivery.fault.map (streamFault request) }

/-- **What a call for a stream delivers.** It is what arrives of the reply of the service, part by
part; a fault is told as one of inference, unless the call was cancelled. -/
theorem value_stream (adapter : Adapter τ) (s : Surroundings τ) (context : Option String)
    (limit : Option Nat) (request : ServiceRequest) :
    (adapter.stream s context limit request content).value =
      let reply := adapter.service adapter.requests request
      reported request (deliveryOf content (reply.arrival s) context limit reply.received) := by
  unfold stream
  cases hlimit : StreamEvent.exhausted limit with
  | true =>
    dsimp only
    rw [if_pos rfl, deliveryOf_of_exhausted _ _ _ hlimit]
    rfl
  | false =>
    dsimp only
    rw [← delivery_eventsOf, ← (service_begin adapter s context request).1]
    rfl

end Adapter

end Streams

end Orchestration
