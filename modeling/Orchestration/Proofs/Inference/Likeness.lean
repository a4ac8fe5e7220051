import Mathlib.Data.List.Forall2
import Orchestration.Proofs.Inference.Parts

/-!
# Prompts and chats

A reply to a prompt and a reply to a chat may be the same but for the place of the texts
(`TwinReplies`). The two calls should then deliver the same chunks and end alike, wherever a fault,
a cancellation or a deadline comes in between, and however few chunks the consumer takes. They do,
unless a null text arrives. A chat takes it for an empty one; a prompt fails there.

The main statement is `alike_iff`.
-/

namespace Orchestration

/-- The text of a schema fault says how many issues there are. -/
theorem Fault.length_eq_of_message_eq {subject : String} {issues issues' : List Issue}
    (h : (Fault.schema subject issues).message = (Fault.schema subject issues').message) :
    issues.length = issues'.length := by
  -- The number is what stands before the first space.
  have hnumber : ∀ issues : List Issue,
      (Fault.schema subject issues).message.toList.takeWhile Char.isDigit =
        Decimal.naturalDigits issues.length := by
    intro issues
    have hdigits : ∀ c ∈ Decimal.naturalDigits issues.length, c.isDigit = true := by
      intro c hc
      rw [Decimal.naturalDigits] at hc
      exact Nat.isDigit_of_mem_toDigits (by decide) (by decide) hc
    have hspace : " validation error".toList = ' ' :: "validation error".toList := by decide
    unfold Fault.message
    simp only [Decimal.integerText_natCast, String.append_assoc, String.toList_append,
      String.toList_ofList]
    rw [List.takeWhile_append_of_pos hdigits, hspace, List.cons_append,
      List.takeWhile_cons_of_neg (by decide), List.append_nil]
  apply Decimal.integerText_natCast_inj
  rw [Decimal.integerText_natCast, Decimal.integerText_natCast, ← hnumber, ← hnumber, h]

namespace Adapter

variable {τ : Type}

/-! ## Replies that say the same -/

/-- A part of a reply to a prompt, and a part of a reply to a chat that says the same. -/
inductive Twins : ServicePart τ → ServicePart τ → Prop
  | pass (seconds : τ) : Twins (.pass seconds) (.pass seconds)
  | cancel : Twins .cancel .cancel
  | fail (fault : Fault) : Twins (.fail fault) (.fail fault)
  | data {entries entries' : List (Key × Value)} {text : PartText}
    (prompt : PromptCarries entries text) (chat : ChatCarries entries' text)
    (same : ∀ name ∈ ["done", "prompt_eval_count", "eval_count"],
      Value.entry? entries' name = Value.entry? entries name) :
    Twins (.data (.map entries)) (.data (.map entries'))

/-- A reply to a prompt, and a reply to a chat that says the same. -/
structure TwinReplies (prompt chat : ServiceReply τ) : Prop where
  delay : chat.delay = prompt.delay
  failure : chat.failure = prompt.failure
  parts : List.Forall₂ Twins prompt.parts chat.parts

/-! ## Deliveries that are alike -/

/-- A failure of the service, as the caller of an operation is told. -/
def told (operation model text : String) : Fault :=
  .execution .inference ("ollama " ++ operation ++ " failed for model " ++ Text.quoted model ++
    ": " ++ text) none

/-- A prompt and a chat end alike: both of their own, both with the same cancellation, or both with
a failure that is told in the same words but for the name of the operation. -/
inductive EndsAlike (model : String) : Option Fault → Option Fault → Prop
  | finished : EndsAlike model none none
  | cancelled {fault : Fault} (cancellation : fault.isCancellation = true) :
    EndsAlike model (some fault) (some fault)
  | failed (text : String) :
    EndsAlike model (some (told "generate" model text)) (some (told "chat" model text))

/-- A prompt and a chat have delivered the same chunks and have ended alike. -/
structure Alike (model : String) (prompt chat : Delivery) : Prop where
  chunks : chat.chunks = prompt.chunks
  ends : EndsAlike model prompt.fault chat.fault

section

variable [Time τ]

/-- A part with a null text arrives while its consumer wants a chunk and the context is open; all
parts before it were made into chunks. -/
inductive NullArrives (context : Option String) :
    Surroundings τ → Option Nat → List (ServicePart τ) → Prop
  | here {s limit entries rest} (more : StreamEvent.exhausted limit = false)
    (isOpen : s.Open context) (null : PromptCarries entries .null) :
    NullArrives context s limit (.data (.map entries) :: rest)
  | pass {s limit rest} (seconds : τ)
    (later : NullArrives context (s.applyAll ((ServicePart.pass seconds).effects context)) limit
      rest) :
    NullArrives context s limit (.pass seconds :: rest)
  | cancel {s limit rest}
    (later : NullArrives context (s.applyAll (ServicePart.cancel.effects context)) limit rest) :
    NullArrives context s limit (.cancel :: rest)
  | data {s limit part chunk rest} (more : StreamEvent.exhausted limit = false)
    (isOpen : s.Open context) (made : chunkOf promptContent part = .ok chunk)
    (later : NullArrives context s (limit.map (· - 1)) rest) :
    NullArrives context s limit (.data part :: rest)

/-- A null text arrives only if the consumer wants a chunk. -/
theorem NullArrives.more {context : Option String} {s : Surroundings τ} {limit : Option Nat}
    {parts : List (ServicePart τ)} (h : NullArrives context s limit parts) :
    StreamEvent.exhausted limit = false := by
  induction h with
  | here more => exact more
  | pass seconds later ih => exact ih
  | cancel later ih => exact ih
  | data more => exact more

end

/-! ## The chunks of twins -/

section Chunks

variable {entries entries' : List (Key × Value)} {text : PartText}

/-- What a chunk has besides its text is in the three other entries. -/
theorem chunkWith_congr
    (same : ∀ name ∈ ["done", "prompt_eval_count", "eval_count"],
      Value.entry? entries' name = Value.entry? entries name) (content : Checked String) :
    chunkWith entries' content = chunkWith entries content := by
  simp only [List.forall_mem_cons] at same
  obtain ⟨hdone, hinput, houtput, -⟩ := same
  have hisDone : isDone entries' = isDone entries := by rw [isDone, hdone, isDone]
  rw [chunkWith, chunkWith, hisDone, countOf, countOf, countOf, countOf, hisDone, hinput, houtput]

/-- Twins whose text is not null have the same chunk, or fail in the same way. -/
theorem chunkOf_twins (prompt : PromptCarries entries text) (chat : ChatCarries entries' text)
    (same : ∀ name ∈ ["done", "prompt_eval_count", "eval_count"],
      Value.entry? entries' name = Value.entry? entries name) (hnull : text ≠ .null) :
    chunkOf chatContent (.map entries') = chunkOf promptContent (.map entries) := by
  rw [chunkOf_map (promptContent_of_carries prompt), chunkOf_map (chatContent_of_carries chat),
    chunkWith_congr same]
  cases text with
  | null => exact absurd rfl hnull
  | missing => rfl
  | given text => rfl

/-- A text that cannot be read is an issue more than the counts have. -/
theorem chunkWith_defect (entries : List (Key × Value)) (d : Defect) (text : String) :
    ∃ issues, chunkWith entries (.defect d) = .failed (⟨[.field "content"], d⟩ :: issues) ∧
      (chunkWith entries (.ok text) = .failed issues ∨
        ∃ chunk, chunkWith entries (.ok text) = .ok chunk) := by
  have hinput : (∃ n, countOf entries "prompt_eval_count" = .ok n) ∨
      ∃ d, countOf entries "prompt_eval_count" = .defect d := nullable_int_cases _
  have houtput : (∃ n, countOf entries "eval_count" = .ok n) ∨
      ∃ d, countOf entries "eval_count" = .defect d := nullable_int_cases _
  unfold chunkWith
  rcases hinput with ⟨input, hinput⟩ | ⟨d₁, hinput⟩ <;>
    rcases houtput with ⟨output, houtput⟩ | ⟨d₂, houtput⟩ <;> rw [hinput, houtput]
  · exact ⟨[], rfl, .inr ⟨_, rfl⟩⟩
  · exact ⟨[⟨[.field "output_tokens"], d₂⟩], rfl, .inl rfl⟩
  · exact ⟨[⟨[.field "input_tokens"], d₁⟩], rfl, .inl rfl⟩
  · exact ⟨[⟨[.field "input_tokens"], d₁⟩, ⟨[.field "output_tokens"], d₂⟩], rfl, .inl rfl⟩

/-- Twins whose text is null: the prompt has no chunk, and the chat has one, or fails with another
number of issues. -/
theorem chunkOf_twins_null (prompt : PromptCarries entries .null)
    (chat : ChatCarries entries' .null)
    (same : ∀ name ∈ ["done", "prompt_eval_count", "eval_count"],
      Value.entry? entries' name = Value.entry? entries name) :
    ∃ issues, chunkOf promptContent (.map entries) = .error (.schema "StreamChunk" issues) ∧
      ((∃ issues', chunkOf chatContent (.map entries') = .error (.schema "StreamChunk" issues') ∧
          issues'.length ≠ issues.length) ∨
        ∃ chunk, chunkOf chatContent (.map entries') = .ok chunk) := by
  rw [chunkOf_map (promptContent_of_carries prompt), chunkOf_map (chatContent_of_carries chat),
    chunkWith_congr same]
  obtain ⟨issues, hdefect, hok⟩ := chunkWith_defect entries .stringType ""
  refine ⟨⟨[.field "content"], .stringType⟩ :: issues, congrArg (Checked.orFault _) hdefect,
    hok.imp (fun hfailed => ?_) fun ⟨chunk, hchunk⟩ => ?_⟩
  · refine ⟨issues, congrArg (Checked.orFault _) hfailed, ?_⟩
    rw [List.length_cons]
    exact Nat.ne_of_lt (Nat.lt_succ_self _)
  · exact ⟨chunk, congrArg (Checked.orFault _) hchunk⟩

end Chunks

/-! ## What twins deliver -/

section Deliveries

/-- The first delivery has failed at a chunk that could not be made. The second one has the same
chunks up to there, and then another chunk or another failure. -/
structure Broken (prompt chat : Delivery) : Prop where
  chunks : prompt.chunks <+: chat.chunks
  fault : ∃ issues, prompt.fault = some (.schema "StreamChunk" issues) ∧
    (chat.chunks = prompt.chunks → ∃ issues', chat.fault = some (.schema "StreamChunk" issues') ∧
      issues'.length ≠ issues.length)

/-- What is delivered before does not matter. -/
theorem Broken.cons {prompt chat : Delivery} (h : Broken prompt chat) (next : StreamChunk) :
    Broken { prompt with chunks := next :: prompt.chunks }
      { chat with chunks := next :: chat.chunks } where
  chunks := List.cons_prefix_cons.mpr ⟨rfl, h.chunks⟩
  fault := by
    obtain ⟨issues, hfault, hother⟩ := h.fault
    exact ⟨issues, hfault, fun hsame => hother (List.cons.inj hsame).2⟩

variable [Time τ]

/-- Parts for a prompt and parts for a chat are delivered in the same way unless a null text
arrives. If it does, what is delivered of the prompt breaks off. -/
structure SameUnlessNull (context : Option String) (s : Surroundings τ) (limit : Option Nat)
    (parts parts' : List (ServicePart τ)) : Prop where
  same : ¬ NullArrives context s limit parts →
    deliveryOf chatContent s context limit parts' = deliveryOf promptContent s context limit parts
  broken : NullArrives context s limit parts →
    Broken (deliveryOf promptContent s context limit parts)
      (deliveryOf chatContent s context limit parts')

namespace SameUnlessNull

variable {context : Option String} {s : Surroundings τ} {limit : Option Nat}
  {rest rest' : List (ServicePart τ)}

theorem of_exhausted (h : StreamEvent.exhausted limit = true)
    (parts parts' : List (ServicePart τ)) : SameUnlessNull context s limit parts parts' where
  same _ := by rw [deliveryOf_of_exhausted _ _ _ h, deliveryOf_of_exhausted _ _ _ h]
  broken hnull := by cases h.symm.trans hnull.more

theorem pass {seconds : τ}
    (h : SameUnlessNull context (s.applyAll ((ServicePart.pass seconds).effects context)) limit
      rest rest') :
    SameUnlessNull context s limit (.pass seconds :: rest) (.pass seconds :: rest') := by
  refine ⟨fun hnone => ?_, fun hnull => ?_⟩ <;> rw [deliveryOf_pass, deliveryOf_pass]
  · exact h.same fun hlater => hnone (.pass _ hlater)
  · cases hnull with
    | pass _ later => exact h.broken later

theorem cancel
    (h : SameUnlessNull context (s.applyAll (ServicePart.cancel.effects context)) limit
      rest rest') :
    SameUnlessNull context s limit (.cancel :: rest) (.cancel :: rest') := by
  refine ⟨fun hnone => ?_, fun hnull => ?_⟩ <;> rw [deliveryOf_cancel, deliveryOf_cancel]
  · exact h.same fun hlater => hnone (.cancel hlater)
  · cases hnull with
    | cancel later => exact h.broken later

theorem fail (fault : Fault) :
    SameUnlessNull context s limit (.fail fault :: rest) (.fail fault :: rest') := by
  refine ⟨fun _ => ?_, nofun⟩
  cases hmore : StreamEvent.exhausted limit with
  | true => rw [deliveryOf_of_exhausted _ _ _ hmore, deliveryOf_of_exhausted _ _ _ hmore]
  | false => rw [deliveryOf_fail _ _ _ _ hmore, deliveryOf_fail _ _ _ _ hmore]

/-- When the context is not open, the parts are not even read. -/
theorem data_of_not_open (h : ¬ s.Open context) (part part' : Value) :
    SameUnlessNull context s limit (.data part :: rest) (.data part' :: rest') where
  same _ := deliveryOf_data_of_not_open _ _ _ _ h _ _
  broken hnull := by
    cases hnull with
    | here _ isOpen => exact absurd isOpen h
    | data _ isOpen => exact absurd isOpen h

section Data

variable {entries entries' : List (Key × Value)} {text : PartText}
  (hmore : StreamEvent.exhausted limit = false) (hopen : s.Open context)
  (prompt : PromptCarries entries text) (chat : ChatCarries entries' text)
  (same : ∀ name ∈ ["done", "prompt_eval_count", "eval_count"],
    Value.entry? entries' name = Value.entry? entries name)

include hmore hopen prompt chat same

/-- A null text breaks the prompt off. -/
theorem data_of_null (htext : text = .null) :
    SameUnlessNull context s limit (.data (.map entries) :: rest)
      (.data (.map entries') :: rest') := by
  obtain rfl := htext
  obtain ⟨issues, hprompt, hchat⟩ := chunkOf_twins_null prompt chat same
  refine ⟨fun hnone => absurd (.here hmore hopen prompt) hnone, fun _ => ?_⟩
  rw [deliveryOf_data _ _ hmore hopen, deliveryOf_data _ _ hmore hopen, hprompt]
  rcases hchat with ⟨issues', hfailed, hne⟩ | ⟨chunk, hmade⟩
  · rw [hfailed]
    exact ⟨List.prefix_refl _, issues, rfl, fun _ => ⟨issues', rfl, hne⟩⟩
  · rw [hmade]
    exact ⟨List.nil_prefix, issues, rfl, nofun⟩

/-- Any other text is delivered, if it can be, and then it depends on the rest. -/
theorem data_of_not_null (htext : text ≠ .null)
    (h : SameUnlessNull context s (limit.map (· - 1)) rest rest') :
    SameUnlessNull context s limit (.data (.map entries) :: rest)
      (.data (.map entries') :: rest') := by
  have hlater : NullArrives context s limit (.data (.map entries) :: rest) →
      ∃ chunk, chunkOf promptContent (.map entries) = .ok chunk ∧
        NullArrives context s (limit.map (· - 1)) rest := by
    intro hnull
    cases hnull with
    | here _ _ null => exact absurd (PartText.eq_null_of_entry? (prompt.symm.trans null)) htext
    | data _ _ made later => exact ⟨_, made, later⟩
  -- Both contents are made into the same chunk, or both fail.
  cases hmade : chunkOf promptContent (.map entries) with
  | error fault =>
    refine ⟨fun _ => ?_, fun hnull => ?_⟩
    · rw [deliveryOf_data _ _ hmore hopen, deliveryOf_data _ _ hmore hopen,
        chunkOf_twins prompt chat same htext, hmade]
    · obtain ⟨chunk, hchunk, -⟩ := hlater hnull
      cases hmade.symm.trans hchunk
  | ok next =>
    refine ⟨fun hnone => ?_, fun hnull => ?_⟩ <;>
      rw [deliveryOf_data _ _ hmore hopen, deliveryOf_data _ _ hmore hopen,
        chunkOf_twins prompt chat same htext, hmade]
    · dsimp only
      rw [h.same fun hlater => hnone (.data hmore hopen hmade hlater)]
    · obtain ⟨-, -, hrest⟩ := hlater hnull
      exact (h.broken hrest).cons next

end Data

/-- Replies that say the same are delivered in the same way unless a null text arrives. -/
theorem of_twins {parts parts' : List (ServicePart τ)} (h : List.Forall₂ Twins parts parts')
    (s : Surroundings τ) (limit : Option Nat) : SameUnlessNull context s limit parts parts' := by
  induction h generalizing s limit with
  | nil => exact ⟨fun _ => rfl, nofun⟩
  | cons twin twins ih =>
    cases twin with
    | pass seconds => exact (ih _ limit).pass
    | cancel => exact (ih _ limit).cancel
    | fail fault => exact fail fault
    | @data entries entries' text prompt chat same =>
      cases hmore : StreamEvent.exhausted limit with
      | true => exact of_exhausted hmore _ _
      | false =>
        by_cases hopen : s.Open context
        · by_cases htext : text = .null
          · exact data_of_null hmore hopen prompt chat same htext
          · exact data_of_not_null hmore hopen prompt chat same htext (ih s _)
        · exact data_of_not_open hopen _ _

end SameUnlessNull

end Deliveries

/-! ## Prompts and chats -/

/-- What arrives of replies that say the same says the same. -/
theorem TwinReplies.received {prompt chat : ServiceReply τ} (h : TwinReplies prompt chat) :
    List.Forall₂ Twins prompt.received chat.received := by
  unfold ServiceReply.received
  rw [h.failure]
  cases prompt.failure with
  | some fault => exact .cons (.fail fault) .nil
  | none => exact h.parts

/-- Faults are told in the same words only if their own words are the same. -/
theorem told_inj {operation model text text' : String}
    (h : told operation model text = told operation model text') : text = text' := by
  unfold told at h
  injection h with _ hmessage
  exact (String.append_right_inj _).mp hmessage

/-- Failures that end a prompt and a chat alike have the same words of their own. -/
theorem EndsAlike.text_eq {model text text' : String}
    (h : EndsAlike model (some (told "generate" model text)) (some (told "chat" model text'))) :
    text = text' := by
  generalize hprompt : some (told "generate" model text) = prompt at h
  generalize hchat : some (told "chat" model text') = chat at h
  cases h with
  | finished => cases hprompt
  | cancelled cancellation =>
    -- A failure of the service is no cancellation.
    obtain rfl := Option.some.inj hprompt
    cases cancellation
  | failed shared =>
    exact (told_inj (Option.some.inj hprompt)).trans (told_inj (Option.some.inj hchat)).symm

section

variable {model prompt : String} {turns : List ChatMessage} {options options' : Option Options}

/-- The same delivery is reported alike. -/
theorem alike_reported (delivery : Delivery) :
    Alike model (reported (.generate model prompt options) delivery)
      (reported (.chat model turns options') delivery) := by
  refine ⟨rfl, ?_⟩
  unfold reported
  cases delivery.fault with
  | none => exact .finished
  | some fault =>
    simp only [Option.map_some, streamFault]
    cases hcancelled : fault.isCancellation with
    | true => exact .cancelled hcancelled
    | false => exact .failed fault.message

/-- A delivery that broke off is reported as a failure. -/
theorem fault_reported_of_broken {generated answered : Delivery} (h : Broken generated answered) :
    ∃ text, (reported (.generate model prompt options) generated).fault =
      some (told "generate" model text) := by
  obtain ⟨issues, hfault, -⟩ := h.fault
  refine ⟨(Fault.schema "StreamChunk" issues).message, ?_⟩
  rw [reported, hfault]
  rfl

/-- A delivery that broke off is not reported alike. -/
theorem not_alike_of_broken {generated answered : Delivery} (h : Broken generated answered) :
    ¬ Alike model (reported (.generate model prompt options) generated)
      (reported (.chat model turns options') answered) := by
  rintro ⟨hchunks, hends⟩
  obtain ⟨issues, hfault, hother⟩ := h.fault
  obtain ⟨issues', hfault', hlength⟩ := hother hchunks
  rw [reported, reported, hfault, hfault'] at hends
  -- Both have failed at the same place, but not with as many issues.
  exact hlength (Fault.length_eq_of_message_eq hends.text_eq).symm

end

/-- **Prompts and chats.** Whatever the replies are, if they say the same, and whatever the
surroundings, the context and the number of chunks are that the consumer wants: a prompt and a chat
deliver the same chunks and end alike, exactly unless a null text arrives. If it does, the prompt
fails there, having delivered what the chat delivers up to there. -/
theorem alike_iff [Time τ] {adapter adapter' : Adapter τ} {model prompt : String}
    {turns : List ChatMessage} {options options' : Option Options}
    (twins : TwinReplies
      (adapter.service adapter.requests (.generate model prompt (givenOptions options)))
      (adapter'.service adapter'.requests (.chat model turns (givenOptions options'))))
    (s : Surroundings τ) (context : Option String) (limit : Option Nat) :
    let reply := adapter.service adapter.requests (.generate model prompt (givenOptions options))
    let generated := (adapter.generate s context limit model prompt options).value
    let answered := (adapter'.chat s context limit model turns options').value
    (Alike model generated answered ↔
      ¬ NullArrives context (reply.arrival s) limit reply.received) ∧
    (NullArrives context (reply.arrival s) limit reply.received →
      generated.chunks <+: answered.chunks ∧
        ∃ text, generated.fault = some (told "generate" model text)) := by
  intro reply generated answered
  have harrival : (adapter'.service adapter'.requests
      (.chat model turns (givenOptions options'))).arrival s = reply.arrival s := by
    rw [ServiceReply.arrival, twins.delay, ServiceReply.arrival]
  have hgenerated : generated = reported _ _ := value_stream promptContent adapter s context limit
    (.generate model prompt (givenOptions options))
  have hanswered : answered = reported _ _ := value_stream chatContent adapter' s context limit
    (.chat model turns (givenOptions options'))
  rw [harrival] at hanswered
  -- The replies are the same unless a null arrives, and then the prompt breaks off there.
  obtain ⟨hsame, hbroken⟩ := SameUnlessNull.of_twins twins.received (reply.arrival s) limit
  rw [hgenerated, hanswered]
  refine ⟨⟨fun halike hnull => not_alike_of_broken (hbroken hnull) halike, fun hnone => ?_⟩,
    fun hnull => ⟨(hbroken hnull).chunks, fault_reported_of_broken (hbroken hnull)⟩⟩
  rw [hsame hnone]
  exact alike_reported _

/-- An adapter to a service that has one part for each request, with the given text. -/
def textAdapter (text : PartText) : Adapter Rat where
  timeout := 300
  service _ request :=
    match request with
    | .chat _ _ _ =>
      let message : Fields := (text.entry?.map fun v => ("content", v)).toList
      { parts := [.data (.record [("message", .record message)])] }
    | _ => { parts := [.data (.record (text.entry?.map fun v => ("response", v)).toList)] }

/-- Its replies to prompts and chats say the same. -/
theorem twinReplies_textAdapter (text : PartText) :
    let adapter := textAdapter text
    TwinReplies (adapter.service adapter.requests (.generate "m" "hi" (givenOptions none)))
      (adapter.service adapter.requests (.chat "m" [] (givenOptions none))) := by
  have hprompt :
      PromptCarries ((text.entry?.map fun v => (Key.text "response", v)).toList) text := by
    cases text <;> rfl
  have hchat : ChatCarries [(.text "message", .map
      ((text.entry?.map fun v => (Key.text "content", v)).toList))] text := by
    cases text <;> exact .message rfl rfl
  refine ⟨rfl, rfl, .cons ?_ .nil⟩
  cases text <;> exact .data hprompt hchat (by
    simp only [List.forall_mem_cons]
    exact ⟨rfl, rfl, rfl, nofun⟩)

/-- A prompt and a chat with the same text are alike. -/
theorem alike_iff_textAdapter :
    let adapter := textAdapter (.given "hello")
    let s : Surroundings Rat := { clock := ⟨0, 0⟩ }
    Alike "m" (adapter.generate s none none "m" "hi" none).value
      (adapter.chat s none none "m" [] none).value := by
  intro adapter s
  obtain ⟨hiff, -⟩ := alike_iff (twinReplies_textAdapter (.given "hello")) s none none
  refine hiff.mpr fun hnull => ?_
  cases hnull with
  | here _ _ null => cases null
  | data _ _ _ later => cases later

/-- A prompt and a chat with the same texts are not alike if a text is null. -/
theorem not_alike_nullText :
    ¬ ∀ (adapter adapter' : Adapter Rat) (model prompt : String) (turns : List ChatMessage)
      (options options' : Option Options),
      TwinReplies
          (adapter.service adapter.requests (.generate model prompt (givenOptions options)))
          (adapter'.service adapter'.requests (.chat model turns (givenOptions options'))) →
        ∀ (s : Surroundings Rat) (context : Option String) (limit : Option Nat),
          Alike model (adapter.generate s context limit model prompt options).value
            (adapter'.chat s context limit model turns options').value := by
  intro hall
  have halike := hall _ _ "m" "hi" [] none none (twinReplies_textAdapter .null)
    { clock := ⟨0, 0⟩ } none none
  cases halike.chunks

end Adapter

end Orchestration
