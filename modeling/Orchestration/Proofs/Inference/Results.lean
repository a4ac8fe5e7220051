import Orchestration.Proofs.Inference.Calls
import Orchestration.Proofs.Inference.Parts

/-!
# From a stream to a result

A task that asks for a text gets it in parts. If all parts arrive, and while the context is open,
then the result of the task is the text of all of them, in order, with the counts of the last part
that was marked as done; parts after that one add to the text, and counts on other parts do not
count (`Sums`). If there is no text in any part, the task fails.

The main statement is `result_of_stream`.
-/

namespace Orchestration

/-! ## What parts say -/

/-- What a part of a stream says. -/
structure Piece where
  text : PartText
  done : Bool
  input : Option Int
  output : Option Int

namespace Piece

/-- The text of all pieces, in order. -/
def textOf (pieces : List Piece) : String :=
  String.join (pieces.map (·.text.shown))

/-- The last piece that is marked as done. -/
def lastDone? (pieces : List Piece) : Option Piece :=
  (pieces.filter (·.done)).getLast?

/-- The chunk for a piece: only a piece that is marked as done has counts. -/
def chunk (piece : Piece) : StreamChunk where
  content := piece.text.shown
  done := piece.done
  inputTokens := if piece.done then piece.input else none
  outputTokens := if piece.done then piece.output else none

end Piece

/-- The sum of two counts, either of which may be missing. -/
def tokenSum : Option Int → Option Int → Option Int
  | none, none => none
  | input, output => some (input.getD 0 + output.getD 0)

/-- The metrics count the tokens of a stream: they are those of the last piece that is marked as
done. -/
structure Sums (metrics : TaskMetrics) (pieces : List Piece) : Prop where
  input : metrics.inputTokens = (Piece.lastDone? pieces).bind (·.input)
  output : metrics.outputTokens = (Piece.lastDone? pieces).bind (·.output)
  total : metrics.tokensUsed = tokenSum metrics.inputTokens metrics.outputTokens

namespace ServiceRequest

/-- How a part of a reply to the request holds its text. -/
def Carries : ServiceRequest → List (Key × Value) → PartText → Prop
  | chat _ _ _ => ChatCarries
  | generate _ _ _ | embed _ _ => PromptCarries

/-- How the text of a part is found. -/
def content : ServiceRequest → Value → Except Fault Value
  | chat _ _ _ => Adapter.chatContent
  | generate _ _ _ | embed _ _ => Adapter.promptContent

end ServiceRequest

/-- A part of a reply to the request says what the piece says. Its text is given or missing, and its
counts are integers, or missing. -/
structure Says (request : ServiceRequest) (entries : List (Key × Value)) (piece : Piece) :
    Prop where
  text : request.Carries entries piece.text
  given : piece.text ≠ .null
  done : Adapter.isDone entries = piece.done
  input : (Value.entry? entries "prompt_eval_count").getD .null =
    (piece.input.map Value.int).getD .null
  output : (Value.entry? entries "eval_count").getD .null = (piece.output.map Value.int).getD .null

variable {τ : Type} [Time τ]

/-- All parts of a reply arrive, each of them while the context is open, and say what the pieces
say. -/
inductive Delivered (request : ServiceRequest) (context : Option String) :
    Surroundings τ → List (ServicePart τ) → List Piece → Prop
  | done (s : Surroundings τ) : Delivered request context s [] []
  | pass {s : Surroundings τ} {parts : List (ServicePart τ)} {pieces : List Piece} (seconds : τ)
    (later : Delivered request context
      (s.applyAll ((ServicePart.pass seconds).effects context)) parts pieces) :
    Delivered request context s (.pass seconds :: parts) pieces
  | cancel {s : Surroundings τ} {parts : List (ServicePart τ)} {pieces : List Piece}
    (later : Delivered request context (s.applyAll (ServicePart.cancel.effects context)) parts
      pieces) :
    Delivered request context s (.cancel :: parts) pieces
  | data {s : Surroundings τ} {entries : List (Key × Value)} {piece : Piece}
    {parts : List (ServicePart τ)} {pieces : List Piece} (isOpen : s.Open context)
    (tells : Says request entries piece) (later : Delivered request context s parts pieces) :
    Delivered request context s (.data (.map entries) :: parts) (piece :: pieces)

/-! ## What is made of them -/

namespace Adapter

/-- A part is made into the chunk of its piece. -/
theorem chunkOf_of_says {request : ServiceRequest} {entries : List (Key × Value)} {piece : Piece}
    (h : Says request entries piece) :
    chunkOf request.content (.map entries) = .ok piece.chunk := by
  -- The counts are read from the last part only.
  have hcount : ∀ {name : String} {count : Option Int},
      (Value.entry? entries name).getD .null = (count.map Value.int).getD .null →
        countOf entries name = .ok (if piece.done then count else none) := by
    intro name count hentry
    rw [countOf, hentry, h.done]
    cases piece.done with
    | false => rfl
    | true => cases count <;> rfl
  have htext : request.content (.map entries) = .ok (.text piece.text.shown) := by
    have hgiven : piece.text.entry?.getD (.text "") = .text piece.text.shown := by
      cases htext : piece.text with
      | null => exact absurd htext h.given
      | missing => rfl
      | given text => rfl
    have hcarries := h.text
    cases request with
    | chat model turns options => exact chatContent_of_carries hcarries
    | generate model prompt options => exact hgiven ▸ promptContent_of_carries hcarries
    | embed model text => exact hgiven ▸ promptContent_of_carries hcarries
  have hchunk := chunkWith_ok (hcount h.input) (hcount h.output) piece.text.shown
  rw [chunkOf_map htext, show Schema.text (.text piece.text.shown) = .ok piece.text.shown from rfl,
    hchunk, h.done]
  rfl

/-- A consumer who takes all that is delivered gets the chunks of the pieces. -/
theorem deliveryOf_of_delivered {request : ServiceRequest} {context : Option String}
    {s : Surroundings τ} {parts : List (ServicePart τ)} {pieces : List Piece}
    (h : Delivered request context s parts pieces) :
    deliveryOf request.content s context none parts = ⟨pieces.map Piece.chunk, none⟩ := by
  induction h with
  | done s => rfl
  | pass seconds later ih => rw [deliveryOf_pass, ih]
  | cancel later ih => rw [deliveryOf_cancel, ih]
  | data isOpen tells later ih =>
    rw [deliveryOf_data _ _ rfl isOpen, chunkOf_of_says tells, Option.map_none]
    dsimp only
    rw [ih]
    rfl

end Adapter

namespace Engine

theorem chunkText_map_chunk (pieces : List Piece) :
    chunkText (pieces.map Piece.chunk) = Piece.textOf pieces := by
  rw [chunkText, List.map_map]
  rfl

/-- The metrics of a stream are the counts of its last piece that is marked as done. -/
theorem sums_tokenMetrics (pieces : List Piece) :
    Sums (tokenMetrics (pieces.map Piece.chunk)) pieces := by
  have hlast : (pieces.map Piece.chunk).reverse.find? (·.done) =
      (Piece.lastDone? pieces).map Piece.chunk := by
    rw [Piece.lastDone?, List.getLast?_filter, ← List.map_reverse, List.find?_map]
    rfl
  unfold tokenMetrics
  rw [hlast]
  cases hdone : Piece.lastDone? pieces with
  | none => exact ⟨by rw [hdone]; rfl, by rw [hdone]; rfl, rfl⟩
  | some last =>
    -- The counts of its chunk are its own, for it is marked as done.
    have hcounts : last.done = true := (List.mem_filter.mp (List.mem_of_getLast? hdone)).2
    have hinput : last.chunk.inputTokens = last.input := if_pos hcounts
    have houtput : last.chunk.outputTokens = last.output := if_pos hcounts
    refine ⟨by rw [hdone]; exact hinput, by rw [hdone]; exact houtput, ?_⟩
    dsimp only [Option.map_some]
    cases last.chunk.inputTokens <;> cases last.chunk.outputTokens <;> rfl

/-- All text of a stream is the output; without any the call has failed. -/
theorem collect_pieces (task : Task) (model operation : String) (pieces : List Piece) :
    collect task model operation ⟨pieces.map Piece.chunk, none⟩ =
      if Piece.textOf pieces = "" then
        .error (.execution .inference (operation ++ " call for model " ++ Text.quoted model ++
          " produced no output") (some task.id))
      else
        .ok {
          taskId := task.id, output := Piece.textOf pieces, modelUsed := model
          metrics := tokenMetrics (pieces.map Piece.chunk) } := by
  rw [← chunkText_map_chunk]
  rfl

/-- The reply to a call for a stream is collected when all of it was delivered. -/
theorem Replied.eq_collect {w : World (Adapter τ) τ} {task : Task} {context : Option String}
    {call : Call} {outcome : Except Fault TaskResult} {request : ServiceRequest}
    {pieces : List Piece} (h : Replied task context w call outcome)
    (hstream : ∀ model text, call ≠ .embed model text)
    (hrequest : ServiceRequest.ofCall? call = some request)
    (hdelivered : let reply := w.backend.service w.backend.requests request
      Delivered request context (reply.arrival w.surroundings) reply.received pieces) :
    ∃ model operation,
      outcome = collect task model operation ⟨pieces.map Piece.chunk, none⟩ := by
  have hvalue : (w.backend.stream w.surroundings context none request request.content).value =
      ⟨pieces.map Piece.chunk, none⟩ := by
    rw [Adapter.value_stream]
    dsimp only
    rw [Adapter.deliveryOf_of_delivered hdelivered]
    rfl
  cases h with
  | generate model prompt options =>
    cases hrequest
    exact ⟨model, "generate", congrArg (collect task model "generate") hvalue⟩
  | chat model turns options =>
    cases hrequest
    exact ⟨model, "chat", congrArg (collect task model "chat") hvalue⟩
  | embed model text => exact absurd rfl (hstream model text)

/-- The work on a task that is taken up for an open context comes to what the reply to the call
comes to that the task asks for. -/
theorem replied_of_asks {σ : Type} [Backend σ τ] {w : World σ τ} {ref : Ref Task}
    {agentRef : Ref Agent} {context : Option String} {call : Call}
    (hopen : w.surroundings.Open context)
    (hasks : Asks (w.tasks.task ref) (w.agents.agent agentRef) call) (tracked : Bool) :
    let w₀ := takenUp w ref agentRef tracked
    Replied (w₀.tasks.task ref) context w₀ call
      (outcomeOf (workOf w ref agentRef context tracked) w₀) := by
  intro w₀
  have hsame : SameWork (w.tasks.task ref) (w₀.tasks.task ref) :=
    sameWork_tasksTakenUp w.tasks ref ref _ tracked
  obtain ⟨call?, hcall, hcontacted⟩ := consults_perform (w₀.tasks.task ref) agentRef context w₀
  obtain rfl : call? = some call :=
    (hcall call).mpr ⟨hopen, (asks_of_sameWork hsame).mpr hasks⟩
  cases hcontacted with
  | once inference history => exact heeds_perform _ _ _ w₀ call history inference

/-- **What a stream comes to.** Whatever the parts of the reply are, if all of them are delivered:
a task that asks for a text is completed with the text of all parts and the counts of the last one
that is marked as done, provided that there is any text, and fails otherwise. -/
theorem result_of_stream {w : World (Adapter τ) τ} {ref : Ref Task} {agentRef : Ref Agent}
    {context : Option String} {call : Call} {request : ServiceRequest} {pieces : List Piece}
    (live : w.tasks.live.Has ref) (isOpen : w.surroundings.Open context)
    (kind : (w.tasks.task ref).kind = .generate ∨ (w.tasks.task ref).kind = .chat)
    (asks : Asks (w.tasks.task ref) (w.agents.agent agentRef) call)
    (sends : ServiceRequest.ofCall? call = some request)
    (delivered : let reply := w.backend.service w.backend.requests request
      Delivered request context (reply.arrival w.surroundings) reply.received pieces)
    (tracked : Bool) :
    let outcome := outcomeOf (execute ref agentRef context tracked) w
    let record := (worldAfter (execute ref agentRef context tracked) w).tasks.task ref
    let text := Piece.textOf pieces
    (text ≠ "" → record.status = .completed ∧ record.output = text ∧
      ∃ result, outcome = .ok result ∧ result.output = text ∧ Sums result.metrics pieces) ∧
    (text = "" → record.status = .failed ∧
      ∃ message, outcome = .error (.execution .inference message (some (w.tasks.task ref).id)) ∧
        record.error = message) := by
  intro outcome record text
  set w₀ := takenUp w ref agentRef tracked
  have hid : (w₀.tasks.task ref).id = (w.tasks.task ref).id :=
    (sameWork_tasksTakenUp w.tasks ref ref _ tracked).id
  -- A prompt or a chat is no call for an embedding, so the reply is collected.
  have hstream : ∀ model text, call ≠ .embed model text := by
    rintro model text rfl
    cases asks with
    | embed hembed => rcases kind with hkind | hkind <;> cases hembed.symm.trans hkind
  obtain ⟨model, operation, hwork⟩ :=
    (replied_of_asks isOpen asks tracked).eq_collect hstream sends delivered
  rw [collect_pieces] at hwork
  have hended := executed ref agentRef context tracked w
  -- What the pieces come to decides how the task ends.
  refine ⟨fun htext => ?_, fun htext => ?_⟩
  · rw [if_neg htext] at hwork
    obtain ⟨millis, houtcome⟩ := outcomeOf_execute_of_ok hwork
    rw [houtcome] at hended
    obtain ⟨hstatus, houtput⟩ := hended.completed live
    have hsums := sums_tokenMetrics pieces
    exact ⟨hstatus, houtput, _, houtcome, rfl, hsums.input, hsums.output, hsums.total⟩
  · rw [if_pos htext] at hwork
    have houtcome := outcomeOf_execute_of_error hwork
    rw [houtcome] at hended
    obtain ⟨hstatus, herror⟩ := hended.failed live
    rw [hid] at houtcome
    exact ⟨hstatus, _, houtcome, herror⟩

/-- An engine whose service goes on after a part that is marked as done. -/
def streamingEngine : World (Adapter Rat) Rat where
  surroundings := { clock := ⟨0, 0⟩ }
  backend := {
    timeout := 300
    service := fun _ _ => {
      parts := [
        .data (.record [("response", .text "Hel"), ("eval_count", .int 1)]),
        .pass 1,
        .data (.record [("response", .text "lo"), ("done", .bool true),
          ("prompt_eval_count", .int 5)]),
        .data (.record [("response", .text "!")])] } }
  agents := {
    live := ⟨[{ id := "helper", name := "Helper", models := ["model"] }]⟩
    index := [("helper", ⟨0⟩)] }
  tasks := { live := ⟨[{ id := "first", label := "generate", createdAt := .utc 0 }]⟩ }

/-- All text is put out, and the counts are those of the part that is marked as done. -/
theorem result_of_stream_streamingEngine :
    let outcome := outcomeOf (execute ⟨0⟩ ⟨0⟩ none true) streamingEngine
    ∃ result, outcome = .ok result ∧ result.output = "Hello!" ∧
      result.metrics.inputTokens = some 5 ∧ result.metrics.outputTokens = none ∧
      result.metrics.tokensUsed = some 5 := by
  intro outcome
  let pieces : List Piece := [⟨.given "Hel", false, none, some 1⟩,
    ⟨.given "lo", true, some 5, none⟩, ⟨.given "!", false, none, none⟩]
  have hlive : streamingEngine.tasks.live.Has ⟨0⟩ := Nat.zero_lt_one
  have hasks : Asks (streamingEngine.tasks.task ⟨0⟩) (streamingEngine.agents.agent ⟨0⟩)
      (.generate "model" "" none) :=
    .generate rfl ⟨by decide, .inr ⟨rfl, rfl⟩⟩ (.absent nofun)
  have hdelivered : ∀ s : Surroundings Rat,
      Delivered (.generate "model" "" none) none s
        (streamingEngine.backend.service [] (.generate "model" "" none)).received pieces := fun s =>
    .data (Surroundings.open_none s) ⟨rfl, nofun, rfl, rfl, rfl⟩ <| .pass 1 <|
      .data (Surroundings.open_none _) ⟨rfl, nofun, rfl, rfl, rfl⟩ <|
      .data (Surroundings.open_none _) ⟨rfl, nofun, rfl, rfl, rfl⟩ <| .done _
  obtain ⟨hcompleted, -⟩ := result_of_stream hlive (Surroundings.open_none _) (.inl rfl) hasks rfl
    (hdelivered _) true
  obtain ⟨-, -, result, hresult, houtput, hsums⟩ := hcompleted (by decide)
  have hinput : result.metrics.inputTokens = some 5 := hsums.input
  have htokens : result.metrics.outputTokens = none := hsums.output
  refine ⟨result, hresult, houtput, hinput, htokens, ?_⟩
  rw [hsums.total, hinput, htokens]
  rfl

end Engine

end Orchestration
