import Orchestration.Inference
import Orchestration.Numeral

/-!
# The adapter to a local inference service

The adapter turns the calls of the engine into requests to a service. Requests go through clients.
One client is shared by all calls and never closed; a call that has less time left than the timeout
of the adapter gets a client of its own, whose timeout is the time left, and which is closed when
the call ends. What goes wrong in the service is reported as a fault of inference.
-/

namespace Orchestration

/-! ## Requests and replies -/

/-- A request to the service. -/
inductive ServiceRequest where
  | generate (model prompt : String) (options : Option Options)
  | chat (model : String) (turns : List ChatMessage) (options : Option Options)
  | embed (model text : String)

namespace ServiceRequest

/-- The name of the operation that a request asks for. -/
def operation : ServiceRequest → String
  | generate _ _ _ => "generate"
  | chat _ _ _ => "chat"
  | embed _ _ => "embed"

/-- The model that a request names. -/
def model : ServiceRequest → String
  | generate model _ _ | chat model _ _ | embed model _ => model

/-- The request as a record. -/
def toValue : ServiceRequest → Value
  | generate model prompt options =>
    .record [("method", .text "generate"), ("model", .text model), ("prompt", .text prompt),
      ("options", Call.optionsValue options), ("stream", .bool true)]
  | chat model turns options =>
    .record [("method", .text "chat"), ("model", .text model),
      ("messages", .list (turns.map ChatMessage.toValue)),
      ("options", Call.optionsValue options), ("stream", .bool true)]
  | embed model text =>
    .record [("method", .text "embed"), ("model", .text model), ("input", .text text)]

end ServiceRequest

/-- A part of a streamed reply of the service. -/
inductive ServicePart (τ : Type) where
  /-- Time passes. -/
  | pass (seconds : τ)
  /-- The context of the call is cancelled. -/
  | cancel
  | fail (fault : Fault)
  | data (content : Value)

/-- A reply of the service. -/
structure ServiceReply (τ : Type) where
  /-- The time that the service takes before it replies. -/
  delay : Option τ := none
  /-- The fault with which the request fails. -/
  failure : Option Fault := none
  parts : List (ServicePart τ) := []
  /-- The reply to a request for an embedding. -/
  response : Value := .map []

/-! ## Clients -/

/-- A client of the service. -/
structure ServiceClient (τ : Type) where
  timeout : τ
  /-- How often the client was closed. -/
  closed : Nat := 0
  requests : List ServiceRequest := []

/-- The client as a record. -/
def ServiceClient.toValue (client : ServiceClient Number) (host : Value) : Value :=
  .record [("host", host), ("timeout", client.timeout.toValue), ("closed", .int client.closed),
    ("calls", .list (client.requests.map ServiceRequest.toValue))]

/-- The figures of the client: its host, its timeout, and how often it was closed and used. -/
def ServiceClient.figures (client : ServiceClient Number) (host : Value) : Value :=
  .list [host, client.timeout.toValue, .int client.closed, .int client.requests.length]

/-- An adapter. -/
structure Adapter (τ : Type) where
  host : Value := .text "http://localhost:11434"
  timeout : τ
  /-- The reply of the service to a request, which may depend on all requests before it. -/
  service : (earlier : List ServiceRequest) → ServiceRequest → ServiceReply τ
  /-- The requests to the service, oldest first. -/
  requests : List ServiceRequest := []
  /-- All clients, in the order in which they were made. -/
  clients : List (ServiceClient τ) := []
  /-- The position of the shared client. -/
  shared : Option Nat := none

/-- The client that a call uses. -/
structure ServiceSession where
  client : Nat
  /-- The client serves this call only. -/
  own : Bool

/-- Changes the item at a position. -/
def changeAt {α : Type} (change : α → α) : Nat → List α → List α
  | _, [] => []
  | 0, a :: rest => change a :: rest
  | n + 1, a :: rest => a :: changeAt change n rest

namespace Adapter

variable {τ : Type} [Time τ]

/-- The adapter with another client. -/
def withClient (adapter : Adapter τ) (timeout : τ) : Adapter τ :=
  { adapter with clients := adapter.clients ++ [{ timeout }] }

/-- The timeout of a client for a call with the given time left. -/
def ownTimeout (remaining : τ) : τ :=
  if Time.before remaining Time.least then Time.least else remaining

/-- Chooses the client for a call. -/
def start (adapter : Adapter τ) (remaining : Option τ) : ServiceSession × Adapter τ :=
  -- The shared client would wait longer than the call may take.
  match remaining.filter (Time.before · adapter.timeout), adapter.shared with
  | some remaining, _ =>
    (⟨adapter.clients.length, true⟩, adapter.withClient (ownTimeout remaining))
  | none, some client => (⟨client, false⟩, adapter)
  | none, none =>
    (⟨adapter.clients.length, false⟩,
      { adapter.withClient adapter.timeout with shared := some adapter.clients.length })

/-- Sends a request through a client. -/
def send (adapter : Adapter τ) (session : ServiceSession) (request : ServiceRequest) :
    ServiceReply τ × Adapter τ :=
  (adapter.service adapter.requests request,
    { adapter with
      requests := adapter.requests ++ [request]
      clients := changeAt (fun client => { client with requests := client.requests ++ [request] })
        session.client adapter.clients })

/-- Ends the call of a session: a client of its own is closed. -/
def finish (adapter : Adapter τ) (session : ServiceSession) : Adapter τ :=
  if session.own then
    { adapter with
      clients := changeAt (fun client => { client with closed := client.closed + 1 })
        session.client adapter.clients }
  else adapter

/-! ## Parts of a reply as chunks -/

/-- The fault of looking for an entry in a value that has none. -/
def noEntries (v : Value) : Fault :=
  .foreign .attribute ("'" ++ v.typeName ++ "' object has no attribute 'get'")

/-- The entry of a mapping, null if it is absent. -/
def entry (v : Value) (name : String) : Except Fault Value :=
  match v with
  | .map es => .ok ((Value.entry? es name).getD .null)
  | v => .error (noEntries v)

/-- The entry of a mapping, or the default if it is absent. -/
def entryOr (v : Value) (name : String) (default : Value) : Except Fault Value :=
  match v with
  | .map es => .ok ((Value.entry? es name).getD default)
  | v => .error (noEntries v)

/-- The value, or the default where it counts as false. -/
def orElse (v default : Value) : Value :=
  if v.truthy then v else default

/-- The text that a part of a reply to a prompt holds. -/
def promptContent (part : Value) : Except Fault Value :=
  entryOr part "response" (.text "")

/-- The text that a part of a reply to a chat holds. -/
def chatContent (part : Value) : Except Fault Value := do
  let message ← entry part "message"
  let content ← entry (orElse message (.map [])) "content"
  return orElse content (.text "")

/-- The chunk for a part of a reply. Token counts are taken from parts that are marked as done. -/
def chunkOf (content : Value → Except Fault Value) (part : Value) : Except Fault StreamChunk := do
  let content ← content part
  let done := (← entryOr part "done" (.bool false)).truthy
  let count := fun name => if done then entry part name else .ok .null
  let record := Value.record [("content", content), ("done", .bool done),
    ("input_tokens", ← count "prompt_eval_count"), ("output_tokens", ← count "eval_count")]
  (StreamChunk.read record).orFault "StreamChunk"

/-! ## Streams -/

/-- What happens while a part of a reply arrives. -/
def eventOf (context : Option String) (content : Value → Except Fault Value) :
    ServicePart τ → List (StreamEvent τ)
  | .pass seconds => [.effect (.pass seconds)]
  | .cancel => (context.map fun name => .effect (.cancel name)).toList
  | .fail fault => [.fail fault]
  | .data part => [.chunk (chunkOf content part)]

/-- What happens while a reply arrives. -/
def eventsOf (context : Option String) (content : Value → Except Fault Value)
    (reply : ServiceReply τ) : List (StreamEvent τ) :=
  let delay := reply.delay.map fun seconds => StreamEvent.effect (.pass seconds)
  delay.toList ++
    match reply.failure with
    | some fault => [.fail fault]
    | none => reply.parts.flatMap (eventOf context content)

/-- A fault of the service, as the adapter reports it. -/
def report (request : ServiceRequest) (fault : Fault) : Fault :=
  .execution .inference ("ollama " ++ request.operation ++ " failed for model " ++
    Text.quoted request.model ++ ": " ++ fault.message) none

/-- A fault that ended a stream, as the adapter reports it; cancellation is passed on. -/
def streamFault (request : ServiceRequest) (fault : Fault) : Fault :=
  if fault.isCancellation then fault else report request fault

/-- Options, unless they are empty. -/
def givenOptions (options : Option Options) : Option Options :=
  options.filter (!·.isEmpty)

/-- Makes a request and consumes at most `limit` chunks of the reply. A stream that is not started
leaves no trace. -/
def stream (adapter : Adapter τ) (s : Surroundings τ) (context : Option String)
    (limit : Option Nat) (request : ServiceRequest) (content : Value → Except Fault Value) :
    Answer (Adapter τ) τ Delivery :=
  if StreamEvent.exhausted limit then ⟨adapter, [], {}⟩
  else
    let (session, adapter) := adapter.start ((s.context context).remaining s.clock.reading)
    let (reply, adapter) := adapter.send session request
    let (delivery, effects) := StreamEvent.consume s context limit (eventsOf context content reply)
    ⟨adapter.finish session, effects,
      { delivery with fault := delivery.fault.map (streamFault request) }⟩

/-- Continues a prompt. -/
def generate (adapter : Adapter τ) (s : Surroundings τ) (context : Option String)
    (limit : Option Nat) (model prompt : String) (options : Option Options) :
    Answer (Adapter τ) τ Delivery :=
  adapter.stream s context limit (.generate model prompt (givenOptions options)) promptContent

/-- Answers a chat. -/
def chat (adapter : Adapter τ) (s : Surroundings τ) (context : Option String)
    (limit : Option Nat) (model : String) (turns : List ChatMessage) (options : Option Options) :
    Answer (Adapter τ) τ Delivery :=
  adapter.stream s context limit (.chat model turns (givenOptions options)) chatContent

/-! ## Embeddings -/

/-- The number that an entry of a vector stands for. -/
def component (v : Value) : Except Fault Float :=
  match v with
  | .float x => .ok x
  | .bool b => .ok (if b then 1.0 else 0.0)
  | .int n =>
    let x := Decimal.ofInteger n
    if Decimal.isFinite x then .ok x
    else .error (.foreign .overflow "int too large to convert to float")
  | .text s =>
    match Numeral.number? s.toList with
    | some x => .ok x
    | none => .error (.foreign .value ("could not convert string to float: " ++ Text.quoted s))
  | v =>
    .error (.wrongType ("float() argument must be a string or a real number, not '" ++
      v.typeName ++ "'"))

/-- The first item of a value that has items. -/
def firstItem (v : Value) : Except Fault Value :=
  match v with
  | .list (first :: _) => .ok first
  | .text s => .ok (.text (String.ofList (s.toList.take 1)))
  | .map es =>
    match es.find? fun (k, _) => k.same (.int 0) with
    | some (_, v) => .ok v
    | none => .error (.foreign .key "0")
  | v => .error (.wrongType ("'" ++ v.typeName ++ "' object is not subscriptable"))

/-- The items of a value that has items. -/
def itemsOf (v : Value) : Except Fault (List Value) :=
  match v with
  | .list vs => .ok vs
  | .text s => .ok (s.toList.map fun c => .text (String.ofList [c]))
  | .map es => .ok (es.map fun (k, _) => k.toValue)
  | v => .error (.wrongType ("'" ++ v.typeName ++ "' object is not iterable"))

/-- The vector in a reply to a request for an embedding. -/
def vectorOf (request : ServiceRequest) (response : Value) : Except Fault Value := do
  let embeddings ← entry response "embeddings"
  if embeddings.truthy then
    let vector ← (← itemsOf (← firstItem embeddings)).mapM component
    return .list (vector.map Value.float)
  else
    throw (.execution .inference
      ("ollama returned no embedding for model " ++ Text.quoted request.model) none)

/-- Gives the embedding of a text. -/
def embed (adapter : Adapter τ) (s : Surroundings τ) (context : Option String)
    (model text : String) : Answer (Adapter τ) τ (Except Fault Value) :=
  match s.check context none with
  | .error fault => ⟨adapter, [], .error fault⟩
  | .ok _ =>
    let request := ServiceRequest.embed model text
    let (session, adapter) := adapter.start ((s.context context).remaining s.clock.reading)
    let (reply, adapter) := adapter.send session request
    let delay := (reply.delay.map Effect.pass).toList
    ⟨adapter.finish session, delay,
      match reply.failure with
      | some fault => .error (report request fault)
      | none => vectorOf request reply.response⟩

/-- An answer with a stream as the engine takes it. -/
def delivered (answer : Answer (Adapter τ) τ Delivery) : Answer (Adapter τ) τ StreamReply :=
  ⟨answer.backend, answer.effects, .delivered answer.value⟩

instance : Backend (Adapter τ) τ where
  name _ := "ollama"
  generate adapter s context model prompt options :=
    delivered (adapter.generate s context none model prompt options)
  chat adapter s context model turns options :=
    delivered (adapter.chat s context none model turns options)
  embed adapter s context model text := adapter.embed s context model text

end Adapter

end Orchestration
