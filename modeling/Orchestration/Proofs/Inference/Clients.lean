import Mathlib.Logic.Function.Basic
import Orchestration.Inference.Adapter

/-!
# The clients of the adapter

Every call that has started uses a client of the service: the shared one, or one that was made for
it alone because it had less time left than the timeout of the adapter. `Balanced` is the balance
between the calls and the clients. A call that starts keeps it (`Balanced.begin`), whichever client
it gets, and so does a call that ends (`Balanced.finish`). Nothing here says how the calls are
interleaved; that is the subject of the module on streams.
-/

namespace Orchestration

/-- Changing an item of a list is what the library calls modifying it. -/
theorem changeAt_eq_modify {α : Type} (change : α → α) (n : Nat) (l : List α) :
    changeAt change n l = l.modify n change := by
  induction l generalizing n with
  | nil => simp [changeAt]
  | cons a rest ih => cases n <;> simp [changeAt, ih]

/-- An item of a list to which one was added is the added one, or was there before. -/
private theorem getElem?_concat_cases {α : Type} {l : List α} {a found : α} {n : Nat}
    (h : (l ++ [a])[n]? = some found) :
    (n = l.length ∧ found = a) ∨ (n < l.length ∧ l[n]? = some found) := by
  rcases Nat.lt_trichotomy n l.length with hlt | rfl | hgt
  · rw [List.getElem?_append_left hlt] at h
    exact .inr ⟨hlt, h⟩
  · rw [List.getElem?_concat_length] at h
    exact .inl ⟨rfl, (Option.some.inj h).symm⟩
  · rw [List.getElem?_eq_none (by simp; omega)] at h
    simp at h

namespace Adapter

variable {τ : Type} [Time τ]

/-! ## Visits -/

/-- The use of a client by a call that has started. -/
structure Visit (τ : Type) where
  session : ServiceSession
  /-- The time that the call had left when it started. -/
  remaining : Option τ
  request : ServiceRequest

/-- The calls that have started, under their positions, each with whether it has ended. -/
abbrev Ledger (τ : Type) :=
  Nat → Option (Visit τ × Bool)

/-- Starts a call: chooses a client for the time that is left, and sends the request through it. -/
def begin (adapter : Adapter τ) (s : Surroundings τ) (context : Option String)
    (request : ServiceRequest) : Visit τ × ServiceReply τ × Adapter τ :=
  let remaining := (s.context context).remaining s.clock.reading
  let chosen := adapter.start remaining
  let sent := chosen.2.send chosen.1 request
  (⟨chosen.1, remaining, request⟩, sent.1, sent.2)

/-- A call that starts makes its request, and changes nothing else but the clients. -/
theorem begin_frame (adapter : Adapter τ) (s : Surroundings τ) (context : Option String)
    (request : ServiceRequest) :
    ∃ clients shared, (adapter.begin s context request).2 =
      (adapter.service adapter.requests request,
        { adapter with requests := adapter.requests ++ [request], clients, shared }) := by
  have hstart : ∀ remaining, ∃ clients shared,
      (adapter.start remaining).2 = { adapter with clients, shared } := by
    intro remaining
    unfold start
    split <;> exact ⟨_, _, rfl⟩
  obtain ⟨clients, shared, hchosen⟩ := hstart ((s.context context).remaining s.clock.reading)
  unfold begin
  dsimp only
  rw [hchosen]
  exact ⟨_, shared, rfl⟩

omit [Time τ] in
/-- A call that ends changes nothing but the clients. -/
theorem finish_frame (adapter : Adapter τ) (session : ServiceSession) :
    ∃ clients, adapter.finish session = { adapter with clients } := by
  unfold finish
  split <;> exact ⟨_, rfl⟩

/-- The clients that a call finds when it starts, and those it leaves. -/
inductive Begun (adapter : Adapter τ) (request : ServiceRequest) :
    Visit τ → Adapter τ → Prop where
  /-- The call has too little time for the shared client, and gets a client of its own. -/
  | own {adapter' : Adapter τ} {remaining : τ}
      (short : Time.before remaining adapter.timeout = true)
      (timeout : adapter'.timeout = adapter.timeout) (shared : adapter'.shared = adapter.shared)
      (clients : adapter'.clients =
        adapter.clients ++ [{ timeout := ownTimeout remaining, requests := [request] }]) :
      Begun adapter request ⟨⟨adapter.clients.length, true⟩, some remaining, request⟩ adapter'
  /-- The call uses the shared client, which is there already. -/
  | again {adapter' : Adapter τ} {remaining : Option τ} {client : Nat}
      (present : adapter.shared = some client)
      (timeout : adapter'.timeout = adapter.timeout) (shared : adapter'.shared = some client)
      (clients : adapter'.clients = adapter.clients.modify client
        fun client => { client with requests := client.requests ++ [request] }) :
      Begun adapter request ⟨⟨client, false⟩, remaining, request⟩ adapter'
  /-- The call is the first one that uses the shared client. -/
  | first {adapter' : Adapter τ} {remaining : Option τ}
      (absent : adapter.shared = none)
      (timeout : adapter'.timeout = adapter.timeout)
      (shared : adapter'.shared = some adapter.clients.length)
      (clients : adapter'.clients =
        adapter.clients ++ [{ timeout := adapter.timeout, requests := [request] }]) :
      Begun adapter request ⟨⟨adapter.clients.length, false⟩, remaining, request⟩ adapter'

omit [Time τ] in
/-- A request through the client that was made last is its first one. -/
private theorem clients_send_last (clients : List (ServiceClient τ)) (timeout : τ)
    (request : ServiceRequest) :
    changeAt (fun client : ServiceClient τ =>
        { client with requests := client.requests ++ [request] })
        clients.length (clients ++ [({ timeout := timeout } : ServiceClient τ)]) =
      clients ++ [{ timeout := timeout, requests := [request] }] := by
  rw [changeAt_eq_modify]
  induction clients with
  | nil => simp
  | cons client clients ih => simpa using ih

/-- A call starts in one of three ways. -/
theorem begun (adapter : Adapter τ) (s : Surroundings τ) (context : Option String)
    (request : ServiceRequest) :
    Begun adapter request (adapter.begin s context request).1
      (adapter.begin s context request).2.2 := by
  unfold begin
  generalize (s.context context).remaining s.clock.reading = remaining
  rcases hlimit : remaining.filter (Time.before · adapter.timeout) with _ | limit
  · rcases hshared : adapter.shared with _ | client
    · simp only [start, hlimit, hshared, send]
      exact .first hshared rfl rfl (clients_send_last _ _ _)
    · simp only [start, hlimit, hshared, send]
      exact .again hshared rfl rfl (changeAt_eq_modify _ _ _)
  · obtain ⟨rfl, hshort⟩ := Option.filter_eq_some_iff.mp hlimit
    simp only [start, hlimit, send]
    exact .own hshort rfl rfl (clients_send_last _ _ _)

/-! ## The balance -/

/-- The client was made for this call alone, which had less time left than the timeout of the
adapter, and is closed once if the call has ended. -/
structure Serves (adapter : Adapter τ) (client : ServiceClient τ) (visit : Visit τ)
    (done : Bool) : Prop where
  remaining : ∃ remaining, visit.remaining = some remaining ∧
    Time.before remaining adapter.timeout = true ∧ client.timeout = ownTimeout remaining
  requests : client.requests = [visit.request]
  closed : client.closed = if done then 1 else 0

/-- Only the timeout of the adapter matters to whom its clients serve. -/
theorem Serves.of_timeout {adapter adapter' : Adapter τ} {client : ServiceClient τ}
    {visit : Visit τ} {done : Bool} (h : Serves adapter client visit done)
    (timeout : adapter'.timeout = adapter.timeout) : Serves adapter' client visit done :=
  ⟨timeout ▸ h.remaining, h.requests, h.closed⟩

/-- A client is closed when its call ends. -/
theorem Serves.close {adapter : Adapter τ} {client : ServiceClient τ} {visit : Visit τ}
    (h : Serves adapter client visit false) :
    Serves adapter { client with closed := client.closed + 1 } visit true :=
  ⟨h.remaining, h.requests, congrArg (· + 1) h.closed⟩

/-- The clients of the adapter are those that the calls account for. -/
structure Balanced (adapter : Adapter τ) (ledger : Ledger τ) : Prop where
  /-- The shared client has the timeout of the adapter, and is never closed. -/
  shared : ∀ position, adapter.shared = some position →
    ∃ client, adapter.clients[position]? = some client ∧ client.timeout = adapter.timeout ∧
      client.closed = 0
  /-- The shared client is made for a call that uses it. -/
  used : ∀ position, adapter.shared = some position →
    ∃ i visit done, ledger i = some (visit, done) ∧ visit.session.client = position
  /-- Every other client serves a call of its own. -/
  other : ∀ position client, adapter.clients[position]? = some client →
    adapter.shared ≠ some position →
    ∃ i visit done, ledger i = some (visit, done) ∧ visit.session.client = position ∧
      Serves adapter client visit done
  /-- No two calls use the same client, unless it is the shared one. -/
  alone : ∀ i j visit visit' done done', ledger i = some (visit, done) →
    ledger j = some (visit', done') → visit.session.client = visit'.session.client →
    adapter.shared ≠ some visit.session.client → i = j
  /-- Every call that has started sent its request through the client that it uses. -/
  sent : ∀ i visit done, ledger i = some (visit, done) →
    ∃ client, adapter.clients[visit.session.client]? = some client ∧
      visit.request ∈ client.requests
  /-- A call owns the client that it uses, unless it is the shared one. -/
  owned : ∀ i visit done, ledger i = some (visit, done) →
    (visit.session.own = true ↔ adapter.shared ≠ some visit.session.client)

namespace Balanced

variable {adapter adapter' : Adapter τ} {ledger : Ledger τ} {i : Nat}

/-- Nothing has happened yet. -/
theorem fresh (clients : adapter.clients = []) (shared : adapter.shared = none) :
    Balanced adapter fun _ => none where
  shared position h := by simp [shared] at h
  used position h := by simp [shared] at h
  other position client h := by simp [clients] at h
  alone i j visit visit' done done' h := by simp at h
  sent i visit done h := by simp at h
  owned i visit done h := by simp at h

/-- A call that has started uses a client that exists. -/
theorem client_lt (h : Balanced adapter ledger) {visit : Visit τ} {done : Bool}
    (hi : ledger i = some (visit, done)) : visit.session.client < adapter.clients.length := by
  obtain ⟨client, hclient, -⟩ := h.sent i visit done hi
  exact (List.getElem?_eq_some_iff.mp hclient).1

/-- The shared client exists. -/
theorem shared_lt (h : Balanced adapter ledger) {position : Nat}
    (hshared : adapter.shared = some position) : position < adapter.clients.length := by
  obtain ⟨client, hclient, -⟩ := h.shared position hshared
  exact (List.getElem?_eq_some_iff.mp hclient).1

end Balanced

omit [Time τ] in
/-- An entry of a ledger that was changed at a position is the new one, or was there before. -/
theorem Ledger.update_cases {ledger : Ledger τ} {i j : Nat} {visit found : Visit τ}
    {done ended : Bool}
    (h : Function.update ledger i (some (visit, done)) j = some (found, ended)) :
    (j = i ∧ found = visit ∧ ended = done) ∨ (j ≠ i ∧ ledger j = some (found, ended)) := by
  by_cases hj : j = i
  · subst hj
    rw [Function.update_self] at h
    obtain ⟨rfl, rfl⟩ := Prod.mk.inj (Option.some.inj h)
    exact .inl ⟨rfl, rfl, rfl⟩
  · rw [Function.update_of_ne hj] at h
    exact .inr ⟨hj, h⟩

/-! ## A call starts -/

namespace Balanced

variable {adapter adapter' : Adapter τ} {ledger : Ledger τ} {i : Nat} {request : ServiceRequest}

omit [Time τ] in
/-- Entries stay when a position is used that was free. -/
private theorem kept (vacant : ledger i = none) (entry : Option (Visit τ × Bool)) {j : Nat}
    {found : Visit τ × Bool} (hj : ledger j = some found) :
    Function.update ledger i entry j = some found := by
  have hne : j ≠ i := by
    rintro rfl
    simp [vacant] at hj
  rw [Function.update_of_ne hne, hj]

/-- A new client sends the request of its call, and the others have sent theirs. -/
private theorem sent_append (h : Balanced adapter ledger) {new : ServiceClient τ} {own : Bool}
    {remaining : Option τ} (clients : adapter'.clients = adapter.clients ++ [new])
    (hnew : request ∈ new.requests) {j : Nat} {visit : Visit τ} {done : Bool}
    (hj : Function.update ledger i
      (some (⟨⟨adapter.clients.length, own⟩, remaining, request⟩, false)) j = some (visit, done)) :
    ∃ client, adapter'.clients[visit.session.client]? = some client ∧
      visit.request ∈ client.requests := by
  rcases Ledger.update_cases hj with ⟨rfl, rfl, rfl⟩ | ⟨-, old⟩
  · exact ⟨new, by rw [clients, List.getElem?_concat_length], hnew⟩
  · obtain ⟨client, hclient, hrequest⟩ := h.sent j visit done old
    have hlt := h.client_lt old
    exact ⟨client, by rw [clients, List.getElem?_append_left hlt, hclient], hrequest⟩

/-- A call that gets a client of its own is accounted for. -/
private theorem begin_own (h : Balanced adapter ledger) (vacant : ledger i = none)
    {remaining : τ} (short : Time.before remaining adapter.timeout = true)
    (timeout : adapter'.timeout = adapter.timeout) (shared : adapter'.shared = adapter.shared)
    (clients : adapter'.clients =
      adapter.clients ++ [{ timeout := ownTimeout remaining, requests := [request] }]) :
    Balanced adapter' (Function.update ledger i
      (some (⟨⟨adapter.clients.length, true⟩, some remaining, request⟩, false))) := by
  -- The client is a new one, so it is not the one that is shared.
  have hnew : adapter.shared ≠ some adapter.clients.length := fun hshared =>
    Nat.lt_irrefl _ (h.shared_lt hshared)
  constructor
  case shared =>
    intro position hshared
    rw [shared] at hshared
    obtain ⟨client, hclient, htimeout, hclosed⟩ := h.shared position hshared
    refine ⟨client, ?_, htimeout.trans timeout.symm, hclosed⟩
    rw [clients, List.getElem?_append_left (h.shared_lt hshared), hclient]
  case used =>
    intro position hshared
    rw [shared] at hshared
    obtain ⟨j, visit, done, hj, hvisit⟩ := h.used position hshared
    exact ⟨j, visit, done, kept vacant _ hj, hvisit⟩
  case other =>
    intro position client hclient hother
    rw [clients] at hclient
    rw [shared] at hother
    rcases getElem?_concat_cases hclient with ⟨rfl, rfl⟩ | ⟨-, hold⟩
    · exact ⟨i, _, _, Function.update_self .., rfl, ⟨remaining, rfl, timeout ▸ short, rfl⟩, rfl,
        rfl⟩
    · obtain ⟨j, visit, done, hj, hvisit, hserves⟩ := h.other position client hold hother
      exact ⟨j, visit, done, kept vacant _ hj, hvisit, hserves.of_timeout timeout⟩
  case alone =>
    intro j k visit visit' done done' hj hk hsame hother
    rw [shared] at hother
    rcases Ledger.update_cases hj with ⟨rfl, rfl, rfl⟩ | ⟨-, old⟩ <;>
      rcases Ledger.update_cases hk with ⟨rfl, rfl, rfl⟩ | ⟨-, old'⟩
    · rfl
    -- No earlier visit is to a client that was not there yet.
    · exact absurd (h.client_lt old') (hsame ▸ Nat.lt_irrefl _)
    · exact absurd (h.client_lt old) (hsame ▸ Nat.lt_irrefl _)
    · exact h.alone j k visit visit' done done' old old' hsame hother
  case sent => exact fun j visit done hj => h.sent_append clients (List.mem_singleton_self _) hj
  case owned =>
    intro j visit done hj
    rw [shared]
    rcases Ledger.update_cases hj with ⟨rfl, rfl, rfl⟩ | ⟨-, old⟩
    · simp [hnew]
    · exact h.owned j visit done old

/-- The first call that uses the shared client is accounted for. -/
private theorem begin_first (h : Balanced adapter ledger) (vacant : ledger i = none)
    (remaining : Option τ) (absent : adapter.shared = none)
    (timeout : adapter'.timeout = adapter.timeout)
    (shared : adapter'.shared = some adapter.clients.length)
    (clients : adapter'.clients =
      adapter.clients ++ [{ timeout := adapter.timeout, requests := [request] }]) :
    Balanced adapter' (Function.update ledger i
      (some (⟨⟨adapter.clients.length, false⟩, remaining, request⟩, false))) := by
  -- Whatever client was there before is not the one that is shared from now on.
  have hold : ∀ {n}, n < adapter.clients.length → adapter'.shared ≠ some n := by
    intro n hlt hsame
    rw [shared] at hsame
    exact Nat.ne_of_gt hlt (Option.some.inj hsame)
  constructor
  case shared =>
    intro position hshared
    rw [shared] at hshared
    cases hshared
    exact ⟨_, by rw [clients, List.getElem?_concat_length], timeout.symm, rfl⟩
  case used =>
    intro position hshared
    rw [shared] at hshared
    cases hshared
    exact ⟨i, _, _, Function.update_self .., rfl⟩
  case other =>
    intro position client hclient hother
    rw [clients] at hclient
    rcases getElem?_concat_cases hclient with ⟨rfl, rfl⟩ | ⟨-, hold⟩
    · exact absurd shared hother
    · obtain ⟨j, visit, done, hj, hvisit, hserves⟩ :=
        h.other position client hold (by simp [absent])
      exact ⟨j, visit, done, kept vacant _ hj, hvisit, hserves.of_timeout timeout⟩
  case alone =>
    intro j k visit visit' done done' hj hk hsame hother
    rcases Ledger.update_cases hj with ⟨rfl, rfl, rfl⟩ | ⟨-, old⟩
    · exact absurd shared hother
    · rcases Ledger.update_cases hk with ⟨rfl, rfl, rfl⟩ | ⟨-, old'⟩
      · exact absurd (h.client_lt old) (hsame ▸ Nat.lt_irrefl _)
      · exact h.alone j k visit visit' done done' old old' hsame (by simp [absent])
  case sent => exact fun j visit done hj => h.sent_append clients (List.mem_singleton_self _) hj
  case owned =>
    intro j visit done hj
    rcases Ledger.update_cases hj with ⟨rfl, rfl, rfl⟩ | ⟨-, old⟩
    · simp [shared]
    · have hown := (h.owned j visit done old).mpr (by simp [absent])
      exact iff_of_true hown (hold (h.client_lt old))

/-- A call that uses the shared client again is accounted for. -/
private theorem begin_again (h : Balanced adapter ledger) (vacant : ledger i = none)
    (remaining : Option τ) {position : Nat} (present : adapter.shared = some position)
    (timeout : adapter'.timeout = adapter.timeout) (shared : adapter'.shared = some position)
    (clients : adapter'.clients = adapter.clients.modify position
      fun client => { client with requests := client.requests ++ [request] }) :
    Balanced adapter' (Function.update ledger i
      (some (⟨⟨position, false⟩, remaining, request⟩, false))) := by
  have hsame : adapter'.shared = adapter.shared := shared.trans present.symm
  obtain ⟨client, hclient, htimeout, hclosed⟩ := h.shared position present
  have hchanged : adapter'.clients[position]? =
      some { client with requests := client.requests ++ [request] } := by
    rw [clients, List.getElem?_modify_eq, hclient]
    rfl
  constructor
  case shared =>
    intro found hfound
    rw [shared] at hfound
    cases hfound
    exact ⟨_, hchanged, htimeout.trans timeout.symm, hclosed⟩
  case used =>
    intro found hfound
    rw [shared] at hfound
    cases hfound
    exact ⟨i, _, _, Function.update_self .., rfl⟩
  -- The clients that are not shared are not touched.
  case other =>
    intro other found hfound hother
    have hne : position ≠ other := fun heq => hother (heq ▸ shared)
    rw [clients, List.getElem?_modify_ne _ _ hne] at hfound
    obtain ⟨j, visit, done, hj, hvisit, hserves⟩ := h.other other found hfound (hsame ▸ hother)
    exact ⟨j, visit, done, kept vacant _ hj, hvisit, hserves.of_timeout timeout⟩
  case alone =>
    intro j k visit visit' done done' hj hk hboth hother
    rcases Ledger.update_cases hj with ⟨rfl, rfl, rfl⟩ | ⟨-, old⟩
    · exact absurd shared hother
    · rcases Ledger.update_cases hk with ⟨rfl, rfl, rfl⟩ | ⟨-, old'⟩
      · exact absurd (hboth ▸ shared) hother
      · exact h.alone j k visit visit' done done' old old' hboth (hsame ▸ hother)
  case sent =>
    intro j visit done hj
    rcases Ledger.update_cases hj with ⟨rfl, rfl, rfl⟩ | ⟨-, old⟩
    · exact ⟨_, hchanged, by simp⟩
    -- An earlier request was put to the shared client as well, or to another one.
    · obtain ⟨found, hfound, hrequest⟩ := h.sent j visit done old
      by_cases hposition : position = visit.session.client
      · rw [← hposition, hclient] at hfound
        cases hfound
        exact ⟨_, hposition ▸ hchanged, by simp [hrequest]⟩
      · exact ⟨found, by rw [clients, List.getElem?_modify_ne _ _ hposition, hfound], hrequest⟩
  case owned =>
    intro j visit done hj
    rcases Ledger.update_cases hj with ⟨rfl, rfl, rfl⟩ | ⟨-, old⟩
    · simp [shared]
    · exact hsame ▸ h.owned j visit done old

/-- A call that starts is accounted for, whichever client it gets. -/
theorem begin (h : Balanced adapter ledger) (vacant : ledger i = none) (s : Surroundings τ)
    (context : Option String) (request : ServiceRequest) :
    Balanced (adapter.begin s context request).2.2
      (Function.update ledger i (some ((adapter.begin s context request).1, false))) := by
  have hbegun := begun adapter s context request
  generalize adapter.begin s context request = started at hbegun ⊢
  obtain ⟨visit, reply, adapter'⟩ := started
  cases hbegun with
  | own short timeout shared clients => exact h.begin_own vacant short timeout shared clients
  | again present timeout shared clients =>
    exact h.begin_again vacant _ present timeout shared clients
  | first absent timeout shared clients =>
    exact h.begin_first vacant _ absent timeout shared clients

/-! ## A call ends -/

omit [Time τ] in
/-- When a call ends, the ledger has the same visits as before. -/
private theorem visits_finish {visit : Visit τ} (hi : ledger i = some (visit, false)) (j : Nat)
    (found : Visit τ) :
    (∃ done, Function.update ledger i (some (visit, true)) j = some (found, done)) ↔
      ∃ done, ledger j = some (found, done) := by
  by_cases hj : j = i
  · subst hj
    simp [hi]
  · rw [Function.update_of_ne hj]

/-- Which calls have ended does not matter to who uses which client. -/
private theorem of_visits {ledger' : Ledger τ} (h : Balanced adapter ledger)
    (visits : ∀ j found, (∃ done, ledger' j = some (found, done)) ↔
      ∃ done, ledger j = some (found, done))
    (timeout : adapter'.timeout = adapter.timeout) (same : adapter'.shared = adapter.shared)
    (shared : ∀ position, adapter.shared = some position →
      adapter'.clients[position]? = adapter.clients[position]?)
    (requests : ∀ (position : Nat) client, adapter.clients[position]? = some client →
      ∃ later : ServiceClient τ, adapter'.clients[position]? = some later ∧
        later.requests = client.requests)
    (other : ∀ (position : Nat) client, adapter'.clients[position]? = some client →
      adapter.shared ≠ some position →
      ∃ j found done, ledger' j = some (found, done) ∧ found.session.client = position ∧
        Serves adapter client found done) :
    Balanced adapter' ledger' where
  shared position hshared := by
    rw [same] at hshared
    rw [shared position hshared, timeout]
    exact h.shared position hshared
  used position hshared := by
    obtain ⟨j, found, done, hj, hfound⟩ := h.used position (same ▸ hshared)
    obtain ⟨done', hj'⟩ := (visits j found).mpr ⟨done, hj⟩
    exact ⟨j, found, done', hj', hfound⟩
  other position client hclient hother := by
    obtain ⟨j, found, done, hj, hfound, hserves⟩ := other position client hclient (same ▸ hother)
    exact ⟨j, found, done, hj, hfound, hserves.of_timeout timeout⟩
  alone j k found found' done done' hj hk hboth hother := by
    obtain ⟨ended, hj⟩ := (visits j found).mp ⟨done, hj⟩
    obtain ⟨ended', hk⟩ := (visits k found').mp ⟨done', hk⟩
    exact h.alone j k found found' ended ended' hj hk hboth (same ▸ hother)
  -- Clients have changed at most in how often they were closed, so the requests are where they
  -- were.
  sent j found done hj := by
    obtain ⟨ended, hj⟩ := (visits j found).mp ⟨done, hj⟩
    obtain ⟨client, hclient, hrequest⟩ := h.sent j found ended hj
    obtain ⟨later, hlater, hsame⟩ := requests _ client hclient
    exact ⟨later, hlater, hsame ▸ hrequest⟩
  owned j found done hj := by
    obtain ⟨ended, hj⟩ := (visits j found).mp ⟨done, hj⟩
    rw [same]
    exact h.owned j found ended hj

/-- The clients of other calls serve these as before. -/
private theorem other_of_ne (h : Balanced adapter ledger) {visit : Visit τ}
    (hi : ledger i = some (visit, false)) {position : Nat} {client : ServiceClient τ}
    (hclient : adapter.clients[position]? = some client)
    (hother : adapter.shared ≠ some position) (hne : visit.session.client ≠ position) :
    ∃ j found done, Function.update ledger i (some (visit, true)) j = some (found, done) ∧
      found.session.client = position ∧ Serves adapter client found done := by
  obtain ⟨j, found, done, hj, hfound, hserves⟩ := h.other position client hclient hother
  have hji : j ≠ i := by
    rintro rfl
    rw [hi] at hj
    cases hj
    exact hne hfound
  exact ⟨j, found, done, by rw [Function.update_of_ne hji, hj], hfound, hserves⟩

/-- A call that used the shared client leaves all clients as they are. -/
private theorem finish_shared (h : Balanced adapter ledger) {visit : Visit τ}
    (hi : ledger i = some (visit, false))
    (hshared : adapter.shared = some visit.session.client) :
    Balanced adapter (Function.update ledger i (some (visit, true))) := by
  refine h.of_visits (visits_finish hi) rfl rfl (fun _ _ => rfl)
    (fun _ client hclient => ⟨client, hclient, rfl⟩) fun position client hclient hother => ?_
  exact h.other_of_ne hi hclient hother fun heq => hother (heq ▸ hshared)

/-- A call that had a client of its own leaves it closed, and the others as they are. -/
private theorem finish_own (h : Balanced adapter ledger) {visit : Visit τ}
    (hi : ledger i = some (visit, false))
    (hother : adapter.shared ≠ some visit.session.client) :
    Balanced { adapter with
      clients := adapter.clients.modify visit.session.client
        fun client => { client with closed := client.closed + 1 } }
      (Function.update ledger i (some (visit, true))) := by
  refine h.of_visits (visits_finish hi) rfl rfl ?shared ?requests ?other
  case shared =>
    intro position hshared
    exact List.getElem?_modify_ne _ _ fun heq => hother (heq ▸ hshared)
  case requests =>
    intro position client hclient
    by_cases hsame : visit.session.client = position
    · refine ⟨{ client with closed := client.closed + 1 }, ?_, rfl⟩
      rw [hsame, List.getElem?_modify_eq, hclient]
      rfl
    · exact ⟨client, by rw [List.getElem?_modify_ne _ _ hsame, hclient], rfl⟩
  case other =>
    intro position client hfound hposition
    by_cases hsame : visit.session.client = position
    · -- The client is that of the call, because no other call uses it.
      subst hsame
      obtain ⟨own, hclient, -⟩ := h.sent i visit false hi
      obtain ⟨j, found, done, hj, hmatch, hserves⟩ := h.other _ own hclient hother
      obtain rfl := h.alone j i found visit done false hj hi hmatch (hmatch ▸ hother)
      rw [hi] at hj
      cases hj
      rw [List.getElem?_modify_eq, hclient] at hfound
      cases hfound
      exact ⟨_, visit, true, Function.update_self .., rfl, hserves.close⟩
    · rw [List.getElem?_modify_ne _ _ hsame] at hfound
      exact h.other_of_ne hi hfound hposition hsame

/-- A call that ends, and had not ended before, is accounted for. -/
theorem finish (h : Balanced adapter ledger) {visit : Visit τ}
    (hi : ledger i = some (visit, false)) :
    Balanced (adapter.finish visit.session)
      (Function.update ledger i (some (visit, true))) := by
  have howned := h.owned i visit false hi
  unfold Adapter.finish
  rw [changeAt_eq_modify]
  split
  next hown => exact h.finish_own hi (howned.mp hown)
  next hown => exact h.finish_shared hi (Classical.not_not.mp (mt howned.mpr hown))

end Balanced

end Adapter

end Orchestration
