import Mathlib.Data.List.Nodup
import Orchestration.Sync.ReadWriteLock

/-!
# What the reader/writer lock excludes

The lock counts its readers and the writers that wait, and has a flag for the writer inside. As long
as threads give back only what they hold, these are in step with who really holds the lock and who
is blocked, in every interleaving of the threads (`Orderly`). So readers and writers exclude each
other, and no reader gets in before a writer that waits.

The lock is not reentrant, but it does not notice a reader that enters once more, and counts it
twice. Among threads that do not ask for what they hold, each one is counted once (`Apart`).

The main statement is `exclusion`.
-/

namespace Orchestration.Sync

/-- The threads that stand in a list with a mode, as often as they do. -/
def inMode (list : List (String × Mode)) (mode : Mode) : List String :=
  (list.filter (·.2 = mode)).map (·.1)

section

variable {list later : List (String × Mode)} {thread : String} {mode other : Mode}

theorem inMode_cons :
    inMode ((thread, mode) :: list) other =
      (if mode = other then [thread] else []) ++ inMode list other := by
  by_cases h : mode = other <;> simp [inMode, h]

theorem inMode_concat :
    inMode (list ++ [(thread, mode)]) other =
      inMode list other ++ if mode = other then [thread] else [] := by
  by_cases h : mode = other <;> simp [inMode, h]

/-- In which order the list is makes no difference to who stands there. -/
theorem inMode_perm (h : list.Perm later) : (inMode list mode).Perm (inMode later mode) :=
  (h.filter _).map _

theorem inMode_sublist : (inMode list mode).Sublist (list.map (·.1)) :=
  List.filter_sublist.map _

/-- A thread that is taken off a list no longer stands there with its mode. -/
theorem length_inMode_erase (h : (thread, mode) ∈ list) :
    (inMode list other).length =
      (if mode = other then 1 else 0) + (inMode (list.erase (thread, mode)) other).length := by
  rw [(inMode_perm (List.perm_cons_erase h)).length_eq, inMode_cons, List.length_append]
  split <;> rfl

end

namespace ReadWriteLock

/-! ## Who holds the lock, and who is blocked -/

/-- The threads that hold the lock in a mode; a thread that has entered twice stands here twice. -/
def holding (lock : ReadWriteLock) (mode : Mode) : List String :=
  inMode lock.holders mode

/-- Who waits for the lock, and in which mode. -/
def requests (lock : ReadWriteLock) : List (String × Mode) :=
  lock.waiters.map fun waiter => (waiter.thread, waiter.mode)

/-- The threads that are blocked in their request for the lock in a mode. -/
def blocked (lock : ReadWriteLock) (mode : Mode) : List String :=
  inMode lock.requests mode

/-- What threads can do: one that is blocked asks for nothing, one gives back only what it holds,
and only who waits tests a guard again, whether or not it was notified. -/
def Event.Admissible (lock : ReadWriteLock) : Event → Prop
  | .acquire thread _ => thread ∉ lock.requests.map (·.1)
  | .release thread mode => (thread, mode) ∈ lock.holders
  | .recheck waiter => waiter ∈ lock.waiters

instance (lock : ReadWriteLock) : (event : Event) → Decidable (event.Admissible lock)
  | .acquire thread _ => inferInstanceAs (Decidable (thread ∉ lock.requests.map (·.1)))
  | .release thread mode => inferInstanceAs (Decidable ((thread, mode) ∈ lock.holders))
  | .recheck waiter => inferInstanceAs (Decidable (waiter ∈ lock.waiters))

/-- What threads do that do not ask for what they hold already. -/
def Event.Disciplined (lock : ReadWriteLock) (event : Event) : Prop :=
  event.Admissible lock ∧
    ∀ thread mode, event = .acquire thread mode → thread ∉ lock.holders.map (·.1)

/-- The states of a lock that threads bring about with the steps that they are allowed to take, in
any interleaving. -/
inductive Reachable (allowed : ReadWriteLock → Event → Prop) : ReadWriteLock → Prop
  | free : Reachable allowed {}
  | step {lock : ReadWriteLock} (hbefore : Reachable allowed lock) (event : Event)
      (hallowed : allowed lock event) : Reachable allowed (lock.step event)

section

variable {lock : ReadWriteLock} {thread : String} {mode other : Mode} {waiter : Waiter}

/-! ## What the steps do -/

/-- The lock when a thread has made its request known: a writer counts as one that waits, even if it
is to enter at once. -/
def announced (lock : ReadWriteLock) : Mode → ReadWriteLock
  | .read => lock
  | .write => { lock with writersWaiting := lock.writersWaiting + 1 }

/-- The announcement of a writer does not shut its own guard. -/
theorem shut_announced : (lock.announced mode).shut mode = lock.shut mode := by
  cases mode <;> rfl

/-- A thread that finds its guard shut joins those who wait. -/
theorem acquire_of_shut (h : lock.shut mode = true) :
    lock.acquire thread mode =
      { lock.announced mode with waiters := lock.waiters ++ [⟨thread, mode, false⟩] } := by
  rw [← shut_announced] at h
  cases mode <;> exact if_pos h

/-- A thread that finds its guard open enters in the step in which it asks. -/
theorem acquire_of_open (h : lock.shut mode = false) :
    lock.acquire thread mode = (lock.announced mode).enter thread mode := by
  have hopen : ¬ (lock.announced mode).shut mode = true := by simp [shut_announced, h]
  cases mode <;> exact if_neg hopen

/-- What changes when a thread gives the lock back. -/
structure Released (lock : ReadWriteLock) (thread : String) (mode : Mode) (later : ReadWriteLock) :
    Prop where
  holders : later.holders = lock.holders.erase (thread, mode)
  readers : later.readers = lock.readers - if mode = Mode.read then 1 else 0
  writer : later.writer = (lock.writer && decide (mode = .read))
  writersWaiting : later.writersWaiting = lock.writersWaiting
  requests : later.requests = lock.requests

/-- Who is notified goes on waiting. -/
@[simp]
theorem requests_notifyAll : lock.notifyAll.requests = lock.requests := by
  simp [notifyAll, requests, Function.comp_def]

/-- A thread that holds the lock is forgotten once for each time that it has entered. -/
theorem forget_of_mem (h : (thread, mode) ∈ lock.holders) :
    lock.forget thread mode = { lock with holders := lock.holders.erase (thread, mode) } := by
  rw [forget, if_pos (List.contains_iff_mem.mpr h)]

/-- To give back what is held takes one holder off, and nobody out of the queue. -/
theorem released (h : (thread, mode) ∈ lock.holders) :
    Released lock thread mode (lock.release thread mode) := by
  cases mode with
  | read =>
    rw [release, forget_of_mem h]
    dsimp only
    split
    · exact ⟨rfl, rfl, by simp [notifyAll], rfl, requests_notifyAll⟩
    · exact ⟨rfl, rfl, by simp, rfl, rfl⟩
  | write =>
    rw [release, forget_of_mem h]
    exact ⟨rfl, by simp [notifyAll], by simp [notifyAll], rfl, requests_notifyAll⟩

/-- A thread that tests a guard that is shut goes on waiting, and nothing else changes. -/
theorem recheck_of_shut (h : lock.shut waiter.mode = true) :
    ∃ waiters, lock.recheck waiter = { lock with waiters } ∧
      { lock with waiters }.requests = lock.requests := by
  refine ⟨_, if_pos h, ?_⟩
  simp only [requests, List.map_map]
  refine List.map_congr_left fun other _ => ?_
  dsimp only [Function.comp]
  split <;> rfl

/-- A thread that tests a guard that is open enters and waits no longer. -/
theorem recheck_of_open (h : lock.shut waiter.mode = false) :
    lock.recheck waiter =
      { lock with waiters := lock.waiters.erase waiter }.enter waiter.thread waiter.mode :=
  if_neg (by simp [h])

/-- A waiter that leaves takes its request with it. -/
theorem perm_requests_erase (h : waiter ∈ lock.waiters) :
    lock.requests.Perm ((waiter.thread, waiter.mode) ::
      { lock with waiters := lock.waiters.erase waiter }.requests) :=
  (List.perm_cons_erase h).map _

/-- A thread that enters is the last one to hold the lock. -/
theorem holders_enter : (lock.enter thread mode).holders = lock.holders ++ [(thread, mode)] := by
  cases mode <;> rfl

/-- A thread that enters holds the lock in its mode, once more than before. -/
theorem holding_enter :
    (lock.enter thread mode).holding other =
      lock.holding other ++ if mode = other then [thread] else [] := by
  cases mode <;> exact inMode_concat

/-- A thread that asks holds the lock if its guard was open. -/
theorem holding_acquire :
    (lock.acquire thread mode).holding other =
      lock.holding other ++ if lock.shut mode = false ∧ mode = other then [thread] else [] := by
  cases hguard : lock.shut mode with
  | true =>
    rw [acquire_of_shut hguard]
    cases mode <;> simp [holding, announced]
  | false =>
    rw [acquire_of_open hguard, holding_enter]
    cases mode <;> simp [holding, announced]

/-- A thread that tests its guard holds the lock if the guard is open. -/
theorem holding_recheck :
    (lock.recheck waiter).holding other = lock.holding other ++
      if lock.shut waiter.mode = false ∧ waiter.mode = other then [waiter.thread] else [] := by
  cases hguard : lock.shut waiter.mode with
  | true =>
    obtain ⟨waiters, hrecheck, -⟩ := recheck_of_shut hguard
    simp [hrecheck, holding]
  | false =>
    rw [recheck_of_open hguard, holding_enter]
    simp [holding]

@[simp]
theorem readers_enter :
    (lock.enter thread mode).readers = lock.readers + if mode = Mode.read then 1 else 0 := by
  cases mode <;> simp [enter]

@[simp]
theorem writer_enter :
    (lock.enter thread mode).writer = (lock.writer || decide (mode = .write)) := by
  cases mode <;> simp [enter]

/-- A writer that enters is no longer one that waits. -/
theorem writersWaiting_enter :
    (lock.enter thread mode).writersWaiting =
      lock.writersWaiting - if mode = Mode.write then 1 else 0 := by
  cases mode <;> simp [enter]

/-- A thread that enters takes nobody out of the queue. -/
@[simp]
theorem requests_enter : (lock.enter thread mode).requests = lock.requests := by
  cases mode <;> rfl

/-! ## Readers and writers exclude each other -/

/-- The number of readers and the flag of the writer are in step with who holds the lock. -/
structure Exclusive (lock : ReadWriteLock) : Prop where
  readers : lock.readers = (lock.holding .read).length
  writer : (lock.holding .write).length = if lock.writer then 1 else 0
  alone : lock.writer = true → lock.readers = 0

/-- Who waits does not matter. -/
theorem Exclusive.congr {later : ReadWriteLock} (h : Exclusive lock)
    (hholders : later.holders = lock.holders) (hreaders : later.readers = lock.readers)
    (hwriter : later.writer = lock.writer) : Exclusive later where
  readers := by rw [hreaders, h.readers, holding, holding, hholders]
  writer := by rw [hwriter, ← h.writer, holding, holding, hholders]
  alone := by rw [hwriter, hreaders]; exact h.alone

/-- A thread that finds its guard open may enter. -/
theorem Exclusive.enter (h : Exclusive lock) (hopen : lock.shut mode = false) (thread : String) :
    Exclusive (lock.enter thread mode) := by
  have hwriter := h.writer
  cases mode with
  | read =>
    obtain ⟨hnone, -⟩ : lock.writer = false ∧ lock.writersWaiting = 0 := by simpa [shut] using hopen
    rw [hnone] at hwriter
    refine ⟨?_, ?_, ?_⟩
    · simp [holding_enter, h.readers]
    · simpa [holding_enter, hnone] using hwriter
    · simp [hnone]
  | write =>
    obtain ⟨hnone, hreaders⟩ : lock.writer = false ∧ lock.readers = 0 := by
      simpa [shut] using hopen
    rw [hnone] at hwriter
    refine ⟨?_, ?_, ?_⟩
    · simp [holding_enter, h.readers]
    · simpa [holding_enter] using hwriter
    · simp [hreaders]

/-- A thread that gives back what it holds leaves the counts in step. -/
theorem Exclusive.release (h : Exclusive lock) (hheld : (thread, mode) ∈ lock.holders) :
    Exclusive (lock.release thread mode) := by
  have hreleased := released hheld
  have hreaders := h.readers
  have hwriter := h.writer
  have herase : ∀ other, (lock.holding other).length =
      (if mode = other then 1 else 0) + ((lock.release thread mode).holding other).length := by
    intro other
    rw [holding, holding, hreleased.holders]
    exact length_inMode_erase hheld
  rw [herase] at hreaders hwriter
  cases mode with
  | read =>
    refine ⟨?_, ?_, fun hinside => ?_⟩
    · rw [hreleased.readers, hreaders, if_pos rfl, if_pos rfl]
      omega
    · simpa [hreleased.writer] using hwriter
    · -- With a writer inside there was no reader that could leave.
      have hinside : lock.writer = true := by simpa [hreleased.writer] using hinside
      have hnone := h.alone hinside
      rw [hreaders, if_pos rfl] at hnone
      omega
  | write =>
    refine ⟨?_, ?_, fun hinside => ?_⟩
    · simpa [hreleased.readers] using hreaders
    · rw [hreleased.writer]
      cases hflag : lock.writer <;> simp_all
    · simp [hreleased.writer] at hinside

/-! ## Steps keep the lock in order -/

/-- The counters of a lock are in step with its holders and with those who are blocked. -/
structure Orderly (lock : ReadWriteLock) : Prop extends Exclusive lock where
  writersWaiting : lock.writersWaiting = (lock.blocked .write).length
  distinct : (lock.requests.map (·.1)).Nodup

/-- A lock that nobody has asked for is in order. -/
theorem orderly_free : Orderly {} :=
  ⟨⟨rfl, rfl, fun _ => rfl⟩, rfl, List.nodup_nil⟩

/-- A step that changes nothing for those who wait. -/
theorem Orderly.of_requests {later : ReadWriteLock} (h : Orderly lock) (hlater : Exclusive later)
    (hcount : later.writersWaiting = lock.writersWaiting)
    (hrequests : later.requests = lock.requests) : Orderly later :=
  ⟨hlater, by rw [hcount, h.writersWaiting, blocked, blocked, hrequests], hrequests ▸ h.distinct⟩

/-- A thread that is not blocked may ask. -/
theorem Orderly.acquire (h : Orderly lock) (hnew : thread ∉ lock.requests.map (·.1)) :
    Orderly (lock.acquire thread mode) := by
  cases hguard : lock.shut mode with
  | true =>
    rw [acquire_of_shut hguard]
    set joined : ReadWriteLock :=
      { lock.announced mode with waiters := lock.waiters ++ [⟨thread, mode, false⟩] }
    have hrequests : joined.requests = lock.requests ++ [(thread, mode)] := by
      simp [joined, requests]
    refine ⟨h.congr ?_ ?_ ?_, ?_, ?_⟩
    · cases mode <;> rfl
    · cases mode <;> rfl
    · cases mode <;> rfl
    · have hcount := h.writersWaiting
      rw [blocked] at hcount
      rw [blocked, hrequests, inMode_concat]
      cases mode <;> simp [joined, announced, hcount]
    · rw [hrequests, List.map_append, List.map_singleton,
        (List.perm_append_singleton _ _).nodup_iff]
      exact List.nodup_cons.mpr ⟨hnew, h.distinct⟩
  | false =>
    have hopen : (lock.announced mode).shut mode = false := by rw [shut_announced, hguard]
    have hexclusive : Exclusive (lock.announced mode) := by
      cases mode <;> exact h.congr rfl rfl rfl
    rw [acquire_of_open hguard]
    refine h.of_requests (hexclusive.enter hopen thread) ?_ ?_
    · -- A writer that enters at once has counted as waiting and counts no longer.
      cases mode with
      | read => rfl
      | write => exact Int.add_sub_cancel _ _
    · cases mode <;> rfl

/-- A thread may give back what it holds. -/
theorem Orderly.release (h : Orderly lock) (hheld : (thread, mode) ∈ lock.holders) :
    Orderly (lock.release thread mode) :=
  have hreleased := released hheld
  h.of_requests (h.toExclusive.release hheld) hreleased.writersWaiting hreleased.requests

/-- A thread that waits may test its guard. -/
theorem Orderly.recheck (h : Orderly lock) (hwaits : waiter ∈ lock.waiters) :
    Orderly (lock.recheck waiter) := by
  cases hguard : lock.shut waiter.mode with
  | true =>
    obtain ⟨waiters, hrecheck, hrequests⟩ := recheck_of_shut hguard
    rw [hrecheck]
    exact h.of_requests (h.congr rfl rfl rfl) rfl hrequests
  | false =>
    set left : ReadWriteLock := { lock with waiters := lock.waiters.erase waiter }
    have hexclusive : Exclusive left := h.congr rfl rfl rfl
    have hperm := perm_requests_erase hwaits
    have hcount : lock.writersWaiting =
        (if waiter.mode = .write then 1 else 0) + (left.blocked .write).length := by
      rw [h.writersWaiting, blocked, (inMode_perm hperm).length_eq, inMode_cons, List.length_append]
      split <;> simp [left, blocked]
    rw [recheck_of_open hguard]
    refine ⟨hexclusive.enter hguard waiter.thread, ?_, ?_⟩
    · rw [blocked, requests_enter, writersWaiting_enter]
      change lock.writersWaiting - _ = ((left.blocked .write).length : Int)
      rw [hcount]
      split <;> omega
    · rw [requests_enter]
      exact (List.nodup_cons.mp ((hperm.map _).nodup_iff.mp h.distinct)).2

/-- **Step law.** No step of the threads brings the lock out of order. -/
theorem Orderly.step (h : Orderly lock) {event : Event} (hadmissible : event.Admissible lock) :
    Orderly (lock.step event) := by
  cases event with
  | acquire thread mode => exact h.acquire hadmissible
  | release thread mode => exact h.release hadmissible
  | recheck waiter => exact h.recheck hadmissible

/-- A reader gets in only if the guard of the readers is open. -/
theorem shut_of_more_readers {event : Event} (hadmissible : event.Admissible lock)
    (hmore : (lock.holding .read).length < ((lock.step event).holding .read).length) :
    lock.shut .read = false := by
  cases event with
  | acquire thread mode =>
    rw [step, holding_acquire] at hmore
    split at hmore
    next h => exact h.2 ▸ h.1
    next => simp at hmore
  | release thread mode =>
    -- Who leaves does not get in.
    have hleft : (inMode lock.holders .read).length = (if mode = .read then 1 else 0) +
        (inMode (lock.holders.erase (thread, mode)) .read).length := length_inMode_erase hadmissible
    rw [← (released hadmissible).holders] at hleft
    rw [step, holding, holding] at hmore
    omega
  | recheck waiter =>
    rw [step, holding_recheck] at hmore
    split at hmore
    next h => exact h.2 ▸ h.1
    next => simp at hmore

/-! ## Threads that do not ask twice -/

/-- The threads that hold the lock or wait for it, as often as they do. -/
def threads (lock : ReadWriteLock) : List String :=
  lock.holders.map (·.1) ++ lock.requests.map (·.1)

/-- A thread that asks for the lock holds it or waits for it afterwards. -/
theorem perm_threads_acquire :
    (lock.acquire thread mode).threads.Perm (thread :: lock.threads) := by
  cases hguard : lock.shut mode with
  | true =>
    have hthreads : (lock.acquire thread mode).threads = lock.threads ++ [thread] := by
      rw [acquire_of_shut hguard]
      cases mode <;> simp [threads, requests, announced]
    rw [hthreads]
    exact List.perm_append_singleton _ _
  | false =>
    have hthreads : (lock.acquire thread mode).threads =
        lock.holders.map (·.1) ++ thread :: lock.requests.map (·.1) := by
      rw [acquire_of_open hguard, threads, holders_enter, requests_enter]
      cases mode <;> simp [requests, announced]
    rw [hthreads]
    exact List.perm_middle

/-- To give the lock back brings no thread in. -/
theorem threads_release_sublist (h : (thread, mode) ∈ lock.holders) :
    (lock.release thread mode).threads.Sublist lock.threads := by
  have hreleased := released h
  rw [threads, threads, hreleased.holders, hreleased.requests]
  exact (List.erase_sublist.map _).append (List.Sublist.refl _)

/-- A thread that tests its guard again stops waiting only to hold the lock. -/
theorem perm_threads_recheck (h : waiter ∈ lock.waiters) :
    (lock.recheck waiter).threads.Perm lock.threads := by
  cases hguard : lock.shut waiter.mode with
  | true =>
    obtain ⟨waiters, hrecheck, hrequests⟩ := recheck_of_shut hguard
    rw [hrecheck, threads, threads, hrequests]
  | false =>
    have hperm := (perm_requests_erase h).map (·.1)
    rw [recheck_of_open hguard, threads, threads, holders_enter, requests_enter]
    have hmiddle : ∀ list, ((lock.holders ++ [(waiter.thread, waiter.mode)]).map (·.1) ++ list) =
        lock.holders.map (·.1) ++ waiter.thread :: list := by simp
    rw [hmiddle]
    exact (hperm.append_left _).symm

/-- Among threads that do not ask for what they hold, each one holds the lock once or waits once. -/
theorem nodup_threads (h : Reachable Event.Disciplined lock) : lock.threads.Nodup := by
  induction h with
  | free => exact List.nodup_nil
  | @step lock hbefore event hallowed ih =>
    obtain ⟨hadmissible, hdisciplined⟩ := hallowed
    cases event with
    | acquire thread mode =>
      have hnew : thread ∉ lock.threads := by
        rw [threads, List.mem_append, not_or]
        exact ⟨hdisciplined thread mode rfl, hadmissible⟩
      exact perm_threads_acquire.nodup_iff.mpr (List.nodup_cons.mpr ⟨hnew, ih⟩)
    | release thread mode => exact ih.sublist (threads_release_sublist hadmissible)
    | recheck waiter => exact (perm_threads_recheck hadmissible).nodup_iff.mpr ih

/-! ## Exclusion -/

/-- **Run law.** Threads that give back only what they hold keep the lock in order. -/
theorem orderly (h : Reachable Event.Admissible lock) : Orderly lock := by
  induction h with
  | free => exact orderly_free
  | step hbefore event hallowed ih => exact ih.step hallowed

/-- **Exclusion.** However many threads there are and however their steps interleave, as long as
they give back only what they hold: the lock counts the readers inside, each of them once if none
asks for what it holds; it knows of the writer inside, of whom there is at most one and then no
reader; it counts the writers that are blocked; and no step lets a reader in past a writer that is
inside or blocked. -/
theorem exclusion (h : Reachable Event.Admissible lock) :
    lock.readers = (lock.holding .read).length ∧
      (Reachable Event.Disciplined lock → (lock.holding .read).Nodup) ∧
      (lock.writer = true ↔ ∃ thread, lock.holding .write = [thread]) ∧
      (lock.writer = false ↔ lock.holding .write = []) ∧
      (lock.writer = true → lock.readers = 0) ∧
      lock.writersWaiting = (lock.blocked .write).length ∧ (lock.blocked .write).Nodup ∧
      ∀ event : Event, event.Admissible lock →
        (lock.holding .read).length < ((lock.step event).holding .read).length →
          lock.holding .write = [] ∧ lock.blocked .write = [] := by
  have horderly := orderly h
  have hwriter := horderly.writer
  have hnone : lock.writer = false ↔ lock.holding .write = [] := by
    rw [← List.length_eq_zero_iff, hwriter]
    cases lock.writer <;> simp
  refine ⟨horderly.readers, fun hdisciplined => ?_, ?_, hnone, horderly.alone,
    horderly.writersWaiting, horderly.distinct.sublist inMode_sublist,
    fun event hadmissible hmore => ?_⟩
  · have hholders := (nodup_threads hdisciplined).sublist (List.sublist_append_left _ _)
    exact hholders.sublist inMode_sublist
  · rw [← List.length_eq_one_iff, hwriter]
    cases lock.writer <;> simp
  · -- The guard of the readers looks at the flag and at the writers that wait.
    obtain ⟨hflag, hwaiting⟩ : lock.writer = false ∧ lock.writersWaiting = 0 := by
      simpa [shut] using shut_of_more_readers hadmissible hmore
    refine ⟨hnone.mp hflag, List.length_eq_zero_iff.mp ?_⟩
    have hcount := horderly.writersWaiting
    omega

end

/-- A reader is inside, a writer waits for it to leave, and another reader waits behind the writer;
then the first reader leaves and the writer tests its guard again. -/
def handover : List Event :=
  [.acquire "reader" .read, .acquire "writer" .write, .acquire "late" .read,
    .release "reader" .read, .recheck ⟨"writer", .write, true⟩]

/-- After the handover the writer is inside, and the late reader is still kept out. -/
theorem exclusion_handover :
    let lock := handover.foldl step {}
    Reachable Event.Admissible lock ∧ lock.writer = true ∧ lock.readers = 0 ∧
      lock.holding .write = ["writer"] ∧ lock.blocked .read = ["late"] ∧
      lock.writersWaiting = (lock.blocked .write).length := by
  intro lock
  have hreachable : Reachable Event.Admissible lock :=
    .step (.step (.step (.step (.step .free (.acquire "reader" .read) (by decide))
      (.acquire "writer" .write) (by decide)) (.acquire "late" .read) (by decide))
      (.release "reader" .read) (by decide)) (.recheck ⟨"writer", .write, true⟩) (by decide)
  obtain ⟨-, -, -, -, halone, hwaiting, -, -⟩ := exclusion hreachable
  have hwriter : lock.writer = true := by decide
  exact ⟨hreachable, hwriter, halone hwriter, by decide, by decide, hwaiting⟩

end ReadWriteLock

end Orchestration.Sync
