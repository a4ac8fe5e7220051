/-!
# Reader/writer lock

Any number of readers hold the lock together; a writer holds it alone. A writer that waits keeps new
readers out. The lock is a monitor: each operation is one step, a thread whose guard is shut waits
until it is notified, and a notified thread tests its guard again in a step of its own. A release
notifies everyone when the last reader or the writer leaves. The lock does not check who releases.
-/

namespace Orchestration.Sync

/-- How a thread wants to hold the lock. -/
inductive Mode where
  | read
  | write
deriving DecidableEq, Repr

/-- A thread that waits for the lock. -/
structure Waiter where
  thread : String
  mode : Mode
  /-- The thread was notified and has not tested its guard since. -/
  notified : Bool := false
deriving DecidableEq, Repr

/-- The state of a lock. -/
structure ReadWriteLock where
  /-- The number of readers, as the lock counts them. -/
  readers : Int := 0
  /-- A writer is inside. -/
  writer : Bool := false
  /-- The number of writers that wait, as the lock counts them. -/
  writersWaiting : Int := 0
  /-- Who holds the lock, in order of entry. -/
  holders : List (String × Mode) := []
  /-- Who waits for the lock, in order of arrival. -/
  waiters : List Waiter := []
deriving DecidableEq, Repr

namespace ReadWriteLock

/-- The guard that keeps a thread out. -/
def shut (lock : ReadWriteLock) : Mode → Bool
  | .read => lock.writer || lock.writersWaiting ≠ 0
  | .write => lock.writer || lock.readers ≠ 0

/-- A thread enters. -/
def enter (lock : ReadWriteLock) (thread : String) (mode : Mode) : ReadWriteLock :=
  match mode with
  | .read =>
    { lock with readers := lock.readers + 1, holders := lock.holders ++ [(thread, .read)] }
  | .write =>
    { lock with
      writersWaiting := lock.writersWaiting - 1
      writer := true
      holders := lock.holders ++ [(thread, .write)] }

/-- A thread asks for the lock. A writer counts as waiting before it tests its guard. -/
def acquire (lock : ReadWriteLock) (thread : String) (mode : Mode) : ReadWriteLock :=
  let lock := match mode with
    | .read => lock
    | .write => { lock with writersWaiting := lock.writersWaiting + 1 }
  if lock.shut mode then { lock with waiters := lock.waiters ++ [⟨thread, mode, false⟩] }
  else lock.enter thread mode

/-- Notifies everyone who waits. -/
def notifyAll (lock : ReadWriteLock) : ReadWriteLock :=
  { lock with waiters := lock.waiters.map fun waiter => { waiter with notified := true } }

/-- Forgets that a thread holds the lock. -/
def forget (lock : ReadWriteLock) (thread : String) (mode : Mode) : ReadWriteLock :=
  if lock.holders.contains (thread, mode) then
    { lock with holders := lock.holders.erase (thread, mode) }
  else { lock with holders := lock.holders.filter (·.1 ≠ thread) }

/-- A thread gives the lock back. -/
def release (lock : ReadWriteLock) (thread : String) (mode : Mode) : ReadWriteLock :=
  let lock := lock.forget thread mode
  match mode with
  | .read =>
    -- The count may fall below zero: nobody checks who releases.
    let lock := { lock with readers := lock.readers - 1 }
    if lock.readers = 0 then lock.notifyAll else lock
  | .write => { lock with writer := false }.notifyAll

/-- A notified thread tests its guard again: it enters, or it goes on waiting. -/
def recheck (lock : ReadWriteLock) (waiter : Waiter) : ReadWriteLock :=
  if lock.shut waiter.mode then
    { lock with
      waiters := lock.waiters.map fun w => if w = waiter then { w with notified := false } else w }
  else { lock with waiters := lock.waiters.erase waiter }.enter waiter.thread waiter.mode

/-- Every notified thread tests its guard, in order of arrival. -/
def settle (lock : ReadWriteLock) : ReadWriteLock :=
  (lock.waiters.filter (·.notified)).foldl recheck lock

/-- A step of the lock. -/
inductive Event where
  | acquire (thread : String) (mode : Mode)
  | release (thread : String) (mode : Mode)
  | recheck (waiter : Waiter)

/-- The lock after a step. -/
def step (lock : ReadWriteLock) : Event → ReadWriteLock
  | .acquire thread mode => lock.acquire thread mode
  | .release thread mode => lock.release thread mode
  | .recheck waiter => lock.recheck waiter

end ReadWriteLock

end Orchestration.Sync
