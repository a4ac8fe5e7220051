import Orchestration.Proofs.Sync.Exclusion

/-!
# The reader/writer lock loses no wake-up

A thread that finds its guard shut sleeps until it is notified, and a release notifies only when
the last reader or the writer leaves. That is enough: whoever sleeps and was not notified finds its
guard still shut (`Attentive`), because every step that opens a guard notifies everybody. The one
step that lowers the number of waiting writers without a notification lets a writer in, and from
then on that writer keeps the readers out.

So when all who were notified have tested their guards again, which they always can (`settled`),
those who are still blocked have a reason to be. The main statement is `no_lost_wakeup`.
-/

namespace Orchestration.Sync.ReadWriteLock

variable {lock : ReadWriteLock} {thread : String} {mode other : Mode} {waiter : Waiter}

/-- Whoever waits and was not notified has its guard shut. -/
def Attentive (lock : ReadWriteLock) : Prop :=
  ∀ waiter ∈ lock.waiters, waiter.notified = false → lock.shut waiter.mode = true

/-- All who were notified have tested their guards again. -/
def Quiet (lock : ReadWriteLock) : Prop :=
  ∀ waiter ∈ lock.waiters, waiter.notified = false

/-! ## Who keeps a guard shut -/

/-- A reader has to wait for the writer inside and for writers that wait. -/
theorem shut_read_iff :
    lock.shut .read = true ↔ lock.writer = true ∨ lock.writersWaiting ≠ 0 := by
  simp [shut]

/-- A writer has to wait for whoever is inside. -/
theorem shut_write_iff : lock.shut .write = true ↔ lock.writer = true ∨ lock.readers ≠ 0 := by
  simp [shut]

/-- Writers are kept out by someone who holds the lock. -/
theorem Exclusive.holders_ne_nil (h : Exclusive lock) (hshut : lock.shut .write = true) :
    lock.holders ≠ [] := by
  intro hnobody
  have hholding : ∀ mode, lock.holding mode = [] := by
    intro mode
    rw [holding, hnobody]
    rfl
  have hreaders := h.readers
  have hwriter := h.writer
  rw [hholding] at hreaders hwriter
  rcases shut_write_iff.mp hshut with hinside | hsome
  · rw [hinside] at hwriter
    cases hwriter
  · exact hsome hreaders

/-- Readers are kept out by a writer that is inside or blocked. -/
theorem Orderly.writer_of_shut (h : Orderly lock) (hshut : lock.shut .read = true) :
    lock.holding .write ≠ [] ∨ lock.blocked .write ≠ [] := by
  have hwriter := h.writer
  have hwaiting := h.writersWaiting
  rcases shut_read_iff.mp hshut with hinside | hsome
  · left
    rintro hnone
    rw [hinside, hnone] at hwriter
    cases hwriter
  · right
    rintro hnone
    rw [hnone] at hwaiting
    exact hsome hwaiting

/-! ## Steps keep the sleepers right -/

/-- A thread that enters opens no guard. A writer no longer counts as waiting then, but it is
inside. -/
theorem shut_enter (hcount : 0 ≤ lock.readers) (hshut : lock.shut other = true) :
    (lock.enter thread mode).shut other = true := by
  cases mode with
  | read =>
    cases other with
    | read => exact hshut
    | write =>
      rw [shut_write_iff] at hshut ⊢
      refine hshut.imp_right fun _ => ?_
      rw [readers_enter, if_pos rfl]
      omega
  | write => cases other <;> rfl

/-- A thread that asks opens no guard. -/
theorem shut_announced_of_shut (hcount : 0 ≤ lock.writersWaiting) (hshut : lock.shut other = true) :
    (lock.announced mode).shut other = true := by
  cases mode with
  | read => exact hshut
  | write =>
    cases other with
    | read =>
      rw [shut_read_iff] at hshut ⊢
      refine hshut.imp_right fun _ => ?_
      show lock.writersWaiting + 1 ≠ 0
      omega
    | write => exact hshut

theorem Orderly.readers_nonneg (h : Orderly lock) : 0 ≤ lock.readers := by
  have hreaders := h.readers
  omega

theorem Orderly.writersWaiting_nonneg (h : Orderly lock) : 0 ≤ lock.writersWaiting := by
  have hwaiting := h.writersWaiting
  omega

/-- A lock that has notified all who wait is attentive. -/
theorem attentive_notifyAll : lock.notifyAll.Attentive := by
  intro waiter hmem hsleeps
  obtain ⟨sleeper, -, rfl⟩ := List.mem_map.mp hmem
  cases hsleeps

/-- A thread that asks opens no guard, and waits only behind one that is shut. -/
theorem Attentive.acquire (h : Attentive lock) (horderly : Orderly lock) :
    Attentive (lock.acquire thread mode) := by
  have hstays : ∀ {other}, lock.shut other = true → (lock.announced mode).shut other = true :=
    shut_announced_of_shut horderly.writersWaiting_nonneg
  cases hguard : lock.shut mode with
  | true =>
    rw [acquire_of_shut hguard]
    intro waiter hmem hsleeps
    rcases List.mem_append.mp hmem with hmem | hmem
    · exact hstays (h waiter hmem hsleeps)
    · obtain rfl := List.mem_singleton.mp hmem
      exact hstays hguard
  | false =>
    rw [acquire_of_open hguard]
    have hcount : 0 ≤ (lock.announced mode).readers := by
      cases mode <;> exact horderly.readers_nonneg
    intro waiter hmem hsleeps
    have hmem : waiter ∈ lock.waiters := by cases mode <;> exact hmem
    exact shut_enter hcount (hstays (h waiter hmem hsleeps))

/-- A thread that gives the lock back notifies those whose guards it may have opened. -/
theorem Attentive.release (h : Attentive lock) (hheld : (thread, mode) ∈ lock.holders) :
    Attentive (lock.release thread mode) := by
  cases mode with
  | write => exact attentive_notifyAll
  | read =>
    rw [ReadWriteLock.release, forget_of_mem hheld]
    dsimp only
    split
    next hlast => exact attentive_notifyAll
    next hmore =>
      -- Some reader is left, so the writers are kept out as before.
      intro waiter hmem hsleeps
      have hshut := h waiter hmem hsleeps
      cases hmode : waiter.mode with
      | read =>
        rw [hmode] at hshut
        exact hshut
      | write => exact shut_write_iff.mpr (.inr hmore)

/-- What becomes of the waiters when one of them finds its guard shut again. -/
theorem mem_waiters_of_shut {sleeper : Waiter} (hguard : lock.shut waiter.mode = true)
    (hmem : sleeper ∈ (lock.recheck waiter).waiters) :
    sleeper = { waiter with notified := false } ∨ sleeper ∈ lock.waiters ∧ sleeper ≠ waiter := by
  rw [recheck, if_pos hguard] at hmem
  obtain ⟨before, hbefore, rfl⟩ := List.mem_map.mp hmem
  split
  next heq => exact .inl (heq ▸ rfl)
  next hne => exact .inr ⟨hbefore, hne⟩

/-- A thread whose guard is open is taken off the list of those who wait. -/
theorem waiters_of_open (hguard : lock.shut waiter.mode = false) :
    (lock.recheck waiter).waiters = lock.waiters.erase waiter := by
  rw [recheck_of_open hguard]
  cases waiter.mode <;> rfl

/-- A thread that tests its guard leaves the lock attentive, whether it enters or goes on waiting.
-/
theorem Attentive.recheck (h : Attentive lock) (horderly : Orderly lock) :
    Attentive (lock.recheck waiter) := by
  cases hguard : lock.shut waiter.mode with
  | true =>
    intro sleeper hmem hsleeps
    obtain ⟨waiters, hrecheck, -⟩ := recheck_of_shut hguard
    have hshut : (lock.recheck waiter).shut sleeper.mode = lock.shut sleeper.mode := by
      rw [hrecheck]
      cases sleeper.mode <;> rfl
    rw [hshut]
    rcases mem_waiters_of_shut hguard hmem with rfl | ⟨hbefore, -⟩
    · exact hguard
    · exact h sleeper hbefore hsleeps
  | false =>
    intro sleeper hmem hsleeps
    rw [waiters_of_open hguard] at hmem
    rw [recheck_of_open hguard]
    have hshut := h sleeper (List.mem_of_mem_erase hmem) hsleeps
    have hleft : { lock with waiters := lock.waiters.erase waiter }.shut sleeper.mode = true := by
      cases hmode : sleeper.mode <;> rwa [hmode] at hshut
    exact shut_enter horderly.readers_nonneg hleft

/-- **Step law.** No step of the threads leaves a sleeper behind an open guard. -/
theorem Attentive.step (h : Attentive lock) (horderly : Orderly lock) {event : Event}
    (hadmissible : event.Admissible lock) : Attentive (lock.step event) := by
  cases event with
  | acquire thread mode => exact h.acquire horderly
  | release thread mode => exact h.release hadmissible
  | recheck waiter => exact h.recheck horderly

/-- **Run law.** Threads that give back only what they hold leave no sleeper behind an open
guard. -/
theorem attentive (h : Reachable Event.Admissible lock) : Attentive lock := by
  induction h with
  | free => exact fun _ hmem => absurd hmem List.not_mem_nil
  | step hbefore event hallowed ih => exact ih.step (orderly hbefore) hallowed

/-! ## Everyone who was notified can test its guard again -/

/-- Nobody waits twice. -/
theorem Orderly.nodup_waiters (h : Orderly lock) : lock.waiters.Nodup := by
  have hdistinct := h.distinct
  rw [requests, List.map_map] at hdistinct
  exact hdistinct.of_map _

/-- A waiter that tests its guard again leaves the others waiting as they were. -/
theorem mem_waiters_recheck {sleeper : Waiter} (hne : sleeper ≠ waiter)
    (hmem : sleeper ∈ lock.waiters) : sleeper ∈ (lock.recheck waiter).waiters := by
  cases hguard : lock.shut waiter.mode with
  | true =>
    rw [recheck, if_pos hguard]
    exact List.mem_map.mpr ⟨sleeper, hmem, if_neg hne⟩
  | false =>
    rw [waiters_of_open hguard]
    exact (List.mem_erase_of_ne hne).mpr hmem

/-- A waiter that tests its guard again is no longer one that was notified. -/
theorem mem_waiters_of_notified {sleeper : Waiter} (hnodup : lock.waiters.Nodup)
    (hmem : sleeper ∈ (lock.recheck waiter).waiters) (hnotified : sleeper.notified = true) :
    sleeper ∈ lock.waiters ∧ sleeper ≠ waiter := by
  cases hguard : lock.shut waiter.mode with
  | true =>
    rcases mem_waiters_of_shut hguard hmem with rfl | hbefore
    · cases hnotified
    · exact hbefore
  | false =>
    rw [waiters_of_open hguard, hnodup.mem_erase_iff] at hmem
    exact hmem.symm

/-- Those who were notified test their guards again one after the other. -/
theorem quiet_foldl_recheck (h : Reachable Event.Admissible lock) {pending : List Waiter}
    (hnodup : pending.Nodup) (hwait : ∀ waiter ∈ pending, waiter ∈ lock.waiters)
    (hall : ∀ waiter ∈ lock.waiters, waiter.notified = true → waiter ∈ pending) :
    Reachable Event.Admissible (pending.foldl recheck lock) ∧
      (pending.foldl recheck lock).Quiet := by
  induction pending generalizing lock with
  | nil =>
    refine ⟨h, fun waiter hmem => ?_⟩
    by_contra hnotified
    exact List.not_mem_nil (hall waiter hmem (by simpa using hnotified))
  | cons first rest ih =>
    obtain ⟨hfirst, hrest⟩ := List.nodup_cons.mp hnodup
    have hnext : Reachable Event.Admissible (lock.recheck first) :=
      .step h (.recheck first) (hwait first List.mem_cons_self)
    refine ih hnext hrest (fun waiter hmem => ?_) (fun waiter hmem hnotified => ?_)
    · have hne : waiter ≠ first := fun heq => hfirst (heq ▸ hmem)
      exact mem_waiters_recheck hne (hwait waiter (List.mem_cons_of_mem _ hmem))
    · obtain ⟨hbefore, hne⟩ :=
        mem_waiters_of_notified (orderly h).nodup_waiters hmem hnotified
      exact (List.mem_cons.mp (hall waiter hbefore hnotified)).resolve_left hne

/-- From every state the threads come to one in which all who were notified have tested their guards
again. -/
theorem settled (h : Reachable Event.Admissible lock) :
    Reachable Event.Admissible lock.settle ∧ lock.settle.Quiet := by
  refine quiet_foldl_recheck h ((orderly h).nodup_waiters.filter _) (fun waiter hmem => ?_)
    fun waiter hmem hnotified => ?_
  · exact List.mem_of_mem_filter hmem
  · exact List.mem_filter.mpr ⟨hmem, hnotified⟩

/-! ## No lost wake-up -/

/-- Whoever waits is blocked in its request. -/
theorem mem_blocked (hmem : waiter ∈ lock.waiters) : waiter.thread ∈ lock.blocked waiter.mode := by
  have hrequest : (waiter.thread, waiter.mode) ∈ lock.requests :=
    List.mem_map.mpr ⟨waiter, hmem, rfl⟩
  exact List.mem_map.mpr ⟨_, List.mem_filter.mpr ⟨hrequest, by simp⟩, rfl⟩

/-- Whoever is blocked was not notified, once all who were have tested their guards again. -/
theorem shut_of_blocked (hquiet : lock.Quiet) (hattentive : Attentive lock)
    (hblocked : thread ∈ lock.blocked mode) : lock.shut mode = true := by
  obtain ⟨request, hrequest, -⟩ := List.mem_map.mp hblocked
  obtain ⟨hmem, hmode⟩ := List.mem_filter.mp hrequest
  obtain ⟨waiter, hwaits, rfl⟩ := List.mem_map.mp hmem
  obtain rfl : waiter.mode = mode := by simpa using hmode
  exact hattentive waiter hwaits (hquiet waiter hwaits)

/-- **No lost wake-up.** However the threads interleave, as long as they give back only what they
hold: when all who were notified have tested their guards again, a writer is blocked only by
someone who holds the lock, and a reader only by a writer that holds it or is blocked itself. So
nobody is blocked at a lock that nobody holds. And wherever the threads are, they can all test
their guards. -/
theorem no_lost_wakeup (h : Reachable Event.Admissible lock) :
    (lock.Quiet →
      (∀ thread ∈ lock.blocked .write, ∃ holder mode, (holder, mode) ∈ lock.holders) ∧
      (∀ thread ∈ lock.blocked .read,
        (∃ writer, writer ∈ lock.holding .write) ∨ ∃ writer, writer ∈ lock.blocked .write) ∧
      (lock.holders = [] → lock.waiters = [])) ∧
      Reachable Event.Admissible lock.settle ∧ lock.settle.Quiet := by
  have horderly := orderly h
  refine ⟨fun hquiet => ?_, settled h⟩
  -- Who is still blocked when the lock is quiet stands before a shut guard.
  have hshut : ∀ {thread mode}, thread ∈ lock.blocked mode → lock.shut mode = true :=
    shut_of_blocked hquiet (attentive h)
  have hwrite : ∀ thread ∈ lock.blocked .write, lock.holders ≠ [] :=
    fun thread hblocked => horderly.holders_ne_nil (hshut hblocked)
  have hread : ∀ thread ∈ lock.blocked .read,
      lock.holding .write ≠ [] ∨ lock.blocked .write ≠ [] :=
    fun thread hblocked => horderly.writer_of_shut (hshut hblocked)
  refine ⟨fun thread hblocked => ?_, fun thread hblocked => ?_, fun hfree => ?_⟩
  · obtain ⟨⟨holder, mode⟩, hholds⟩ := List.exists_mem_of_ne_nil _ (hwrite thread hblocked)
    exact ⟨holder, mode, hholds⟩
  · exact (hread thread hblocked).imp (List.exists_mem_of_ne_nil _) (List.exists_mem_of_ne_nil _)
  · -- At a free lock no writer is blocked, and so no reader is blocked behind one.
    have hnone : lock.blocked .write = [] :=
      List.eq_nil_iff_forall_not_mem.mpr fun thread hblocked => hwrite thread hblocked hfree
    refine List.eq_nil_iff_forall_not_mem.mpr fun waiter hwaits => ?_
    have hblocked := mem_blocked hwaits
    cases hmode : waiter.mode with
    | write =>
      rw [hmode] at hblocked
      exact hwrite _ hblocked hfree
    | read =>
      rw [hmode] at hblocked
      rcases hread _ hblocked with hinside | hbehind
      · exact hinside (by rw [holding, hfree]; rfl)
      · exact hbehind hnone

/-- A writer leaves while two readers and another writer wait. -/
def crowd : List Event :=
  [.acquire "first" .write, .acquire "early" .read, .acquire "second" .write,
    .acquire "late" .read, .release "first" .write]

/-- The crowd finds the lock free. When all have tested their guards, the second writer is inside,
and the readers are blocked by it. -/
theorem no_lost_wakeup_crowd :
    let lock := crowd.foldl step {}
    Reachable Event.Admissible lock ∧ lock.holders = [] ∧ lock.waiters.length = 3 ∧
      lock.settle.Quiet ∧ lock.settle.blocked .read = ["early", "late"] ∧
      ((∃ writer, writer ∈ lock.settle.holding .write) ∨
        ∃ writer, writer ∈ lock.settle.blocked .write) := by
  intro lock
  have hreachable : Reachable Event.Admissible lock :=
    .step (.step (.step (.step (.step .free (.acquire "first" .write) (by decide))
      (.acquire "early" .read) (by decide)) (.acquire "second" .write) (by decide))
      (.acquire "late" .read) (by decide)) (.release "first" .write) (by decide)
  obtain ⟨-, hsettled, hquiet⟩ := no_lost_wakeup hreachable
  obtain ⟨-, hread, -⟩ := (no_lost_wakeup hsettled).1 hquiet
  have hblocked : lock.settle.blocked .read = ["early", "late"] := by decide
  refine ⟨hreachable, by decide, by decide, hquiet, hblocked, hread "early" ?_⟩
  rw [hblocked]
  exact List.mem_cons_self

end Orchestration.Sync.ReadWriteLock
