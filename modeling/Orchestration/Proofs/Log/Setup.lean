import Orchestration.Log.Sink

/-!
# What is left of a logger that was set up

Setting the logger up should be all or nothing (`Turn.AllOrNothing`): a call that returns leaves the
level and the handlers that it asks for and nothing of earlier calls, and a call that fails leaves
them as they were. The first half holds. But the level is set and the handlers are taken away before
the size and the file are looked at: a call that is refused one of them strands the logger with the
level of the call and with its console alone (`Turn.Stranded`), and other calls are all or nothing.

- `setups_all_or_nothing_iff`: just the stranded calls of a sequence are not all or nothing;
- `final_of_not_stranded`: where no call is stranded, the last one that returned is in force.
-/

namespace Orchestration.Log

/-! ## A sequence of calls -/

/-- A call that sets the logger up, and what it finds. -/
structure Turn where
  before : Sink
  disk : Disk
  setup : Setup

namespace Turn

/-- How the call ends. -/
def result (turn : Turn) : Except Fault Unit :=
  (turn.before.configureOn turn.disk turn.setup).1

/-- The logger that the call leaves. -/
def after (turn : Turn) : Sink :=
  (turn.before.configureOn turn.disk turn.setup).2

end Turn

/-- The calls of a sequence, each with the logger that the ones before it have left. -/
def turns (sink : Sink) : List (Disk × Setup) → List Turn
  | [] => []
  | (disk, setup) :: rest =>
    let turn : Turn := ⟨sink, disk, setup⟩
    turn :: turns turn.after rest

/-- The logger after a sequence of calls. -/
def final (sink : Sink) (calls : List (Disk × Setup)) : Sink :=
  calls.foldl (fun sink call => (sink.configureOn call.1 call.2).2) sink

/-! ## What a call should leave -/

/-- The level that a name stands for, in any letter case; it is that of information for a name that
stands for none. -/
def levelOf (name : String) : Nat :=
  (rankOfName? (Text.upper name)).getD 20

/-- The logger has the level and the handlers that are asked for, and no others. -/
structure Configured (setup : Setup) (sink : Sink) : Prop where
  level : sink.threshold = levelOf setup.level
  console : setup.file = "" → sink.handlers = [.console (Form.ofName setup.form)]
  file : setup.file ≠ "" → ∃ maxBytes, parseSize setup.rotation = .ok maxBytes ∧
    sink.handlers = [.console (Form.ofName setup.form),
      .rotatingFile (Form.ofName setup.form) (relativePath setup.file) maxBytes setup.retention]

/-- The level and the handlers are those from before. -/
structure Unchanged (before after : Sink) : Prop where
  level : after.threshold = before.threshold
  handlers : after.handlers = before.handlers

/-- The call does what it is asked for, or nothing. -/
structure Turn.AllOrNothing (turn : Turn) : Prop where
  done : turn.result = .ok () → Configured turn.setup turn.after
  failed : ∀ fault, turn.result = .error fault → Unchanged turn.before turn.after

/-! ## What strands a logger -/

/-- A log file is refused: its directory cannot be made, its size is none, or it cannot be opened.
-/
inductive Refused (disk : Disk) (rotation : String) : Prop
  | directory {fault : Fault} (missing : disk.directory = .error fault)
  | size {fault : Fault} (faulty : parseSize rotation = .error fault)
  | file {fault : Fault} (closed : disk.file = .error fault)

/-- The logger when the console has been set up and the log file has not. -/
def Sink.halfway (sink : Sink) (setup : Setup) : Sink :=
  { sink with threshold := levelOf setup.level, handlers := [.console (Form.ofName setup.form)] }

/-- The call is refused its log file when it has changed the logger already. -/
structure Turn.Stranded (turn : Turn) : Prop where
  level : Table.find? takenNames (Text.upper turn.setup.level) = none
  file : turn.setup.file ≠ ""
  refused : Refused turn.disk turn.setup.rotation
  changed : ¬ Unchanged turn.before (turn.before.halfway turn.setup)

/-! ## What a call does -/

/-- A file is refused, or opened with the size that is read. -/
theorem openFile_cases (disk : Disk) (rotation : String) :
    (∃ fault, Sink.openFile disk rotation = .error fault ∧ Refused disk rotation) ∨
    ∃ maxBytes, Sink.openFile disk rotation = .ok maxBytes ∧ parseSize rotation = .ok maxBytes ∧
      ¬ Refused disk rotation := by
  unfold Sink.openFile
  cases hdirectory : disk.directory with
  | error fault => exact .inl ⟨fault, rfl, .directory hdirectory⟩
  | ok =>
    cases hsize : parseSize rotation with
    | error fault => exact .inl ⟨fault, rfl, .size hsize⟩
    | ok maxBytes =>
      cases hfile : disk.file with
      | error fault => exact .inl ⟨fault, rfl, .file hfile⟩
      | ok =>
        refine .inr ⟨maxBytes, rfl, rfl, ?_⟩
        rintro (hfault | hfault | hfault)
        · cases hdirectory.symm.trans hfault
        · cases hsize.symm.trans hfault
        · cases hfile.symm.trans hfault

/-- How a call can go: it returns, or it fails at the level, or it fails at the log file. -/
inductive Turn.Course (turn : Turn) : Prop
  | done (returned : turn.result = .ok ()) (configured : Configured turn.setup turn.after)
    (admitted : turn.setup.file ≠ "" → ¬ Refused turn.disk turn.setup.rotation)
  | level {fault : Fault} (failed : turn.result = .error fault) (left : turn.after = turn.before)
    (taken : Table.find? takenNames (Text.upper turn.setup.level) = some fault)
  | file {fault : Fault} (failed : turn.result = .error fault)
    (left : turn.after = turn.before.halfway turn.setup)
    (level : Table.find? takenNames (Text.upper turn.setup.level) = none)
    (given : turn.setup.file ≠ "") (refused : Refused turn.disk turn.setup.rotation)

/-- A call takes one of the courses, by cases on what it checks in turn. -/
theorem Turn.course (turn : Turn) : turn.Course := by
  obtain ⟨before, disk, setup⟩ := turn
  -- The level is looked at before anything is changed, and the log file when the console is set up.
  cases hlevel : Table.find? takenNames (Text.upper setup.level) with
  | some fault =>
    have hturn : before.configureOn disk setup = (.error fault, before) := by
      simp only [Sink.configureOn, thresholdOfName, hlevel]
    exact .level (congrArg Prod.fst hturn) (congrArg Prod.snd hturn) hlevel
  | none =>
    by_cases hfile : setup.file = ""
    · have hturn : before.configureOn disk setup = (.ok (), before.halfway setup) := by
        simp only [Sink.configureOn, thresholdOfName, hlevel, hfile, if_true]
        rfl
      have hconfigured : Configured setup (before.configureOn disk setup).2 := by
        rw [hturn]
        exact ⟨rfl, fun _ => rfl, fun hne => absurd hfile hne⟩
      exact .done (congrArg Prod.fst hturn) hconfigured fun hne => absurd hfile hne
    obtain ⟨fault, hopen, hrefused⟩ | ⟨maxBytes, hopen, hsize, hnot⟩ :=
      openFile_cases disk setup.rotation
    · have hturn : before.configureOn disk setup = (.error fault, before.halfway setup) := by
        simp only [Sink.configureOn, thresholdOfName, hlevel, hfile, if_false, hopen]
        rfl
      exact .file (congrArg Prod.fst hturn) (congrArg Prod.snd hturn) hlevel hfile hrefused
    · refine .done ?_ ⟨?_, fun heq => absurd heq hfile, fun _ => ⟨maxBytes, hsize, ?_⟩⟩
        fun _ => hnot
      all_goals
        simp only [Turn.result, Turn.after, Sink.configureOn, thresholdOfName, hlevel, hfile,
          if_false, hopen]
      rfl

/-! ## All or nothing -/

/-- A call that is stranded has failed, and has left the logger half set up. -/
theorem Turn.Stranded.left {turn : Turn} (h : turn.Stranded) :
    (∃ fault, turn.result = .error fault) ∧ turn.after = turn.before.halfway turn.setup := by
  cases turn.course with
  | done _ _ admitted => exact absurd h.refused (admitted h.file)
  | level _ _ taken => cases h.level.symm.trans taken
  | @file fault failed left => exact ⟨⟨fault, failed⟩, left⟩

/-- A call that fails has to have left the logger alone. -/
theorem Turn.allOrNothing_of_failed {turn : Turn} {fault : Fault}
    (hfailed : turn.result = .error fault) (hleft : Unchanged turn.before turn.after) :
    turn.AllOrNothing where
  done hreturned := by cases hfailed.symm.trans hreturned
  failed _ _ := hleft

/-- A call does all or nothing unless it is stranded. -/
theorem Turn.allOrNothing_iff (turn : Turn) : turn.AllOrNothing ↔ ¬ turn.Stranded := by
  constructor
  · intro hall hstranded
    obtain ⟨⟨fault, hfailed⟩, hleft⟩ := hstranded.left
    exact hstranded.changed (hleft ▸ hall.failed fault hfailed)
  · intro hnot
    cases turn.course with
    | done returned configured _ =>
      exact ⟨fun _ => configured, fun _ hfailed => by cases returned.symm.trans hfailed⟩
    | level failed left _ =>
      refine allOrNothing_of_failed failed ?_
      rw [left]
      exact ⟨rfl, rfl⟩
    | file failed left level given refused =>
      refine allOrNothing_of_failed failed (Classical.byContradiction fun hchanged => ?_)
      rw [left] at hchanged
      exact hnot ⟨level, given, refused, hchanged⟩

/-- A logger that is left alone stays configured. -/
theorem Configured.of_unchanged {setup : Setup} {first second : Sink} (h : Configured setup first)
    (hsame : Unchanged first second) : Configured setup second := by
  obtain ⟨hlevel, hconsole, hfile⟩ := h
  refine ⟨hsame.level.trans hlevel, fun hnone => hsame.handlers.trans (hconsole hnone), ?_⟩
  intro hgiven
  obtain ⟨maxBytes, hsize, hhandlers⟩ := hfile hgiven
  exact ⟨maxBytes, hsize, hsame.handlers.trans hhandlers⟩

/-- A call that returns has configured the logger as it was asked to. -/
theorem Turn.configured_of_returned {turn : Turn} (h : turn.result = .ok ()) :
    Configured turn.setup turn.after := by
  cases turn.course with
  | done _ configured _ => exact configured
  | level failed => cases failed.symm.trans h
  | file failed => cases failed.symm.trans h

/-- **All or nothing.** Of the calls of a sequence, each one that returns leaves just the level and
the handlers that it asks for; and each one does what it is asked for or nothing, exactly unless it
is stranded: then it fails, and leaves its level and its console. -/
theorem setups_all_or_nothing_iff (sink : Sink) (calls : List (Disk × Setup)) :
    (∀ turn ∈ turns sink calls, turn.result = .ok () → Configured turn.setup turn.after) ∧
    (∀ turn ∈ turns sink calls, turn.AllOrNothing ↔ ¬ turn.Stranded) ∧
    ∀ turn ∈ turns sink calls, turn.Stranded →
      (∃ fault, turn.result = .error fault) ∧ turn.after = turn.before.halfway turn.setup :=
  ⟨fun _ _ => Turn.configured_of_returned, fun turn _ => turn.allOrNothing_iff,
    fun _ _ => Turn.Stranded.left⟩

/-- Not every sequence of calls is all or nothing: a faulty size for a log file comes up when the
level of the call has been set and the handlers of the call before are gone. -/
theorem not_all_or_nothing_faulty_size :
    ¬ ∀ sink calls, ∀ turn ∈ turns sink calls, turn.AllOrNothing := by
  intro hall
  let first : Turn := ⟨{}, {}, { level := "ERROR", form := "text" }⟩
  let second : Turn :=
    ⟨first.after, {}, { level := "DEBUG", file := "e.log", rotation := "big" }⟩
  have herror : Text.upper "ERROR" = "ERROR" := by decide +kernel
  have hdebug : Text.upper "DEBUG" = "DEBUG" := by decide +kernel
  have hreturned : first.result = .ok () := by
    simp only [first, Turn.result, Sink.configureOn, thresholdOfName, herror]
    rfl
  have hlevel : first.after.threshold = 40 := by
    rw [(Turn.configured_of_returned hreturned).level, levelOf, herror]
    rfl
  obtain ⟨fault, hsize⟩ : ∃ fault, parseSize "big" = .error fault := by
    have hsplit : splitSize? (Text.trim "big".toList) = none := by decide +kernel
    rw [parseSize, hsplit]
    exact ⟨_, rfl⟩
  have hstranded : second.Stranded := by
    refine ⟨by simp only [second, hdebug]; rfl, by decide, .size hsize, fun hunchanged => ?_⟩
    -- The level of the second call would be that of the first one.
    have hlater : 10 = first.after.threshold := by
      rw [← hunchanged.level, Sink.halfway, levelOf, hdebug]
      rfl
    rw [hlevel] at hlater
    cases hlater
  have hmem : second ∈ turns {} [(first.disk, first.setup), (second.disk, second.setup)] :=
    List.mem_cons_of_mem _ List.mem_cons_self
  exact second.allOrNothing_iff.mp (hall _ _ second hmem) hstranded

/-! ## What a sequence leaves -/

theorem Unchanged.trans {first second third : Sink} (h : Unchanged first second)
    (hnext : Unchanged second third) : Unchanged first third :=
  ⟨hnext.level.trans h.level, hnext.handlers.trans h.handlers⟩

/-- Where no call of a sequence is stranded, the last call that returned is in force at its end, or
the logger is as it was if none did. -/
theorem final_of_not_stranded {sink : Sink} {calls : List (Disk × Setup)}
    (h : ∀ turn ∈ turns sink calls, ¬ turn.Stranded) :
    Unchanged sink (final sink calls) ∧ (∀ turn ∈ turns sink calls, turn.result ≠ .ok ()) ∨
    ∃ earlier turn later, turns sink calls = earlier ++ turn :: later ∧
      (∀ other ∈ later, other.result ≠ .ok ()) ∧ Configured turn.setup (final sink calls) := by
  induction calls generalizing sink with
  | nil => exact .inl ⟨⟨rfl, rfl⟩, fun _ hmem => absurd hmem List.not_mem_nil⟩
  | cons call rest ih =>
    let turn : Turn := ⟨sink, call.1, call.2⟩
    have hturns : turns sink (call :: rest) = turn :: turns turn.after rest := rfl
    have hfinal : final sink (call :: rest) = final turn.after rest := rfl
    -- The first call may still be in force at the end, but only if all later ones fail.
    rw [hturns, List.forall_mem_cons] at h
    rw [hturns, hfinal]
    obtain ⟨hsame, hfailed⟩ | ⟨earlier, last, later, hsplit, hlater, hlast⟩ := ih h.2
    · cases hresult : turn.result with
      | ok =>
        have hconfigured := (Turn.configured_of_returned hresult).of_unchanged hsame
        exact .inr ⟨[], turn, turns turn.after rest, (List.nil_append _).symm, hfailed, hconfigured⟩
      | error fault =>
        have hturn : Unchanged sink turn.after :=
          (turn.allOrNothing_iff.mpr h.1).failed fault hresult
        have hthis : turn.result ≠ .ok () := by simp [hresult]
        exact .inl ⟨hturn.trans hsame, List.forall_mem_cons.mpr ⟨hthis, hfailed⟩⟩
    · exact .inr ⟨turn :: earlier, last, later, by rw [hsplit]; rfl, hlater, hlast⟩

end Orchestration.Log
