import Mathlib.Logic.Function.Basic
import ZonDpi.Supervisor.RingBuffer
import ZonDpi.Supervisor.Tracking

/-!
The output of the workers, and the log they share.

`spawn_internal` gives each worker two pipes and starts a task for each, which reads lines and
pushes them into the supervisor's one ring buffer. Nothing clears the buffer when a worker is
replaced, and the readers of an earlier worker go on until its pipes are empty, so its lines
may even be pushed after those of the next one. `LoggedSys` puts the pipes and their readers
beside the tasks of `Sys`, again with every order of steps.

Besides what the program knows, a state records what each worker has printed, the calls of
`push` and the instants at which the workers were started (`Recorded`).
-/

namespace ZonDpi.Supervisor

open BoundedQueue ZonDpi.Std ZonDpi.Ipc

inductive Stream where
  | stdout
  | stderr
deriving DecidableEq, Repr

def Stream.name : Stream → String
  | .stdout => "stdout"
  | .stderr => "stderr"

/-- A pipe with the lines not yet read, and whether its reader is still at work. A line that
is not UTF-8 has no text. -/
structure Pipe where
  unread : List (Option String)
  reading : Bool
deriving DecidableEq, Repr

structure LoggedSys where
  sys : Sys
  pipes : Nat → Stream → Pipe
  buffer : LogRingBuffer
  /-- What each worker has printed on either stream. -/
  printed : Nat → List String
  /-- The calls of `push` so far. -/
  pushed : List LogCall
  /-- When each worker was started. -/
  started : List Nat

inductive LogAction where
  /-- A step of the supervisor, or the end of a worker. -/
  | supervise (a : Action)
  | print (pid : Nat) (stream : Stream) (line : Option String)
  /-- The reader of a pipe takes its next line. -/
  | read (pid : Nat) (stream : Stream) (sinceEpoch : Option Nat)
deriving DecidableEq, Repr

/-- The clock at a step of a task. -/
def Action.now : Action → Nat
  | .exit _ => 0
  | .run _ env => env.now

namespace LoggedSys

/-- `ProcessSupervisor::new`, with the calls that will be made on it. -/
def new (config : SupervisorConfig) (calls : List Call) : LoggedSys where
  sys := .new config calls
  pipes := fun _ _ => ⟨[], true⟩
  buffer := .new 200
  printed := fun _ => []
  pushed := []
  started := []

def setPipe (s : LoggedSys) (pid : Nat) (stream : Stream) (pipe : Pipe) : LoggedSys :=
  { s with pipes := Function.update s.pipes pid (Function.update (s.pipes pid) stream pipe) }

/-- `next_line` and `push`. A line without a text ends the loop of the reader. -/
def read (chars : WordChars) (s : LoggedSys) (pid : Nat) (stream : Stream)
    (sinceEpoch : Option Nat) : Option LoggedSys :=
  match s.pipes pid stream with
  | ⟨some line :: rest, true⟩ =>
      some { s.setPipe pid stream ⟨rest, true⟩ with
        buffer := s.buffer.push chars stream.name line sinceEpoch
        pushed := s.pushed ++ [.push stream.name line sinceEpoch] }
  | ⟨none :: rest, true⟩ => some (s.setPipe pid stream ⟨rest, false⟩)
  | _ => none

def print (s : LoggedSys) (pid : Nat) (stream : Stream) (line : Option String) : LoggedSys :=
  let pipe := s.pipes pid stream
  { s.setPipe pid stream { pipe with unread := pipe.unread ++ [line] } with
    printed := Function.update s.printed pid (s.printed pid ++ line.toList) }

def apply (chars : WordChars) (s : LoggedSys) : LogAction → Option LoggedSys
  | .supervise a =>
      match s.sys.apply a with
      | some sys =>
          let spawned := decide (s.sys.os.processes.length < sys.os.processes.length)
          some { s with
            sys := sys
            started := if spawned then s.started ++ [a.now] else s.started }
      | none => none
  | .print pid stream line =>
      if s.sys.os.isAlive pid then some (s.print pid stream line) else none
  | .read pid stream sinceEpoch => s.read chars pid stream sinceEpoch

/-- What a step can do: one of the supervisor, a line printed, a line read and pushed, or a line
that ends its reader. -/
theorem apply_cases {chars : WordChars} {s s' : LoggedSys} {a : LogAction}
    (applied : s.apply chars a = some s') :
    (∃ step sys, s.sys.apply step = some sys ∧ s' = { s with
      sys := sys
      started := if decide (s.sys.os.processes.length < sys.os.processes.length)
        then s.started ++ [step.now] else s.started }) ∨
    (∃ pid stream line, s.sys.os.isAlive pid = true ∧ s' = s.print pid stream line) ∨
    (∃ pid stream sinceEpoch line rest, (s.pipes pid stream).unread = some line :: rest ∧
      s' = { s.setPipe pid stream ⟨rest, true⟩ with
        buffer := s.buffer.push chars stream.name line sinceEpoch
        pushed := s.pushed ++ [.push stream.name line sinceEpoch] }) ∨
    ∃ pid stream rest, (s.pipes pid stream).unread = none :: rest ∧
      s' = s.setPipe pid stream ⟨rest, false⟩ := by
  cases a with
  | supervise step =>
      simp only [apply] at applied
      split at applied
      · rename_i sys stepped
        exact .inl ⟨step, sys, stepped, (Option.some.inj applied).symm⟩
      · cases applied
  | print pid stream line =>
      simp only [apply] at applied
      split at applied
      · rename_i alive
        exact .inr (.inl ⟨pid, stream, line, alive, (Option.some.inj applied).symm⟩)
      · cases applied
  | read pid stream sinceEpoch =>
      simp only [apply, read] at applied
      split at applied
      · rename_i line rest pipe
        have found : (s.pipes pid stream).unread = some line :: rest := by rw [pipe]
        exact .inr (.inr (.inl ⟨pid, stream, sinceEpoch, line, rest, found,
          (Option.some.inj applied).symm⟩))
      · rename_i rest pipe
        have found : (s.pipes pid stream).unread = none :: rest := by rw [pipe]
        exact .inr (.inr (.inr ⟨pid, stream, rest, found, (Option.some.inj applied).symm⟩))
      · cases applied

/-- Follow a list of actions; `none` when one is not enabled. -/
def runAll (chars : WordChars) : LoggedSys → List LogAction → Option LoggedSys
  | s, [] => some s
  | s, a :: rest =>
      match s.apply chars a with
      | some s' => s'.runAll chars rest
      | none => none

/-- What every step keeps, a run keeps. -/
theorem runAll_invariant {chars : WordChars} {P : LoggedSys → Prop}
    (keeps : ∀ s a s', P s → s.apply chars a = some s' → P s') {acts : List LogAction}
    {s s' : LoggedSys} (holds : P s) (run : s.runAll chars acts = some s') : P s' := by
  induction acts generalizing s with
  | nil =>
      cases run
      exact holds
  | cons a acts ih =>
      simp only [runAll] at run
      split at run
      · rename_i next applied
        exact ih (keeps s a next holds applied) run
      · cases run

/-- The lines of the log so far, as they are stored. -/
def log (chars : WordChars) (s : LoggedSys) : List String :=
  (s.pushed.filterMap (LogCall.entry chars)).map LogEntryDto.line

theorem mem_log {chars : WordChars} {s : LoggedSys} {text : String} :
    text ∈ s.log chars ↔ ∃ stream line sinceEpoch, .push stream line sinceEpoch ∈ s.pushed ∧
      LogRingBuffer.stored chars line = some text := by
  simp only [log, List.mem_map, List.mem_filterMap]
  constructor
  · rintro ⟨entry, ⟨call, member, made⟩, rfl⟩
    cases call with
    | clear => cases made
    | push stream line sinceEpoch =>
        rw [LogRingBuffer.entry_push, Option.map_eq_some_iff] at made
        obtain ⟨text, kept, rfl⟩ := made
        exact ⟨stream, line, sinceEpoch, member, kept⟩
  · rintro ⟨stream, line, sinceEpoch, member, kept⟩
    refine ⟨⟨chronoTimestamp sinceEpoch, stream, text⟩, ⟨_, member, ?_⟩, rfl⟩
    rw [LogRingBuffer.entry_push, kept]
    rfl

/-- The worker that was started last. -/
def current (s : LoggedSys) : Nat := s.sys.os.processes.length - 1

end LoggedSys

/-! ### The worker the supervisor knows -/

section Current

variable {inner : Inner} {os : Os}

@[simp] theorem Os.length_dropJob (job : Option Nat) :
    (os.dropJob job).processes.length = os.processes.length := by
  cases job with
  | none => rfl
  | some job => simp [Os.dropJob, Os.killJob, Os.kill]

@[simp] theorem Os.length_killPid (pid : Nat) :
    (os.killPid pid).processes.length = os.processes.length := by
  simp [Os.killPid, Os.kill]

/-- A section starts a worker and records it with the time, or starts none and leaves what is
recorded of a running one. -/
theorem Section.run_started (inner : Inner) (os : Os) (locked : Section) :
    ((locked.run inner os).2.processes.length = os.processes.length ∧
      ((locked.run inner os).1.state = .running → inner.state = .running ∧
        (locked.run inner os).1.pid = inner.pid ∧
        (locked.run inner os).1.startedAt = inner.startedAt)) ∨
    ∃ now, ((∃ answer, locked = .respawn answer now) ∨
        ∃ isFile answer, locked = .spawn isFile answer now) ∧
      (locked.run inner os).2.processes.length = os.processes.length + 1 ∧
      (locked.run inner os).1.pid = some os.processes.length ∧
      (locked.run inner os).1.startedAt = some now := by
  cases locked with
  | idle => exact .inl ⟨rfl, fun running => ⟨running, rfl, rfl⟩⟩
  | exit pid => exact .inl ⟨Os.length_killPid pid, fun running => ⟨running, rfl, rfl⟩⟩
  | handle code isManual now =>
      left
      cases isManual with
      | true => exact ⟨Os.length_dropJob _, by rintro ⟨⟩⟩
      | false =>
          simp only [Section.run, exitSection, Bool.false_eq_true, if_false]
          split <;> exact ⟨rfl, by rintro ⟨⟩⟩
  | settle => exact .inl ⟨rfl, by rintro ⟨⟩⟩
  | respawn answer now =>
      cases answer with
      | spawned assigned =>
          refine .inr ⟨now, .inl ⟨_, rfl⟩, ?_, rfl, rfl⟩
          simp [Section.run, respawnSection, spawnInternal, Os.start]
      | _ => exact .inl ⟨rfl, by rintro ⟨⟩⟩
  | spawn isFile answer now =>
      cases isFile with
      | false => exact .inl ⟨rfl, by rintro ⟨⟩⟩
      | true =>
          cases answer with
          | spawned assigned =>
              refine .inr ⟨now, .inr ⟨_, _, rfl⟩, ?_, rfl, rfl⟩
              simp [Section.run, spawnSection, spawnInternal, Os.start]
          | _ => exact .inl ⟨rfl, by rintro ⟨⟩⟩
  | stop =>
      left
      simp only [Section.run, stopSection]
      split
      · rename_i stopped
        refine ⟨rfl, fun running => ?_⟩
        cases stopped.symm.trans running
      · refine ⟨?_, by rintro ⟨⟩⟩
        cases inner.pid <;> simp [killTracked]

/-- The clock of a section that starts a worker is that of the step. -/
theorem Sys.now_of_sectionOf {s : Sys} {a : Action} {now : Nat}
    (starts : (∃ answer, s.sectionOf a = .respawn answer now) ∨
      ∃ isFile answer, s.sectionOf a = .spawn isFile answer now) : a.now = now := by
  cases a with
  | exit pid => simp [Sys.sectionOf] at starts
  | run i env =>
      unfold Sys.sectionOf at starts
      dsimp only at starts
      split at starts <;> simp_all [Action.now]

/-- What a step does to the worker the supervisor knows. -/
theorem apply_started {s s' : Sys} {a : Action} (applied : s.apply a = some s') :
    (s'.os.processes.length = s.os.processes.length ∧
      (s'.inner.state = .running → s.inner.state = .running ∧ s'.inner.pid = s.inner.pid ∧
        s'.inner.startedAt = s.inner.startedAt)) ∨
    s'.os.processes.length = s.os.processes.length + 1 ∧
      s'.inner.pid = some s.os.processes.length ∧ s'.inner.startedAt = some a.now := by
  have effect := (apply_section applied).1
  have inner : s'.inner = ((s.sectionOf a).run s.inner s.os).1 := congrArg Prod.fst effect
  have os : s'.os = ((s.sectionOf a).run s.inner s.os).2 := congrArg Prod.snd effect
  rw [inner, os]
  rcases Section.run_started s.inner s.os (s.sectionOf a) with kept | ⟨now, starts, rest⟩
  · exact .inl kept
  · rw [Sys.now_of_sectionOf starts]
    exact .inr rest

end Current

/-! ### What every state records -/

/-- The buffer is what the pushes made of it, and the supervisor knows a running worker as the
one started last, at the time recorded. -/
structure Recorded (chars : WordChars) (s : LoggedSys) : Prop where
  buffer : s.buffer = (LogRingBuffer.new 200).runAll chars s.pushed
  pushes : ∀ call ∈ s.pushed, call.isPush = true
  count : s.started.length = s.sys.os.processes.length
  known : s.sys.inner.state = .running → s.started ≠ [] ∧
    s.sys.inner.pid = some s.current ∧ s.sys.inner.startedAt = s.started.getLast?

section Recorded

variable {chars : WordChars} {s s' : LoggedSys}

theorem recorded_new (config : SupervisorConfig) (calls : List Call) :
    Recorded chars (LoggedSys.new config calls) where
  buffer := rfl
  pushes := by
    intro call member
    cases member
  count := rfl
  known := by rintro ⟨⟩

theorem Recorded.supervise (recorded : Recorded chars s) {a : Action} {sys : Sys}
    (applied : s.sys.apply a = some sys) :
    Recorded chars { s with
      sys := sys
      started := if decide (s.sys.os.processes.length < sys.os.processes.length)
        then s.started ++ [a.now] else s.started } := by
  refine ⟨recorded.buffer, recorded.pushes, ?_, ?_⟩
  · rcases apply_started applied with ⟨same, -⟩ | ⟨longer, -⟩
    · simpa [same] using recorded.count
    · simpa [longer] using recorded.count
  · rcases apply_started applied with ⟨same, kept⟩ | ⟨longer, pid, startedAt⟩
    · intro running
      obtain ⟨before, pid, startedAt⟩ := kept running
      obtain ⟨nonempty, known, since⟩ := recorded.known before
      simp only [LoggedSys.current, same, Nat.lt_irrefl, decide_false, Bool.false_eq_true, if_false]
      exact ⟨nonempty, pid.trans known, startedAt.trans since⟩
    · intro _
      simp [LoggedSys.current, longer, pid, startedAt]

theorem Recorded.apply (recorded : Recorded chars s) {a : LogAction}
    (applied : s.apply chars a = some s') : Recorded chars s' := by
  rcases LoggedSys.apply_cases applied with ⟨step, sys, stepped, rfl⟩ |
    ⟨pid, stream, line, -, rfl⟩ | ⟨pid, stream, sinceEpoch, line, rest, -, rfl⟩ |
    ⟨pid, stream, rest, -, rfl⟩
  · exact recorded.supervise stepped
  · exact ⟨recorded.buffer, recorded.pushes, recorded.count, recorded.known⟩
  · refine ⟨?_, ?_, recorded.count, recorded.known⟩
    · rw [LogRingBuffer.runAll, List.foldl_concat, ← LogRingBuffer.runAll, ← recorded.buffer]
      rfl
    · intro call member
      rcases List.mem_append.mp member with before | last
      · exact recorded.pushes call before
      · rw [List.mem_singleton.mp last]
        rfl
  · exact ⟨recorded.buffer, recorded.pushes, recorded.count, recorded.known⟩

theorem recorded_of_run {config : SupervisorConfig} {calls : List Call} {acts : List LogAction}
    (run : (LoggedSys.new config calls).runAll chars acts = some s) : Recorded chars s :=
  LoggedSys.runAll_invariant (fun _ _ _ recorded applied => recorded.apply applied)
    (recorded_new config calls) run

/-- The newest lines of the log are read off the buffer. -/
theorem Recorded.recent (recorded : Recorded chars s) {n : Nat} (few : n ≤ 200) :
    (s.buffer.recentEntries (some n)).map LogEntryDto.line = (s.log chars).rtake n := by
  have all : sinceClear chars s.pushed = s.pushed.filterMap (LogCall.entry chars) := by
    rw [sinceClear, List.rtakeWhile_eq_self_iff.mpr recorded.pushes]
  have tail (entries : List LogEntryDto) :
      (entries.rtake n).map LogEntryDto.line = (entries.map LogEntryDto.line).rtake n := by
    rw [List.rtake, List.rtake, List.map_drop, List.length_map]
  rw [LogRingBuffer.recentEntries_eq, Option.getD_some, recorded.buffer,
    LogRingBuffer.runAll_eq (by decide), rtake_rtake, Nat.min_eq_left few, all, tail,
    LoggedSys.log]

end Recorded

/-! ### From the worker to the log -/

/-- Every line comes from a worker, and what a worker has printed stands in a pipe or has been
pushed. -/
structure Delivered (s : LoggedSys) : Prop where
  unread : ∀ pid stream line, some line ∈ (s.pipes pid stream).unread → line ∈ s.printed pid
  pushed : ∀ stream line sinceEpoch, .push stream line sinceEpoch ∈ s.pushed →
    ∃ pid, line ∈ s.printed pid
  printed : ∀ pid line, line ∈ s.printed pid →
    (∃ stream, some line ∈ (s.pipes pid stream).unread) ∨
      ∃ stream sinceEpoch, .push stream line sinceEpoch ∈ s.pushed
  spawned : ∀ pid line, line ∈ s.printed pid → pid < s.sys.os.processes.length

section Delivered

variable {chars : WordChars} {s s' : LoggedSys}

theorem delivered_new (config : SupervisorConfig) (calls : List Call) :
    Delivered (LoggedSys.new config calls) where
  unread := by simp [LoggedSys.new]
  pushed := by simp [LoggedSys.new]
  printed := by simp [LoggedSys.new]
  spawned := by simp [LoggedSys.new]

theorem LoggedSys.setPipe_pipes (pid pid' : Nat) (stream stream' : Stream) (pipe : Pipe) :
    (s.setPipe pid stream pipe).pipes pid' stream' =
      if pid' = pid ∧ stream' = stream then pipe else s.pipes pid' stream' := by
  by_cases worker : pid' = pid
  · subst worker
    simp [setPipe, Function.update_apply]
  · simp [setPipe, worker]

theorem Delivered.supervise (delivered : Delivered s) {a : Action} {sys : Sys}
    (applied : s.sys.apply a = some sys) (started : List Nat) :
    Delivered { s with sys := sys, started := started } := by
  refine ⟨delivered.unread, delivered.pushed, delivered.printed, fun pid line member => ?_⟩
  refine (delivered.spawned pid line member).trans_le ?_
  rcases apply_started applied with ⟨same, -⟩ | ⟨longer, -⟩
  · exact same.ge
  · exact longer.ge.trans' (Nat.le_succ _)

theorem Delivered.print (delivered : Delivered s) {pid : Nat} (alive : s.sys.os.isAlive pid = true)
    (stream : Stream) (line : Option String) : Delivered (s.print pid stream line) := by
  have more (pid' : Nat) (text : String) : text ∈ (s.print pid stream line).printed pid' ↔
      text ∈ s.printed pid' ∨ pid' = pid ∧ some text = line := by
    by_cases worker : pid' = pid
    · subst worker
      simp [LoggedSys.print, eq_comm]
    · simp [LoggedSys.print, worker]
  have piped (pid' : Nat) (stream' : Stream) (text : String) :
      some text ∈ ((s.print pid stream line).pipes pid' stream').unread ↔
        some text ∈ (s.pipes pid' stream').unread ∨
          (pid' = pid ∧ stream' = stream) ∧ some text = line := by
    change some text ∈ ((s.setPipe pid stream _).pipes pid' stream').unread ↔ _
    rw [LoggedSys.setPipe_pipes]
    by_cases here : pid' = pid ∧ stream' = stream
    · obtain ⟨rfl, rfl⟩ := here
      simp
    · simp [here]
  refine ⟨?_, ?_, ?_, ?_⟩
  · intro pid' stream' text member
    rw [more]
    rcases (piped pid' stream' text).mp member with before | ⟨⟨worker, -⟩, new⟩
    · exact .inl (delivered.unread pid' stream' text before)
    · exact .inr ⟨worker, new⟩
  · intro stream' text sinceEpoch member
    obtain ⟨pid', printed⟩ := delivered.pushed stream' text sinceEpoch member
    exact ⟨pid', (more pid' text).mpr (.inl printed)⟩
  · intro pid' text member
    rcases (more pid' text).mp member with before | ⟨worker, new⟩
    · rcases delivered.printed pid' text before with ⟨stream', waits⟩ | done
      · exact .inl ⟨stream', (piped pid' stream' text).mpr (.inl waits)⟩
      · exact .inr done
    · exact .inl ⟨stream, (piped pid' stream text).mpr (.inr ⟨⟨worker, rfl⟩, new⟩)⟩
  · intro pid' text member
    rcases (more pid' text).mp member with before | ⟨rfl, -⟩
    · exact delivered.spawned pid' text before
    · exact (Os.isAlive_iff.mp alive).lt

/-- A reader that takes the first line leaves every other line in its pipe. -/
theorem LoggedSys.mem_unread_setPipe {pid : Nat} {stream : Stream} {first : Option String}
    {rest : List (Option String)} (found : (s.pipes pid stream).unread = first :: rest)
    (reading : Bool) (pid' : Nat) (stream' : Stream) (line : Option String) :
    (line ∈ ((s.setPipe pid stream ⟨rest, reading⟩).pipes pid' stream').unread →
      line ∈ (s.pipes pid' stream').unread) ∧
    (line ∈ (s.pipes pid' stream').unread → line = first ∨
      line ∈ ((s.setPipe pid stream ⟨rest, reading⟩).pipes pid' stream').unread) := by
  rw [setPipe_pipes]
  by_cases here : pid' = pid ∧ stream' = stream
  · obtain ⟨rfl, rfl⟩ := here
    rw [found, if_pos ⟨rfl, rfl⟩]
    exact ⟨List.mem_cons_of_mem first, List.mem_cons.mp⟩
  · rw [if_neg here]
    exact ⟨id, .inr⟩

theorem Delivered.push (delivered : Delivered s) {pid : Nat} {stream : Stream} {line : String}
    {rest : List (Option String)} (found : (s.pipes pid stream).unread = some line :: rest)
    (buffer : LogRingBuffer) (sinceEpoch : Option Nat) :
    Delivered { s.setPipe pid stream ⟨rest, true⟩ with
      buffer := buffer
      pushed := s.pushed ++ [.push stream.name line sinceEpoch] } := by
  have others := LoggedSys.mem_unread_setPipe found true
  refine ⟨?_, ?_, ?_, delivered.spawned⟩
  · intro pid' stream' text member
    exact delivered.unread pid' stream' text ((others pid' stream' (some text)).1 member)
  · intro stream' text sinceEpoch' member
    rcases List.mem_append.mp member with before | last
    · exact delivered.pushed stream' text sinceEpoch' before
    · cases List.mem_singleton.mp last
      exact ⟨pid, delivered.unread pid stream line (by simp [found])⟩
  · intro pid' text member
    rcases delivered.printed pid' text member with ⟨stream', waits⟩ | ⟨stream', time, done⟩
    · rcases (others pid' stream' (some text)).2 waits with first | still
      · cases first
        exact .inr ⟨_, _, List.mem_append_right _ (List.mem_singleton_self _)⟩
      · exact .inl ⟨stream', still⟩
    · exact .inr ⟨stream', time, List.mem_append_left _ done⟩

theorem Delivered.endReader (delivered : Delivered s) {pid : Nat} {stream : Stream}
    {rest : List (Option String)} (found : (s.pipes pid stream).unread = none :: rest) :
    Delivered (s.setPipe pid stream ⟨rest, false⟩) := by
  have others := LoggedSys.mem_unread_setPipe found false
  refine ⟨?_, delivered.pushed, ?_, delivered.spawned⟩
  · intro pid' stream' text member
    exact delivered.unread pid' stream' text ((others pid' stream' (some text)).1 member)
  · intro pid' text member
    rcases delivered.printed pid' text member with ⟨stream', waits⟩ | done
    · rcases (others pid' stream' (some text)).2 waits with first | still
      · cases first
      · exact .inl ⟨stream', still⟩
    · exact .inr done

theorem Delivered.apply (delivered : Delivered s) {a : LogAction}
    (applied : s.apply chars a = some s') : Delivered s' := by
  rcases LoggedSys.apply_cases applied with ⟨step, sys, stepped, rfl⟩ |
    ⟨pid, stream, line, alive, rfl⟩ | ⟨pid, stream, sinceEpoch, line, rest, found, rfl⟩ |
    ⟨pid, stream, rest, found, rfl⟩
  · exact delivered.supervise stepped _
  · exact delivered.print alive stream line
  · exact delivered.push found _ sinceEpoch
  · exact delivered.endReader found

theorem delivered_of_run {config : SupervisorConfig} {calls : List Call} {acts : List LogAction}
    (run : (LoggedSys.new config calls).runAll chars acts = some s) : Delivered s :=
  LoggedSys.runAll_invariant (fun _ _ _ delivered applied => delivered.apply applied)
    (delivered_new config calls) run

end Delivered

end ZonDpi.Supervisor
