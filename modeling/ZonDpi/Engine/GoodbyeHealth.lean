import ZonDpi.Engine.Adapter
import ZonDpi.Supervisor.Output

/-!
What the health check of GoodbyeDPI says about the current worker.

`health_check` judges by the last 50 lines of the log, which all workers of a supervisor
share. So it may go by lines that the current worker has not printed, those of a worker that
crashed before it, and it may overlook lines that the current worker has printed, those that 50
others have followed or that no reader has taken yet. The verdict is the one about the current
worker exactly if these two groups of lines do not tip it (`health_reflects_worker_iff`).
-/

namespace ZonDpi.Engine

open BoundedQueue ZonDpi.Std ZonDpi.Ipc ZonDpi.Supervisor

/-! ### The verdict on a list of lines -/

def isDriverError (line : String) : Bool :=
  let lower := toLowercase line
  contains "failed to open windivert".toList lower || contains "access is denied".toList lower ||
    contains "error opening windivert device".toList lower

def isActivation (line : String) : Bool :=
  let lower := toLowercase line
  contains "filter activated".toList lower || contains "goodbyedpi is now running".toList lower

theorem scanLogs_eq (activated : Bool) (lines : List String) :
    scanLogs activated lines =
      match lines.find? isDriverError with
      | some line => .error line
      | none => .ok (activated || lines.any isActivation) := by
  induction lines generalizing activated with
  | nil => simp [scanLogs]
  | cons line lines ih =>
      cases bad : isDriverError line with
      | true =>
          rw [scanLogs, List.find?_cons_of_pos bad]
          exact if_pos bad
      | false =>
          rw [scanLogs, List.find?_cons_of_neg (by simp [bad])]
          refine (if_neg (Bool.eq_false_iff.mp bad)).trans ((ih _).trans ?_)
          simp only [List.any_cons, isActivation, Bool.or_assoc]

theorem goodbyeHealth_isHealthy (status : SupervisorStatus) (lines : List String) :
    (goodbyeHealth status lines).isHealthy =
      (decide (status.state = .running) && (!lines.any isDriverError &&
        (lines.any isActivation || decide (status.uptimeSeconds.getD 0 < 2)))) := by
  unfold goodbyeHealth
  by_cases running : status.state = .running
  · rw [if_neg (not_not_intro running), scanLogs_eq]
    cases found : lines.find? isDriverError with
    | some line =>
        have bad : lines.any isDriverError = true := by
          rw [List.any_eq_true]
          exact ⟨line, List.mem_of_find?_eq_some found, List.find?_some found⟩
        simp [bad]
    | none =>
        have clean : lines.any isDriverError = false := by
          simpa using List.find?_eq_none.mp found
        by_cases young : status.uptimeSeconds.getD 0 < 2
        · have initializing : ¬ 2 ≤ status.uptimeSeconds.getD 0 := Nat.not_le.mpr young
          simp [running, clean, young, initializing]
        · have due : 2 ≤ status.uptimeSeconds.getD 0 := Nat.le_of_not_lt young
          cases active : lines.any isActivation <;> simp [running, clean, young, due]
  · simp [running]

/-! ### The check and the worker -/

/-- `ProcessSupervisor::status`. -/
def SupervisorStatus.of (inner : Inner) (now : Nat) : SupervisorStatus where
  state := inner.state
  pid := inner.pid
  uptimeSeconds := inner.startedAt.map fun since => asSecs (now - since)
  lastError := inner.lastError

/-- The health check of an adapter whose supervisor is in this state. -/
def healthCheck (s : LoggedSys) (now : Nat) : HealthCheckResult :=
  goodbyeHealth (.of s.sys.inner now)
    ((s.buffer.recentEntries (some 50)).map LogEntryDto.line)

/-- How long the current worker has been up. -/
def uptime (s : LoggedSys) (now : Nat) : Nat := now - s.started.getLastD 0

/-- The current worker has reported no driver error, and it has reported its activation or is
still young. -/
def WorkerHealthy (s : LoggedSys) (now : Nat) : Prop :=
  (∀ line ∈ s.printed s.current, isDriverError line = false) ∧
    ((∃ line ∈ s.printed s.current, isActivation line = true) ∨ uptime s now < fromSecs 2)

instance (s : LoggedSys) (now : Nat) : Decidable (WorkerHealthy s now) := by
  unfold WorkerHealthy
  infer_instance

section Evidence

variable (chars : WordChars) (s : LoggedSys)

/-- The lines the check goes by. -/
def shown : List String := (s.log chars).rtake 50

/-- The current worker's lines among them. -/
def seen : List String := (s.printed s.current).filter (· ∈ shown chars s)

/-- Lines the check goes by that the current worker has not printed. -/
def stale : List String := (shown chars s).filter (· ∉ s.printed s.current)

/-- Lines the current worker has printed that the check does not see. -/
def missed : List String := (s.printed s.current).filter (· ∉ shown chars s)

/-- The stale and the missed lines do not tip the verdict. Where the check sees the current
worker report a driver error they cannot. Where it sees an activation, or the worker is
young, one more driver error would; otherwise an activation without one. -/
def EvenlyTold (now : Nat) : Prop :=
  (seen chars s).any isDriverError = true ∨
    if (seen chars s).any isActivation = true ∨ uptime s now < fromSecs 2 then
      (stale chars s).any isDriverError = (missed chars s).any isDriverError
    else
      ((stale chars s).any isActivation && !(stale chars s).any isDriverError) =
        ((missed chars s).any isActivation && !(missed chars s).any isDriverError)

instance (now : Nat) : Decidable (EvenlyTold chars s now) := by
  unfold EvenlyTold
  infer_instance

variable {chars s}

/-- Evidence that two lists share may be looked for in either. -/
theorem any_common (test : String → Bool) (lines others : List String) :
    (lines.filter (· ∈ others)).any test = (others.filter (· ∈ lines)).any test := by
  rw [Bool.eq_iff_iff]
  simp only [List.any_eq_true, List.mem_filter, decide_eq_true_eq]
  exact exists_congr fun line => and_congr_left' and_comm

/-- Evidence in one list is shared with another or it is not. -/
theorem any_split (test : String → Bool) (lines others : List String) :
    lines.any test =
      ((lines.filter (· ∈ others)).any test || (lines.filter (· ∉ others)).any test) := by
  induction lines with
  | nil => rfl
  | cons line lines ih =>
      by_cases common : line ∈ others
      · simp [common, ih, Bool.or_assoc]
      · simp [common, ih, Bool.or_left_comm]

theorem any_shown (test : String → Bool) :
    (shown chars s).any test = ((seen chars s).any test || (stale chars s).any test) := by
  rw [seen, any_common]
  exact any_split test (shown chars s) (s.printed s.current)

theorem any_printed (test : String → Bool) :
    (s.printed s.current).any test = ((seen chars s).any test || (missed chars s).any test) :=
  any_split test (s.printed s.current) (shown chars s)

theorem workerHealthy_iff {now : Nat} : WorkerHealthy s now ↔
    (!(s.printed s.current).any isDriverError && ((s.printed s.current).any isActivation ||
      decide (uptime s now < fromSecs 2))) = true := by
  simp [WorkerHealthy]

/-- A running worker's health, from the lines shown. -/
theorem healthCheck_isHealthy (recorded : Recorded chars s) (running : s.sys.inner.state = .running)
    (now : Nat) :
    (healthCheck s now).isHealthy = (!(shown chars s).any isDriverError &&
      ((shown chars s).any isActivation || decide (uptime s now < fromSecs 2))) := by
  obtain ⟨nonempty, -, startedAt⟩ := recorded.known running
  have up : (SupervisorStatus.of s.sys.inner now).uptimeSeconds.getD 0 = asSecs (uptime s now) := by
    rw [SupervisorStatus.of, startedAt, uptime, List.getLast?_eq_some_getLast nonempty,
      List.getLastD_eq_getLast?, List.getLast?_eq_some_getLast nonempty]
    rfl
  have young : asSecs (uptime s now) < 2 ↔ uptime s now < fromSecs 2 := by
    unfold asSecs fromSecs
    omega
  rw [healthCheck, goodbyeHealth_isHealthy, recorded.recent (by decide), up,
    decide_eq_decide.mpr young]
  have state : (SupervisorStatus.of s.sys.inner now).state = .running := running
  rw [decide_eq_true state, Bool.true_and]
  rfl

/-- Two verdicts on overlapping evidence. -/
theorem verdicts_agree_iff : ∀ seenError seenActive staleError staleActive missedError missedActive
    young : Bool,
    ((!(seenError || staleError) && (seenActive || staleActive || young)) =
      (!(seenError || missedError) && (seenActive || missedActive || young))) ↔
    (seenError = true ∨
      if seenActive = true ∨ young = true then staleError = missedError
      else (staleActive && !staleError) = (missedActive && !missedError)) := by
  decide

/-- The check sees all that a first worker has printed, and nothing else, if its readers have
kept up, the log has no more than 50 lines and the lines are stored as they are. -/
theorem evenlyTold_of_first {config : SupervisorConfig} {calls : List Call}
    {acts : List LogAction} (run : (LoggedSys.new config calls).runAll chars acts = some s)
    (first : s.sys.os.processes.length = 1)
    (drained : ∀ stream, (s.pipes s.current stream).unread = [])
    (few : (s.log chars).length ≤ 50)
    (plain : ∀ line ∈ s.printed s.current, LogRingBuffer.stored chars line = some line)
    (now : Nat) : EvenlyTold chars s now := by
  have delivered : Delivered s := delivered_of_run run
  have worker (pid : Nat) (line : String) (printed : line ∈ s.printed pid) : pid = s.current := by
    have spawned := delivered.spawned pid line printed
    unfold LoggedSys.current
    omega
  have all : shown chars s = s.log chars := rtake_of_length_le few
  have noneStale : stale chars s = [] := by
    refine List.filter_eq_nil_iff.mpr fun text member => ?_
    rw [all, LoggedSys.mem_log] at member
    obtain ⟨stream, line, sinceEpoch, member, kept⟩ := member
    obtain ⟨pid, mine⟩ := delivered.pushed stream line sinceEpoch member
    rw [worker pid line mine] at mine
    rw [plain line mine, Option.some.injEq] at kept
    simpa [← kept] using mine
  have noneMissed : missed chars s = [] := by
    refine List.filter_eq_nil_iff.mpr fun line mine => ?_
    rcases delivered.printed s.current line mine with ⟨stream, waits⟩ | ⟨stream, sinceEpoch, done⟩
    · simp [drained] at waits
    · have logged : line ∈ s.log chars :=
        LoggedSys.mem_log.mpr ⟨stream, line, sinceEpoch, done, plain line mine⟩
      simpa [all] using logged
  right
  rw [noneStale, noneMissed]
  split <;> rfl

end Evidence

/-- In every history of one supervisor that ends with the worker running, the health check
says of the current worker what it should exactly if the lines of others and the lines it
overlooks do not tip the verdict. -/
theorem health_reflects_worker_iff (chars : WordChars) (config : SupervisorConfig)
    (calls : List Call) (acts : List LogAction) (s : LoggedSys)
    (run : (LoggedSys.new config calls).runAll chars acts = some s)
    (running : s.sys.inner.state = .running) (now : Nat) :
    ((healthCheck s now).isHealthy = true ↔ WorkerHealthy s now) ↔ EvenlyTold chars s now := by
  have recorded : Recorded chars s := recorded_of_run run
  rw [workerHealthy_iff, ← Bool.eq_iff_iff, healthCheck_isHealthy recorded running,
    any_shown isDriverError, any_shown isActivation, any_printed isDriverError,
    any_printed isActivation, verdicts_agree_iff]
  simp only [decide_eq_true_eq]
  rfl

/-! ### Histories -/

def startWorker : List LogAction := List.replicate 3 (.supervise (.run 0 quietAmbient))

/-- The worker prints a line and its reader takes it. -/
def printLine (pid : Nat) (line : String) : List LogAction :=
  [.print pid .stdout (some line), .read pid .stdout none]

def activationLine : String := "Filter activated, GoodbyeDPI is now running!"

theorem health_reflects_worker_iff_activated :
    ∃ s, (LoggedSys.new exampleConfig [.spawn]).runAll asciiWordChars
        (startWorker ++ printLine 0 activationLine) = some s ∧ s.sys.inner.state = .running ∧
      ((healthCheck s (fromSecs 10)).isHealthy = true ↔ WorkerHealthy s (fromSecs 10)) := by
  have ran : ((LoggedSys.new exampleConfig [.spawn]).runAll asciiWordChars
      (startWorker ++ printLine 0 activationLine)).map (fun s => (s.sys.inner.state,
        decide (EvenlyTold asciiWordChars s (fromSecs 10)))) = some (.running, true) := by
    decide +kernel
  obtain ⟨s, run, known⟩ := Option.map_eq_some_iff.mp ran
  obtain ⟨running, even⟩ := Prod.mk.inj known
  exact ⟨s, run, running, (health_reflects_worker_iff _ _ _ _ s run running _).mpr
    (of_decide_eq_true even)⟩

/-- The first worker is refused the driver and exits, and the second one is let in. -/
def refusedOnce : List LogAction :=
  startWorker ++ printLine 0 "Error opening filter: Access is denied." ++
    [.supervise (.exit 0)] ++ List.replicate 8 (.supervise (.run 1 quietAmbient)) ++
    printLine 1 activationLine

/-- A worker that is let in and then prints 50 lines. -/
def talkative : List LogAction :=
  startWorker ++ printLine 0 activationLine ++ (List.replicate 50 (printLine 0 "packet")).flatten

/-- The health check is right about the current worker after this history. -/
def ReflectsAfter (acts : List LogAction) : Prop :=
  ∀ s, (LoggedSys.new exampleConfig [.spawn]).runAll asciiWordChars acts = some s →
    s.sys.inner.state = .running →
      ∀ now, (healthCheck s now).isHealthy = true ↔ WorkerHealthy s now

theorem not_reflectsAfter {acts : List LogAction} (now : Nat)
    (ran : ((LoggedSys.new exampleConfig [.spawn]).runAll asciiWordChars acts).map (fun s =>
      (s.sys.inner.state, (healthCheck s now).isHealthy, decide (WorkerHealthy s now))) =
        some (.running, false, true)) : ¬ ReflectsAfter acts := by
  intro reflects
  obtain ⟨s, run, known⟩ := Option.map_eq_some_iff.mp ran
  obtain ⟨running, verdicts⟩ := Prod.mk.inj known
  obtain ⟨unhealthy, healthy⟩ := Prod.mk.inj verdicts
  have verdict := (reflects s run running now).mpr (of_decide_eq_true healthy)
  rw [unhealthy] at verdict
  cases verdict

/-- Ten seconds after the start the check fails a healthy worker in both histories. -/
theorem health_misled : ¬ ReflectsAfter refusedOnce ∧ ¬ ReflectsAfter talkative := by
  constructor
  · refine not_reflectsAfter (fromSecs 10) ?_
    decide +kernel
  · refine not_reflectsAfter (fromSecs 10) ?_
    decide +kernel

end ZonDpi.Engine
