import Mathlib.Data.List.Basic

/-!
The process supervisor (`supervisor/process_supervisor.rs`).

`Inner` is what the mutex protects. Each section of code that runs with the
mutex held is one function on `Inner` and the operating system's processes:
`spawnSection`, `exitSection`, `settleSection`, `respawnSection`, `stopSection`.

`Sys` puts the callers and the `monitor_loop` tasks of one supervisor side by
side. A task is its program counter. Loads and stores of `manual_stop`, taking
the mutex and the section behind it are separate steps, so every interleaving of
the flag with the lock is a run of `Sys.apply`. Durations and instants count
nanoseconds.
-/

namespace ZonDpi.Supervisor

inductive JobObjectError where
  | createFailed (code : Nat)
  | setInfoFailed (code : Nat)
  | assignProcessFailed (code : Nat)
  | invalidHandle
deriving DecidableEq, Repr

def JobObjectError.display : JobObjectError → String
  | .createFailed code => s!"Failed to create Windows Job Object: Win32 error code {code}"
  | .setInfoFailed code =>
      s!"Failed to set Job Object extended limit information: Win32 error code {code}"
  | .assignProcessFailed code =>
      s!"Failed to assign process to Job Object: Win32 error code {code}"
  | .invalidHandle => "Job Object handle is invalid or closed"

inductive SupervisorState where
  | stopped
  | starting
  | running
  | stopping
  | failed
deriving DecidableEq, Repr

def SupervisorState.display : SupervisorState → String
  | .stopped => "Stopped"
  | .starting => "Starting"
  | .running => "Running"
  | .stopping => "Stopping"
  | .failed => "Failed"

inductive SupervisorError where
  | jobObject (error : JobObjectError)
  | spawnFailed (io : String)
  | alreadyRunning (pid : Nat)
  | invalidState (state : SupervisorState)
  | executableNotFound (path : String)
  | restartBudgetExhausted (crashes : Nat)
deriving DecidableEq, Repr

def SupervisorError.display : SupervisorError → String
  | .jobObject error => s!"Job Object initialization failed: {error.display}"
  | .spawnFailed io => s!"Failed to spawn worker process: {io}"
  | .alreadyRunning pid => s!"Process is already running (PID: {pid})"
  | .invalidState state => s!"Process is currently in state {state.display}, cannot start"
  | .executableNotFound path => s!"Worker executable not found at: {path}"
  | .restartBudgetExhausted crashes =>
      s!"Restart budget exhausted ({crashes} crashes within window)"

def fromSecs (n : Nat) : Nat := n * 1000000000

def asSecs (d : Nat) : Nat := d / 1000000000

structure SupervisorConfig where
  name : String
  executable : String
  arguments : List String
  workingDirectory : Option String
  gracefulStopTimeout : Nat
  maxRestartAttempts : Nat
  restartWindow : Nat
deriving DecidableEq, Repr

def SupervisorConfig.new (name executable : String) (arguments : List String) :
    SupervisorConfig where
  name := name
  executable := executable
  arguments := arguments
  workingDirectory := none
  gracefulStopTimeout := fromSecs 3
  maxRestartAttempts := 3
  restartWindow := fromSecs 60

structure Inner where
  config : SupervisorConfig
  state : SupervisorState
  jobObject : Option Nat
  startedAt : Option Nat
  pid : Option Nat
  restartTimestamps : List Nat
  lastExitCode : Option Int
  lastError : Option String
deriving DecidableEq, Repr

/-- `ProcessSupervisor::new`. -/
def Inner.new (config : SupervisorConfig) : Inner where
  config := config
  state := .stopped
  jobObject := none
  startedAt := none
  pid := none
  restartTimestamps := []
  lastExitCode := none
  lastError := none

/-! ### Processes and job objects

A process is identified by its position among all processes ever spawned, so an
identifier is never used twice. -/

structure Process where
  alive : Bool
  job : Option Nat
deriving DecidableEq, Repr

structure Os where
  processes : List Process
  jobs : Nat
deriving DecidableEq, Repr

namespace Os

def empty : Os := ⟨[], 0⟩

def Alive (os : Os) (pid : Nat) : Prop :=
  ∃ process, os.processes[pid]? = some process ∧ process.alive = true

def isAlive (os : Os) (pid : Nat) : Bool :=
  match os.processes[pid]? with
  | some process => process.alive
  | none => false

theorem isAlive_iff {os : Os} {pid : Nat} : os.isAlive pid = true ↔ os.Alive pid := by
  unfold isAlive Alive
  cases os.processes[pid]? <;> simp

instance (os : Os) (pid : Nat) : Decidable (os.Alive pid) :=
  decidable_of_iff _ isAlive_iff

theorem any_alive_iff {os : Os} :
    os.processes.any Process.alive = true ↔ ∃ pid, os.Alive pid := by
  rw [List.any_eq_true]
  constructor
  · rintro ⟨process, member, lives⟩
    obtain ⟨pid, found⟩ := List.getElem?_of_mem member
    exact ⟨pid, process, found, lives⟩
  · rintro ⟨pid, process, found, lives⟩
    exact ⟨process, List.mem_of_getElem? found, lives⟩

instance (os : Os) : Decidable (∀ pid, ¬ os.Alive pid) :=
  decidable_of_iff (¬ os.processes.any Process.alive = true) (by rw [any_alive_iff, not_exists])

/-- Kill the processes at the positions `dies` selects. -/
def kill (dies : Nat → Process → Bool) (os : Os) : Os :=
  { os with processes := os.processes.mapIdx fun pid process =>
      if dies pid process then { process with alive := false } else process }

/-- `TerminateProcess` on one process. -/
def killPid (pid : Nat) : Os → Os := kill fun p _ => p == pid

/-- Terminating a job object, or closing its last handle. -/
def killJob (job : Nat) : Os → Os := kill fun _ process => process.job == some job

def dropJob : Option Nat → Os → Os
  | none, os => os
  | some job, os => os.killJob job

def start (assigned : Bool) (os : Os) : Os where
  processes := os.processes ++ [⟨true, if assigned then some os.jobs else none⟩]
  jobs := os.jobs + 1

theorem alive_kill {dies : Nat → Process → Bool} {os : Os} {pid : Nat}
    (alive : (os.kill dies).Alive pid) :
    ∃ process, os.processes[pid]? = some process ∧ process.alive = true ∧
      dies pid process = false := by
  obtain ⟨process, found, lives⟩ := alive
  simp only [kill, List.getElem?_mapIdx, Option.map_eq_some_iff] at found
  obtain ⟨before, present, rfl⟩ := found
  split at lives
  · exact absurd lives Bool.false_ne_true
  · rename_i spared
    exact ⟨before, present, lives, Bool.eq_false_iff.mpr spared⟩

theorem alive_of_kill {dies : Nat → Process → Bool} {os : Os} {pid : Nat}
    (alive : (os.kill dies).Alive pid) : os.Alive pid := by
  obtain ⟨process, present, lives, -⟩ := alive_kill alive
  exact ⟨process, present, lives⟩

theorem not_alive_killPid {os : Os} {pid : Nat} : ¬ (os.killPid pid).Alive pid := by
  intro alive
  obtain ⟨_, _, _, spared⟩ := alive_kill alive
  simp at spared

theorem alive_of_dropJob {os : Os} {job : Option Nat} {pid : Nat}
    (alive : (os.dropJob job).Alive pid) : os.Alive pid := by
  cases job with
  | none => exact alive
  | some job => exact alive_of_kill alive

/-- After a start exactly the new process and the ones before it can be alive. -/
theorem alive_start (os : Os) (assigned : Bool) {pid : Nat}
    (alive : (os.start assigned).Alive pid) : os.Alive pid ∨ pid = os.processes.length := by
  obtain ⟨process, found, lives⟩ := alive
  simp only [start, List.getElem?_append] at found
  split at found
  · exact Or.inl ⟨process, found, lives⟩
  · rename_i beyond
    have bound := (List.getElem?_eq_some_iff.mp found).1
    simp only [List.length_singleton] at bound
    exact Or.inr (by omega)

end Os

/-! ### Sections that run with the mutex held -/

/-- How the operating system answers `spawn_internal`. A failed assignment to
the job object is only logged, so the worker then runs outside the job. -/
inductive SpawnAnswer where
  | jobFailed (error : JobObjectError)
  | processFailed (io : String)
  | spawned (assigned : Bool)
deriving DecidableEq, Repr

/-- `spawn_internal`: the new job object replaces the one in the slot, whose
handle is closed by that. -/
def spawnInternal (answer : SpawnAnswer) (slot : Option Nat) (os : Os) :
    Except SupervisorError Nat × Option Nat × Os :=
  match answer with
  | .jobFailed error => (.error (.jobObject error), slot, os)
  | .processFailed io => (.error (.spawnFailed io), slot, { os with jobs := os.jobs + 1 })
  | .spawned assigned =>
      (.ok os.processes.length, some os.jobs, (os.start assigned).dropJob slot)

/-- The locked body of `spawn` after `manual_stop` has been cleared. -/
def spawnSection (isFile : Bool) (answer : SpawnAnswer) (now : Nat) (inner : Inner) (os : Os) :
    Except SupervisorError Nat × Inner × Os :=
  let inner := { inner with state := .starting }
  if !isFile then
    let path := inner.config.executable
    (.error (.executableNotFound path),
      { inner with state := .failed, lastError := some s!"Executable not found: {path}" }, os)
  else
    match spawnInternal answer inner.jobObject os with
    | (.ok pid, slot, os) =>
        (.ok pid, { inner with jobObject := slot, pid := some pid, startedAt := some now,
                               state := .running, lastError := none }, os)
    | (.error e, slot, os) =>
        (.error e, { inner with jobObject := slot, state := .failed,
                                lastError := some e.display }, os)

/-- What the monitor loop does after it has handled an exit. -/
inductive AfterExit where
  | finished
  | backoff (seconds : Nat) (config : SupervisorConfig)
deriving DecidableEq, Repr

def backoffSecs : Nat → Nat
  | 1 => 1
  | 2 => 2
  | _ => 5

/-- The timestamps still inside the window, with the new crash at the end. -/
def recordCrash (now window : Nat) (timestamps : List Nat) : List Nat :=
  timestamps.filter (fun t => decide (now - t < window)) ++ [now]

/-- `monitor_loop`, first locked section: bookkeeping after the worker exited. -/
def exitSection (isManual : Bool) (exitCode : Option Int) (now : Nat) (inner : Inner) (os : Os) :
    AfterExit × Inner × Os :=
  let inner := { inner with lastExitCode := exitCode }
  if isManual then
    (.finished, { inner with state := .stopped, pid := none, startedAt := none,
                             jobObject := none }, os.dropJob inner.jobObject)
  else
    let timestamps := recordCrash now inner.config.restartWindow inner.restartTimestamps
    let inner := { inner with state := .failed, pid := none, startedAt := none,
                              restartTimestamps := timestamps }
    let attempts := timestamps.length
    if attempts > inner.config.maxRestartAttempts then
      let message := s!"Worker crashed repeatedly: {attempts} failures within " ++
        s!"{asSecs inner.config.restartWindow}s"
      (.finished, { inner with lastError := some message }, os)
    else
      (.backoff (backoffSecs attempts) inner.config, inner, os)

/-- `monitor_loop`, after a backoff that found `manual_stop` set. -/
def settleSection (inner : Inner) : Inner := { inner with state := .stopped }

/-- `monitor_loop`, after a backoff that found `manual_stop` clear. -/
def respawnSection (answer : SpawnAnswer) (now : Nat) (inner : Inner) (os : Os) :
    Except SupervisorError Nat × Inner × Os :=
  let inner := { inner with state := .starting }
  match spawnInternal answer inner.jobObject os with
  | (.ok pid, slot, os) =>
      (.ok pid, { inner with jobObject := slot, pid := some pid, startedAt := some now,
                             state := .running }, os)
  | (.error e, slot, os) =>
      (.error e, { inner with jobObject := slot, state := .failed,
                              lastError := some s!"Restart attempt failed: {e.display}" }, os)

def killTracked : Option Nat → Os → Os
  | none, os => os
  | some pid, os => os.killPid pid

/-- `graceful_stop`, locked body. -/
def stopSection (inner : Inner) (os : Os) : Inner × Os :=
  if inner.state = .stopped then (inner, os)
  else
    ({ inner with state := .stopped, jobObject := none, pid := none, startedAt := none },
      killTracked inner.pid (os.dropJob inner.jobObject))

/-- A stop kills every worker if the one that can be alive is tracked. -/
theorem not_alive_stopSection {inner : Inner} {os : Os}
    (tracked : ∀ pid, os.Alive pid → inner.pid = some pid ∧ inner.state ≠ .stopped) (pid : Nat) :
    ¬ (stopSection inner os).2.Alive pid := by
  unfold stopSection
  split
  · rename_i already
    exact fun alive => (tracked pid alive).2 already
  · intro alive
    -- whoever is alive is the tracked process, and that one is killed by its pid
    cases known : inner.pid with
    | none =>
        rw [known] at alive
        have named := (tracked pid (Os.alive_of_dropJob alive)).1
        simp [known] at named
    | some trackedPid =>
        rw [known] at alive
        have named := (tracked pid (Os.alive_of_dropJob (Os.alive_of_kill alive))).1
        rw [known] at named
        cases named
        exact Os.not_alive_killPid alive

/-! ### Tasks -/

inductive MonitorPc where
  /-- `child.wait().await` -/
  | waiting
  /-- the exit is known, `manual_stop` not yet read -/
  | exited (code : Option Int)
  /-- `manual_stop` read, mutex not yet taken -/
  | checked (code : Option Int) (isManual : Bool)
  /-- mutex held, exit not yet handled -/
  | handling (code : Option Int) (isManual : Bool)
  | sleeping (config : SupervisorConfig)
  | woken (config : SupervisorConfig)
  /-- `manual_stop` read as set after the backoff, mutex not yet taken -/
  | suppressed
  | settling
  /-- `manual_stop` read as clear after the backoff, mutex not yet taken -/
  | cleared (config : SupervisorConfig)
  | respawning (config : SupervisorConfig)
  | finished
deriving DecidableEq, Repr

/-- The counters at which the monitor loop holds the mutex. -/
def MonitorPc.holds : MonitorPc → Bool
  | .handling _ _ | .settling | .respawning _ => true
  | _ => false

structure Monitor where
  pc : MonitorPc
  child : Nat
deriving DecidableEq, Repr

inductive StopPc where
  | called
  | flagged
  | locked
  | returned
deriving DecidableEq, Repr

inductive SpawnPc where
  | called
  | locked
  | flagged
  | returned (result : Except SupervisorError Unit)
deriving DecidableEq, Repr

inductive Task where
  | monitor (m : Monitor)
  | stop (pc : StopPc)
  | spawn (pc : SpawnPc)
deriving DecidableEq, Repr

structure Sys where
  inner : Inner
  os : Os
  manualStop : Bool
  /-- The task that holds the mutex. -/
  holder : Option Nat
  tasks : List Task
deriving DecidableEq, Repr

/-- What a step may learn from outside: the exit code of a process that has
ended, the clock, whether the executable is there, the answer to a spawn. -/
structure Ambient where
  exitCode : Option Int
  now : Nat
  isFile : Bool
  spawn : SpawnAnswer
deriving DecidableEq, Repr

inductive Action where
  /-- A worker process ends by itself. -/
  | exit (pid : Nat)
  /-- The task at a position takes its next step. -/
  | run (task : Nat) (ambient : Ambient)
deriving DecidableEq, Repr

namespace Sys

def setTask (s : Sys) (i : Nat) (t : Task) : Sys := { s with tasks := s.tasks.set i t }

/-- Take the mutex, if it is free. -/
def acquire (s : Sys) (i : Nat) (t : Task) : Option Sys :=
  match s.holder with
  | none => some { s.setTask i t with holder := some i }
  | some _ => none

/-- Finish a locked section and give the mutex back. -/
def release (s : Sys) (i : Nat) (t : Task) (inner : Inner) (os : Os) : Sys :=
  { s.setTask i t with inner := inner, os := os, holder := none }

def stepMonitor (s : Sys) (i : Nat) (m : Monitor) (env : Ambient) : Option Sys :=
  match m.pc with
  | .waiting =>
      if s.os.isAlive m.child then none
      else some (s.setTask i (.monitor { m with pc := .exited env.exitCode }))
  | .exited code => some (s.setTask i (.monitor { m with pc := .checked code s.manualStop }))
  | .checked code isManual =>
      s.acquire i (.monitor { m with pc := .handling code isManual })
  | .handling code isManual =>
      match exitSection isManual code env.now s.inner s.os with
      | (.finished, inner, os) =>
          some (s.release i (.monitor { m with pc := .finished }) inner os)
      | (.backoff _ config, inner, os) =>
          some (s.release i (.monitor { m with pc := .sleeping config }) inner os)
  | .sleeping config => some (s.setTask i (.monitor { m with pc := .woken config }))
  | .woken config =>
      some (s.setTask i (.monitor
        { m with pc := if s.manualStop then .suppressed else .cleared config }))
  | .suppressed => s.acquire i (.monitor { m with pc := .settling })
  | .settling =>
      some (s.release i (.monitor { m with pc := .finished }) (settleSection s.inner) s.os)
  | .cleared config => s.acquire i (.monitor { m with pc := .respawning config })
  | .respawning _ =>
      match respawnSection env.spawn env.now s.inner s.os with
      | (.ok pid, inner, os) => some (s.release i (.monitor ⟨.waiting, pid⟩) inner os)
      | (.error _, inner, os) =>
          some (s.release i (.monitor { m with pc := .finished }) inner os)
  | .finished => none

def stepStop (s : Sys) (i : Nat) : StopPc → Option Sys
  | .called => some { s.setTask i (.stop .flagged) with manualStop := true }
  | .flagged => s.acquire i (.stop .locked)
  | .locked =>
      let (inner, os) := stopSection s.inner s.os
      some (s.release i (.stop .returned) inner os)
  | .returned => none

def stepSpawn (s : Sys) (i : Nat) (env : Ambient) : SpawnPc → Option Sys
  | .called => s.acquire i (.spawn .locked)
  | .locked =>
      match s.inner.state, s.inner.pid with
      | .running, some pid =>
          some (s.release i (.spawn (.returned (.error (.alreadyRunning pid)))) s.inner s.os)
      | _, _ => some { s.setTask i (.spawn .flagged) with manualStop := false }
  | .flagged =>
      match spawnSection env.isFile env.spawn env.now s.inner s.os with
      | (.ok pid, inner, os) =>
          let s := s.release i (.spawn (.returned (.ok ()))) inner os
          some { s with tasks := s.tasks ++ [.monitor ⟨.waiting, pid⟩] }
      | (.error e, inner, os) =>
          some (s.release i (.spawn (.returned (.error e))) inner os)
  | .returned _ => none

/-- One step of the whole system; `none` when the action is not enabled. -/
def apply (s : Sys) : Action → Option Sys
  | .exit pid => if s.os.isAlive pid then some { s with os := s.os.killPid pid } else none
  | .run i env =>
      match s.tasks[i]? with
      | some (.monitor m) => s.stepMonitor i m env
      | some (.stop pc) => s.stepStop i pc
      | some (.spawn pc) => s.stepSpawn i env pc
      | none => none

/-- Follow a list of actions; `none` when one is not enabled or not allowed. -/
def runAll (allowed : Sys → Action → Bool) : Sys → List Action → Option Sys
  | s, [] => some s
  | s, a :: rest =>
      if allowed s a then
        match s.apply a with
        | some s' => s'.runAll allowed rest
        | none => none
      else none

end Sys

end ZonDpi.Supervisor
