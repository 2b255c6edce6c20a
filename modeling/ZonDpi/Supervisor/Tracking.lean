import ZonDpi.Supervisor.Stop

/-!
One supervisor with any number of callers and monitor loops.

Every successful `spawn` starts a monitor loop of its own, and nothing ends the
loops of earlier workers: they may still be waiting for the mutex, or sleeping in
a backoff, when `spawn` clears `manual_stop` and starts the next worker. What a
step does to the state behind the mutex is one of the sections of `Process`
(`apply_section`), so tracking the worker is a matter of which sections find it
alive. A loop that handles an exit takes for granted that no worker is left. If
one is, the supervisor forgets it, and no stop will kill it
(`tracked_iff_undisturbed`).
-/

namespace ZonDpi.Supervisor

/-! ### What a step does to the protected state -/

inductive Section where
  | idle
  | exit (pid : Nat)
  | handle (code : Option Int) (isManual : Bool) (now : Nat)
  | settle
  | respawn (answer : SpawnAnswer) (now : Nat)
  | spawn (isFile : Bool) (answer : SpawnAnswer) (now : Nat)
  | stop
deriving DecidableEq, Repr

def Section.run (inner : Inner) (os : Os) : Section → Inner × Os
  | .idle => (inner, os)
  | .exit pid => (inner, os.killPid pid)
  | .handle code isManual now => (exitSection isManual code now inner os).2
  | .settle => (settleSection inner, os)
  | .respawn answer now => (respawnSection answer now inner os).2
  | .spawn isFile answer now => (spawnSection isFile answer now inner os).2
  | .stop => stopSection inner os

/-- The sections that end with the mutex given back. -/
def Section.releases : Section → Bool
  | .idle | .exit _ => false
  | _ => true

/-- The section an action runs. -/
def Sys.sectionOf (s : Sys) : Action → Section
  | .exit pid => .exit pid
  | .run i env =>
      match s.tasks[i]? with
      | some (.monitor ⟨.handling code isManual, _⟩) => .handle code isManual env.now
      | some (.monitor ⟨.settling, _⟩) => .settle
      | some (.monitor ⟨.respawning _, _⟩) => .respawn env.spawn env.now
      | some (.spawn .flagged) => .spawn env.isFile env.spawn env.now
      | some (.stop .locked) => .stop
      | _ => .idle

variable {s s' : Sys} {a : Action} {i : Nat}

theorem acquire_unchanged {t : Task} (taken : s.acquire i t = some s') :
    s'.inner = s.inner ∧ s'.os = s.os := by
  unfold Sys.acquire at taken
  split at taken
  · cases taken
    exact ⟨rfl, rfl⟩
  · cases taken

theorem stepMonitor_section {m : Monitor} {env : Ambient} (found : s.tasks[i]? = some (.monitor m))
    (step : s.stepMonitor i m env = some s') :
    (s'.inner, s'.os) = (s.sectionOf (.run i env)).run s.inner s.os ∧
      ((s.sectionOf (.run i env)).releases = true → s'.holder = none) := by
  obtain ⟨pc, child⟩ := m
  simp only [Sys.sectionOf, found]
  cases pc with
  | waiting =>
      simp only [Sys.stepMonitor] at step
      split at step
      · cases step
      · cases step
        exact ⟨rfl, by rintro ⟨⟩⟩
  | exited code =>
      cases step
      exact ⟨rfl, by rintro ⟨⟩⟩
  | checked code isManual =>
      obtain ⟨inner, os⟩ := acquire_unchanged step
      exact ⟨by rw [inner, os]; rfl, by rintro ⟨⟩⟩
  | handling code isManual =>
      simp only [Sys.stepMonitor] at step
      split at step
      · rename_i inner os handled
        cases step
        exact ⟨by simp [Section.run, handled, Sys.release], fun _ => rfl⟩
      · rename_i seconds config inner os handled
        cases step
        exact ⟨by simp [Section.run, handled, Sys.release], fun _ => rfl⟩
  | sleeping config =>
      cases step
      exact ⟨rfl, by rintro ⟨⟩⟩
  | woken config =>
      cases step
      exact ⟨rfl, by rintro ⟨⟩⟩
  | suppressed =>
      obtain ⟨inner, os⟩ := acquire_unchanged step
      exact ⟨by rw [inner, os]; rfl, by rintro ⟨⟩⟩
  | settling =>
      cases step
      exact ⟨rfl, fun _ => rfl⟩
  | cleared config =>
      obtain ⟨inner, os⟩ := acquire_unchanged step
      exact ⟨by rw [inner, os]; rfl, by rintro ⟨⟩⟩
  | respawning config =>
      simp only [Sys.stepMonitor] at step
      split at step
      · rename_i pid inner os spawned
        cases step
        exact ⟨by simp [Section.run, spawned, Sys.release], fun _ => rfl⟩
      · rename_i e inner os failed
        cases step
        exact ⟨by simp [Section.run, failed, Sys.release], fun _ => rfl⟩
  | finished => cases step

theorem stepStop_section {pc : StopPc} {env : Ambient} (found : s.tasks[i]? = some (.stop pc))
    (step : s.stepStop i pc = some s') :
    (s'.inner, s'.os) = (s.sectionOf (.run i env)).run s.inner s.os ∧
      ((s.sectionOf (.run i env)).releases = true → s'.holder = none) := by
  simp only [Sys.sectionOf, found]
  cases pc with
  | called =>
      cases step
      exact ⟨rfl, fun ends => nomatch ends⟩
  | flagged =>
      obtain ⟨inner, os⟩ := acquire_unchanged step
      exact ⟨by rw [inner, os]; rfl, fun ends => nomatch ends⟩
  | locked =>
      cases step
      exact ⟨rfl, fun _ => rfl⟩
  | returned => cases step

theorem stepSpawn_section {pc : SpawnPc} {env : Ambient} (found : s.tasks[i]? = some (.spawn pc))
    (step : s.stepSpawn i env pc = some s') :
    (s'.inner, s'.os) = (s.sectionOf (.run i env)).run s.inner s.os ∧
      ((s.sectionOf (.run i env)).releases = true → s'.holder = none) := by
  simp only [Sys.sectionOf, found]
  cases pc with
  | called =>
      obtain ⟨inner, os⟩ := acquire_unchanged step
      exact ⟨by rw [inner, os]; rfl, fun ends => nomatch ends⟩
  | locked =>
      simp only [Sys.stepSpawn] at step
      split at step
      · cases step
        exact ⟨rfl, fun ends => nomatch ends⟩
      · cases step
        exact ⟨rfl, fun ends => nomatch ends⟩
  | flagged =>
      simp only [Sys.stepSpawn] at step
      split at step
      · rename_i pid inner os spawned
        cases step
        exact ⟨by simp [Section.run, spawned, Sys.release], fun _ => rfl⟩
      · rename_i e inner os failed
        cases step
        exact ⟨by simp [Section.run, failed, Sys.release], fun _ => rfl⟩
  | returned result => cases step

/-- A step runs its section on the protected state, and a section of a task gives
the mutex back. -/
theorem apply_section (applied : s.apply a = some s') :
    (s'.inner, s'.os) = (s.sectionOf a).run s.inner s.os ∧
      ((s.sectionOf a).releases = true → s'.holder = none) := by
  cases a with
  | exit pid =>
      simp only [Sys.apply] at applied
      split at applied
      · cases applied
        exact ⟨rfl, by rintro ⟨⟩⟩
      · cases applied
  | run i env =>
      simp only [Sys.apply] at applied
      split at applied
      · rename_i m found
        exact stepMonitor_section found applied
      · rename_i pc found
        exact stepStop_section found applied
      · rename_i pc found
        exact stepSpawn_section found applied
      · cases applied

/-! ### Tracking the worker -/

/-- A worker that is alive is the one `pid` names, and the supervisor does not
think itself stopped. -/
def Tracks (inner : Inner) (os : Os) : Prop :=
  ∀ pid, os.Alive pid → inner.pid = some pid ∧ inner.state ≠ .stopped

/-- Closing the handle of the job object would kill every worker. -/
def JobCovers (inner : Inner) (os : Os) : Prop :=
  ∀ pid, ¬ (os.dropJob inner.jobObject).Alive pid

/-- The section finds no worker alive that it would lose. A loop that handles an
exit or settles forgets whatever is alive, unless it does so for a manual stop,
when it closes the job object; whoever starts a worker closes the job object of the
one before. -/
def Section.Fits (inner : Inner) (os : Os) : Section → Prop
  | .handle _ isManual _ =>
      (∀ pid, ¬ os.Alive pid) ∨ isManual = true ∧ JobCovers inner os
  | .settle => ∀ pid, ¬ os.Alive pid
  | .respawn (.spawned _) _ | .spawn true (.spawned _) _ => JobCovers inner os
  | _ => True

section Fits

variable {inner : Inner} {os : Os}

/-- Starting a worker keeps the positions of the others. -/
theorem alive_start_dropJob {assigned : Bool} {slot : Option Nat} {pid : Nat}
    (old : pid < os.processes.length) :
    ((os.start assigned).dropJob slot).Alive pid ↔ (os.dropJob slot).Alive pid := by
  have same : (os.start assigned).processes[pid]? = os.processes[pid]? :=
    List.getElem?_append_left old
  cases slot with
  | none => simp only [Os.dropJob, Os.Alive, same]
  | some job => simp only [Os.dropJob, Os.killJob, Os.kill, Os.Alive, List.getElem?_mapIdx, same]

theorem Os.Alive.lt {pid : Nat} (alive : os.Alive pid) : pid < os.processes.length := by
  obtain ⟨process, found, -⟩ := alive
  exact (List.getElem?_eq_some_iff.mp found).1

/-- A new worker is tracked exactly when the job object of the one before covers
all others. -/
theorem tracks_start_iff {inner' : Inner} {assigned : Bool}
    (pid : inner'.pid = some os.processes.length) (running : inner'.state = .running) :
    Tracks inner' ((os.start assigned).dropJob inner.jobObject) ↔ JobCovers inner os := by
  constructor
  · intro tracks p alive
    have old : p < os.processes.length := (Os.alive_of_dropJob alive).lt
    have named := (tracks p ((alive_start_dropJob old).mpr alive)).1
    rw [pid, Option.some.injEq] at named
    omega
  · intro covers p alive
    rcases Os.alive_start _ _ (Os.alive_of_dropJob alive) with before | rfl
    · exact absurd ((alive_start_dropJob before.lt).mp alive) (covers p)
    · exact ⟨pid, by simp [running]⟩

theorem tracks_of_dead (dead : ∀ pid, ¬ os.Alive pid) : Tracks inner os :=
  fun pid alive => absurd alive (dead pid)

/-- A section that starts from a tracked worker leaves it tracked exactly when it
fits. -/
theorem Section.tracks_iff (tracks : Tracks inner os) (locked : Section) :
    Tracks (locked.run inner os).1 (locked.run inner os).2 ↔ locked.Fits inner os := by
  cases locked with
  | idle => exact iff_of_true tracks trivial
  | exit pid =>
      refine iff_of_true (fun p alive => ?_) trivial
      exact tracks p (Os.alive_of_kill alive)
  | handle code isManual now =>
      -- whatever the branch, `pid` is cleared, so that nothing alive is tracked
      have cleared : (exitSection isManual code now inner os).2.1.pid = none := by
        unfold exitSection
        cases isManual with
        | true => rfl
        | false =>
            simp only [Bool.false_eq_true, if_false]
            split <;> rfl
      have dead_iff : Tracks (exitSection isManual code now inner os).2.1
          (exitSection isManual code now inner os).2.2 ↔
            ∀ pid, ¬ (exitSection isManual code now inner os).2.2.Alive pid := by
        constructor
        · intro tracks' pid alive
          simpa [cleared] using (tracks' pid alive).1
        · exact tracks_of_dead
      rw [Section.run, dead_iff]
      cases isManual with
      | true =>
          refine ⟨fun dead => .inr ⟨rfl, dead⟩, ?_⟩
          rintro (dead | ⟨-, covers⟩) pid alive
          · exact dead pid (Os.alive_of_dropJob alive)
          · exact covers pid alive
      | false =>
          have same : (exitSection false code now inner os).2.2 = os := by
            simp only [exitSection, Bool.false_eq_true, if_false]
            split <;> rfl
          rw [same]
          simp [Section.Fits]
  | settle =>
      constructor
      · intro tracks' pid alive
        exact (tracks' pid alive).2 rfl
      · exact tracks_of_dead
  | respawn answer now =>
      cases answer with
      | jobFailed error => exact iff_of_true (fun p alive => ⟨(tracks p alive).1, nofun⟩) trivial
      | processFailed io => exact iff_of_true (fun p alive => ⟨(tracks p alive).1, nofun⟩) trivial
      | spawned assigned => exact tracks_start_iff rfl rfl
  | spawn isFile answer now =>
      cases isFile with
      | false => exact iff_of_true (fun p alive => ⟨(tracks p alive).1, nofun⟩) trivial
      | true =>
          cases answer with
          | jobFailed error =>
              exact iff_of_true (fun p alive => ⟨(tracks p alive).1, nofun⟩) trivial
          | processFailed io =>
              exact iff_of_true (fun p alive => ⟨(tracks p alive).1, nofun⟩) trivial
          | spawned assigned => exact tracks_start_iff rfl rfl
  | stop => exact iff_of_true (tracks_of_dead (not_alive_stopSection tracks)) trivial

end Fits

/-! ### Runs -/

/-- A call a client makes. -/
inductive Call where
  | spawn
  | gracefulStop
deriving DecidableEq, Repr

def Call.task : Call → Task
  | .spawn => .spawn .called
  | .gracefulStop => .stop .called

/-- `ProcessSupervisor::new`, with every call that will be made on it; a call waits
for its first step as long as it likes. -/
def Sys.new (config : SupervisorConfig) (calls : List Call) : Sys where
  inner := .new config
  os := .empty
  manualStop := false
  holder := none
  tasks := calls.map Call.task

def Undisturbed (s : Sys) (a : Action) : Prop := (s.sectionOf a).Fits s.inner s.os

instance (s : Sys) (a : Action) : Decidable (Undisturbed s a) := by
  unfold Undisturbed Section.Fits JobCovers
  split <;> infer_instance

def UndisturbedStep (s s' : Sys) : Prop := ∃ a, s.apply a = some s' ∧ Undisturbed s a

/-- Whenever the mutex is free, at most one worker is alive, and that one is
tracked. -/
def TracksWhenFree (s : Sys) : Prop :=
  s.holder = none →
    (∀ pid pid', s.os.Alive pid → s.os.Alive pid' → pid = pid') ∧
      ∀ pid, s.os.Alive pid → s.inner.pid = some pid ∧ s.inner.state ≠ .stopped

theorem Tracks.whenFree (tracks : Tracks s.inner s.os) : TracksWhenFree s := by
  intro _
  refine ⟨fun pid pid' alive alive' => ?_, tracks⟩
  have named := (tracks pid alive).1
  have named' := (tracks pid' alive').1
  rw [named, Option.some.injEq] at named'
  exact named'

theorem Tracks.step_iff (tracks : Tracks s.inner s.os) (applied : s.apply a = some s') :
    Tracks s'.inner s'.os ↔ Undisturbed s a := by
  have effect := (apply_section applied).1
  have inner := congrArg Prod.fst effect
  have os := congrArg Prod.snd effect
  dsimp only at inner os
  rw [inner, os]
  exact Section.tracks_iff tracks _

theorem tracks_of_undisturbed {config : SupervisorConfig} {calls : List Call}
    (run : Relation.ReflTransGen UndisturbedStep (Sys.new config calls) s) :
    Tracks s.inner s.os := by
  induction run with
  | refl =>
      rintro pid ⟨process, found, -⟩
      simp [Sys.new, Os.empty] at found
  | tail _ step ih =>
      obtain ⟨a, applied, undisturbed⟩ := step
      exact (ih.step_iff applied).mpr undisturbed

/-- A section that does not fit gives the mutex back, so that the loss shows. -/
theorem Section.releases_of_not_fits {inner : Inner} {os : Os} {locked : Section}
    (disturbs : ¬ locked.Fits inner os) : locked.releases = true := by
  cases locked with
  | idle => exact absurd trivial disturbs
  | exit pid => exact absurd trivial disturbs
  | _ => rfl

/-- In a run whose steps are undisturbed the worker is tracked in every state, so
that a stop would kill it; and from there the next step keeps that so exactly when
it is undisturbed. For any number of calls and loops and every order of steps. -/
theorem tracked_iff_undisturbed (config : SupervisorConfig) (calls : List Call)
    (run : Relation.ReflTransGen UndisturbedStep (Sys.new config calls) s) :
    TracksWhenFree s ∧ (∀ pid, ¬ (stopSection s.inner s.os).2.Alive pid) ∧
      ∀ a s', s.apply a = some s' → (TracksWhenFree s' ↔ Undisturbed s a) := by
  have tracks := tracks_of_undisturbed run
  refine ⟨tracks.whenFree, not_alive_stopSection tracks, fun a s' applied => ?_⟩
  constructor
  · intro tracked
    by_contra disturbed
    have free := (apply_section applied).2 (Section.releases_of_not_fits disturbed)
    exact disturbed ((tracks.step_iff applied).mp (tracked free).2)
  · intro undisturbed
    exact ((tracks.step_iff applied).mpr undisturbed).whenFree

/-- A worker that crashes once and is restarted by its loop. -/
def crashAndRestart : List Action :=
  List.replicate 3 (.run 0 quietAmbient) ++ [.exit 0] ++ List.replicate 8 (.run 1 quietAmbient)

theorem tracked_iff_undisturbed_restarted :
    ∃ s, Relation.ReflTransGen UndisturbedStep (Sys.new exampleConfig [.spawn]) s ∧
      s.os.Alive 1 ∧ TracksWhenFree s := by
  have outcome : ((Sys.new exampleConfig [.spawn]).runAll (fun s a => decide (Undisturbed s a))
      crashAndRestart).map (fun s => s.os.isAlive 1) = some true := by
    decide
  obtain ⟨s, run, alive⟩ := Option.map_eq_some_iff.mp outcome
  have reached : Relation.ReflTransGen UndisturbedStep (Sys.new exampleConfig [.spawn]) s :=
    Relation.ReflTransGen.mono
      (fun _ _ ⟨a, applied, fits⟩ => ⟨a, applied, of_decide_eq_true fits⟩) _ _ (reaches_runAll run)
  exact ⟨s, reached, Os.isAlive_iff.mp alive, (tracked_iff_undisturbed _ _ reached).1⟩

/-! ### A loop that outlives its worker -/

/-- Spawn, stop, spawn again. The first loop has not noticed the end of its worker
yet; it reads `manual_stop`, which the second spawn has cleared, and handles a
crash. -/
def staleLoop : List Action :=
  List.replicate 3 (.run 0 quietAmbient) ++ List.replicate 3 (.run 1 quietAmbient) ++
    List.replicate 3 (.run 2 quietAmbient) ++ List.replicate 4 (.run 3 quietAmbient)

theorem stale_loop_loses_worker :
    ¬ ∀ (config : SupervisorConfig) (calls : List Call) (s : Sys),
      Relation.ReflTransGen Step (Sys.new config calls) s → TracksWhenFree s := by
  intro law
  have outcome : ((Sys.new exampleConfig [.spawn, .gracefulStop, .spawn]).runAll (fun _ _ => true)
      staleLoop).map (fun s => decide (s.holder = none) && s.os.isAlive 1 && s.inner.pid.isNone) =
        some true := by
    decide
  obtain ⟨s, run, seen⟩ := Option.map_eq_some_iff.mp outcome
  simp only [Bool.and_eq_true, decide_eq_true_eq] at seen
  have reached : Relation.ReflTransGen Step
      (Sys.new exampleConfig [.spawn, .gracefulStop, .spawn]) s :=
    Relation.ReflTransGen.mono (fun _ _ ⟨a, applied, _⟩ => ⟨a, applied⟩) _ _ (reaches_runAll run)
  have named := ((law _ _ s reached seen.1.1).2 1 (Os.isAlive_iff.mp seen.1.2)).1
  simp [named] at seen

end ZonDpi.Supervisor
