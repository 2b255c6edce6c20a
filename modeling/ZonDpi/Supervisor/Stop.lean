import Mathlib.Logic.Relation
import ZonDpi.Supervisor.Process

/-!
`graceful_stop` against `monitor_loop`.

One supervisor whose `spawn` succeeded, its monitor loop, worker exits at any
time and one call of `graceful_stop`. The stop is final when, after it has
returned, no worker lives and the loop starts none.

The loop reads `manual_stop` a last time before it takes the mutex to respawn.
If the stop takes the mutex between that read and the respawn, the loop does not
notice it and starts a worker after the stop has returned (`Inv.race_lost`). In
every run without that one order of steps the stop is final (`Inv.stopFinal`).
-/

namespace ZonDpi.Supervisor

/-- A supervisor right after its `spawn` succeeded, with its monitor loop and a
caller of `graceful_stop`. -/
def supervised (config : SupervisorConfig) (assigned : Bool) (now : Nat) : Sys :=
  match spawnSection true (.spawned assigned) now (Inner.new config) Os.empty with
  | (_, inner, os) =>
      { inner := inner, os := os, manualStop := false, holder := none
        tasks := [.monitor ⟨.waiting, 0⟩, .stop .called] }

/-- The step by which a monitor loop executes `spawn_internal`. -/
def Respawns (s : Sys) : Action → Prop
  | .exit _ => False
  | .run i _ => ∃ m config, s.tasks[i]? = some (.monitor m) ∧ m.pc = .respawning config

/-- Once `graceful_stop` has returned no worker is alive and the monitor loop
has no step that starts one. -/
def StopFinal (s : Sys) : Prop :=
  .stop .returned ∈ s.tasks →
    (∀ pid, ¬ s.os.Alive pid) ∧ ∀ a s', s.apply a = some s' → ¬ Respawns s a

/-- The task is a monitor loop between its last read of `manual_stop`, which
found it clear, and the mutex. -/
def Task.isCleared : Task → Bool
  | .monitor ⟨.cleared _, _⟩ => true
  | _ => false

/-- `graceful_stop` takes the mutex while a monitor loop is about to take it for
a respawn. -/
def Races (s : Sys) : Action → Prop
  | .exit _ => False
  | .run i _ => s.tasks[i]? = some (.stop .flagged) ∧ s.tasks.any Task.isCleared = true

instance (s : Sys) (a : Action) : Decidable (Races s a) := by
  cases a <;> unfold Races <;> infer_instance

def Step (s s' : Sys) : Prop := ∃ a, s.apply a = some s'

def RaceFreeStep (s s' : Sys) : Prop := ∃ a, s.apply a = some s' ∧ ¬ Races s a

/-! ### The invariant -/

/-- What holds along a race-free run. A live worker is the child the loop waits
for and the process `pid` names, so that a stop kills it; a loop past its last
check of the flag precedes the stop's locked section. -/
structure Inv (s : Sys) (m : Monitor) (stop : StopPc) : Prop where
  tasks : s.tasks = [.monitor m, .stop stop]
  flag : s.manualStop = true ↔ stop ≠ .called
  monitorHolds : s.holder = some 0 ↔ m.pc.holds = true
  stopHolds : s.holder = some 1 ↔ stop = .locked
  onlyChild : ∀ pid, s.os.Alive pid → m.pc = .waiting ∧ pid = m.child
  tracked : ∀ pid, s.os.Alive pid →
    s.inner.pid = some pid ∧ s.inner.state ≠ .stopped ∧ stop ≠ .returned
  beforeStop : ∀ config, m.pc = .cleared config ∨ m.pc = .respawning config →
    stop ≠ .locked ∧ stop ≠ .returned

theorem inv_supervised (config : SupervisorConfig) (assigned : Bool) (now : Nat) :
    Inv (supervised config assigned now) ⟨.waiting, 0⟩ .called where
  tasks := rfl
  flag := by simp [supervised, spawnSection, spawnInternal]
  monitorHolds := by simp [supervised, spawnSection, spawnInternal, MonitorPc.holds]
  stopHolds := by simp [supervised, spawnSection, spawnInternal]
  onlyChild := by
    intro pid alive
    rcases Os.alive_start Os.empty assigned alive with ⟨_, old, _⟩ | new
    · simp [Os.empty] at old
    · exact ⟨rfl, new⟩
  tracked := by
    intro pid alive
    rcases Os.alive_start Os.empty assigned alive with ⟨_, old, _⟩ | rfl
    · simp [Os.empty] at old
    · simp [supervised, spawnSection, spawnInternal, Inner.new, Os.empty]
  beforeStop := by simp

variable {s s' : Sys} {m : Monitor} {stop : StopPc}

theorem Inv.not_alive (inv : Inv s m stop) (moved : m.pc ≠ .waiting) (pid : Nat) :
    ¬ s.os.Alive pid :=
  fun alive => moved (inv.onlyChild pid alive).1

/-- A step of the loop that only moves its program counter, in a world without
a live worker. -/
theorem Inv.move (inv : Inv s m stop) {pc : MonitorPc} (dead : ∀ pid, ¬ s.os.Alive pid)
    (before : m.pc.holds = false) (after : pc.holds = false)
    (late : ∀ config, pc ≠ .respawning config)
    (early : ∀ config, pc = .cleared config → stop = .called) :
    Inv (s.setTask 0 (.monitor { m with pc := pc })) { m with pc := pc } stop where
  tasks := by simp [Sys.setTask, inv.tasks]
  flag := inv.flag
  monitorHolds := by simpa [Sys.setTask, before, after] using inv.monitorHolds
  stopHolds := inv.stopHolds
  onlyChild := fun pid alive => absurd alive (dead pid)
  tracked := fun pid alive => absurd alive (dead pid)
  beforeStop := by
    rintro config (eq | eq)
    · simp [early config eq]
    · exact absurd eq (late config)

/-- The loop takes the mutex. -/
theorem Inv.take (inv : Inv s m stop) {pc : MonitorPc} (moved : m.pc ≠ .waiting)
    (after : pc.holds = true) (late : ∀ config, pc ≠ .cleared config)
    (early : ∀ config, pc = .respawning config → m.pc = .cleared config)
    (taken : s.acquire 0 (.monitor { m with pc := pc }) = some s') :
    Inv s' { m with pc := pc } stop := by
  unfold Sys.acquire at taken
  split at taken
  · rename_i free
    cases taken
    have notLocked : stop ≠ .locked := fun locked => by simpa [free] using inv.stopHolds.mpr locked
    exact
      { tasks := by simp [Sys.setTask, inv.tasks]
        flag := inv.flag
        monitorHolds := by simp [after]
        stopHolds := by simp [notLocked]
        onlyChild := fun pid alive => absurd alive (inv.not_alive moved pid)
        tracked := fun pid alive => absurd alive (inv.not_alive moved pid)
        beforeStop := by
          rintro config (eq | eq)
          · exact absurd eq (late config)
          · exact inv.beforeStop config (.inl (early config eq)) }
  · cases taken

/-- The loop ends a locked section that leaves no worker alive. -/
theorem Inv.give (inv : Inv s m stop) {pc : MonitorPc} {inner : Inner} {os : Os}
    (held : m.pc.holds = true) (after : pc.holds = false) (late : ∀ config, pc ≠ .cleared config)
    (dead : ∀ pid, ¬ os.Alive pid) :
    Inv (s.release 0 (.monitor { m with pc := pc }) inner os) { m with pc := pc } stop := by
  have holder : s.holder = some 0 := inv.monitorHolds.mpr held
  have notLocked : stop ≠ .locked := fun locked => by
    simpa [holder] using inv.stopHolds.mpr locked
  exact
    { tasks := by simp [Sys.release, Sys.setTask, inv.tasks]
      flag := inv.flag
      monitorHolds := by simp [Sys.release, after]
      stopHolds := by simp [Sys.release, notLocked]
      onlyChild := fun pid alive => absurd alive (dead pid)
      tracked := fun pid alive => absurd alive (dead pid)
      beforeStop := by
        rintro config (eq | eq)
        · exact absurd eq (late config)
        · have : pc = .respawning config := eq
          simp [this, MonitorPc.holds] at after }

/-- The respawn itself: the new child is the only live process and is tracked. -/
theorem Inv.respawn (inv : Inv s m stop) {config : SupervisorConfig} {env : Ambient}
    (at_ : m.pc = .respawning config) (step : s.stepMonitor 0 m env = some s') :
    ∃ m', Inv s' m' stop := by
  have held : m.pc.holds = true := by rw [at_]; rfl
  have moved : m.pc ≠ .waiting := by rw [at_]; exact MonitorPc.noConfusion
  have dead := inv.not_alive moved
  have notStopped := inv.beforeStop config (.inr at_)
  simp only [Sys.stepMonitor, at_, respawnSection, spawnInternal] at step
  cases answer : env.spawn with
  | jobFailed error =>
      simp only [answer, Option.some.injEq] at step
      subst step
      exact ⟨_, inv.give held rfl (by simp) dead⟩
  | processFailed io =>
      simp only [answer, Option.some.injEq] at step
      subst step
      exact ⟨_, inv.give held rfl (by simp) dead⟩
  | spawned assigned =>
      simp only [answer, Option.some.injEq] at step
      subst step
      have fresh : ∀ pid, ((s.os.start assigned).dropJob s.inner.jobObject).Alive pid →
          pid = s.os.processes.length := by
        intro pid alive
        rcases Os.alive_start _ _ (Os.alive_of_dropJob alive) with old | new
        · exact absurd old (dead pid)
        · exact new
      refine ⟨⟨.waiting, s.os.processes.length⟩, ?_⟩
      exact
        { tasks := by simp [Sys.release, Sys.setTask, inv.tasks]
          flag := inv.flag
          monitorHolds := by simp [Sys.release, MonitorPc.holds]
          stopHolds := by simp [Sys.release, notStopped.1]
          onlyChild := fun pid alive => ⟨rfl, fresh pid alive⟩
          tracked := fun pid alive => by
            rw [fresh pid alive]
            exact ⟨rfl, by simp [Sys.release], notStopped.2⟩
          beforeStop := by simp }

/-! ### One step -/

theorem not_alive_exitSection (isManual : Bool) (code : Option Int) (now : Nat) (inner : Inner)
    {os : Os} (dead : ∀ pid, ¬ os.Alive pid) (pid : Nat) :
    ¬ (exitSection isManual code now inner os).2.2.Alive pid := by
  unfold exitSection
  cases isManual with
  | true => exact fun alive => dead pid (Os.alive_of_dropJob alive)
  | false =>
      simp only [Bool.false_eq_true, if_false]
      split <;> exact dead pid

theorem Inv.stepMonitor (inv : Inv s m stop) {env : Ambient}
    (step : s.stepMonitor 0 m env = some s') : ∃ m', Inv s' m' stop := by
  cases at_ : m.pc with
  | waiting =>
      simp only [Sys.stepMonitor, at_] at step
      split at step
      · cases step
      · rename_i gone
        cases step
        have dead : ∀ pid, ¬ s.os.Alive pid := by
          intro pid alive
          have child := (inv.onlyChild pid alive).2
          exact gone (Os.isAlive_iff.mpr (child ▸ alive))
        exact ⟨_, inv.move dead (by rw [at_]; rfl) rfl (by simp) (by simp)⟩
  | exited code =>
      simp only [Sys.stepMonitor, at_, Option.some.injEq] at step
      subst step
      have dead := inv.not_alive (by rw [at_]; exact MonitorPc.noConfusion)
      exact ⟨_, inv.move dead (by rw [at_]; rfl) rfl (by simp) (by simp)⟩
  | checked code isManual =>
      simp only [Sys.stepMonitor, at_] at step
      exact ⟨_, inv.take (by rw [at_]; exact MonitorPc.noConfusion) rfl (by simp) (by simp) step⟩
  | handling code isManual =>
      have dead := inv.not_alive (by rw [at_]; exact MonitorPc.noConfusion)
      have after := not_alive_exitSection isManual code env.now s.inner dead
      simp only [Sys.stepMonitor, at_] at step
      split at step
      · rename_i inner os section_
        cases step
        rw [section_] at after
        exact ⟨_, inv.give (by rw [at_]; rfl) rfl (by simp) after⟩
      · rename_i config inner os section_
        cases step
        rw [section_] at after
        exact ⟨_, inv.give (by rw [at_]; rfl) rfl (by simp) after⟩
  | sleeping config =>
      simp only [Sys.stepMonitor, at_, Option.some.injEq] at step
      subst step
      have dead := inv.not_alive (by rw [at_]; exact MonitorPc.noConfusion)
      exact ⟨_, inv.move dead (by rw [at_]; rfl) rfl (by simp) (by simp)⟩
  | woken config =>
      simp only [Sys.stepMonitor, at_, Option.some.injEq] at step
      subst step
      have dead := inv.not_alive (by rw [at_]; exact MonitorPc.noConfusion)
      -- the flag decides; read as clear, the stop has not even been called
      cases seen : s.manualStop with
      | true => exact ⟨_, inv.move dead (by rw [at_]; rfl) rfl (by simp) (by simp)⟩
      | false =>
          have notCalled : ¬ stop ≠ .called := fun called => by
            simpa [seen] using inv.flag.mpr called
          exact ⟨_, inv.move dead (by rw [at_]; rfl) rfl (by simp)
            (fun _ _ => Classical.not_not.mp notCalled)⟩
  | suppressed =>
      simp only [Sys.stepMonitor, at_] at step
      exact ⟨_, inv.take (by rw [at_]; exact MonitorPc.noConfusion) rfl (by simp) (by simp) step⟩
  | settling =>
      simp only [Sys.stepMonitor, at_, Option.some.injEq] at step
      subst step
      have dead := inv.not_alive (by rw [at_]; exact MonitorPc.noConfusion)
      exact ⟨_, inv.give (by rw [at_]; rfl) rfl (by simp) dead⟩
  | cleared config =>
      simp only [Sys.stepMonitor, at_] at step
      refine ⟨_, inv.take (by rw [at_]; exact MonitorPc.noConfusion) rfl (by simp) ?_ step⟩
      intro config' eq
      cases eq
      exact at_
  | respawning config => exact inv.respawn at_ step
  | finished =>
      simp only [Sys.stepMonitor, at_] at step
      cases step

theorem Inv.stepStop (inv : Inv s m stop)
    (raceFree : stop = .flagged → ∀ config, m.pc ≠ .cleared config)
    (step : s.stepStop 1 stop = some s') : ∃ stop', Inv s' m stop' := by
  cases stop with
  | called =>
      simp only [Sys.stepStop, Option.some.injEq] at step
      subst step
      refine ⟨.flagged, ?_⟩
      exact
        { tasks := by simp [Sys.setTask, inv.tasks]
          flag := by simp
          monitorHolds := inv.monitorHolds
          stopHolds := by simpa [Sys.setTask] using inv.stopHolds
          onlyChild := inv.onlyChild
          tracked := fun pid alive =>
            ⟨(inv.tracked pid alive).1, (inv.tracked pid alive).2.1, by simp⟩
          beforeStop := by simp }
  | flagged =>
      simp only [Sys.stepStop, Sys.acquire] at step
      split at step
      · rename_i free
        cases step
        have notHolding : m.pc.holds = false := Bool.eq_false_iff.mpr fun held => by
          simpa [free] using inv.monitorHolds.mpr held
        refine ⟨.locked, ?_⟩
        exact
          { tasks := by simp [Sys.setTask, inv.tasks]
            flag := by simpa [Sys.setTask] using inv.flag
            monitorHolds := by simp [notHolding]
            stopHolds := by simp
            onlyChild := inv.onlyChild
            tracked := fun pid alive =>
              ⟨(inv.tracked pid alive).1, (inv.tracked pid alive).2.1, by simp⟩
            beforeStop := by
              rintro config (eq | eq)
              · exact absurd eq (raceFree rfl config)
              · simp [eq, MonitorPc.holds] at notHolding }
      · cases step
  | locked =>
      simp only [Sys.stepStop, Option.some.injEq] at step
      subst step
      have dead := not_alive_stopSection fun pid alive =>
        ⟨(inv.tracked pid alive).1, (inv.tracked pid alive).2.1⟩
      have holder : s.holder = some 1 := inv.stopHolds.mpr rfl
      have notHolding : m.pc.holds = false := Bool.eq_false_iff.mpr fun held => by
        simpa [holder] using inv.monitorHolds.mpr held
      refine ⟨.returned, ?_⟩
      exact
        { tasks := by simp [Sys.release, Sys.setTask, inv.tasks]
          flag := by simpa [Sys.release, Sys.setTask] using inv.flag
          monitorHolds := by simp [Sys.release, notHolding]
          stopHolds := by simp [Sys.release]
          onlyChild := fun pid alive => absurd alive (dead pid)
          tracked := fun pid alive => absurd alive (dead pid)
          beforeStop := fun config late => absurd rfl (inv.beforeStop config late).1 }
  | returned =>
      simp only [Sys.stepStop] at step
      cases step

theorem Inv.exit (inv : Inv s m stop) {pid : Nat} :
    Inv { s with os := s.os.killPid pid } m stop where
  tasks := inv.tasks
  flag := inv.flag
  monitorHolds := inv.monitorHolds
  stopHolds := inv.stopHolds
  onlyChild := fun p alive => inv.onlyChild p (Os.alive_of_kill alive)
  tracked := fun p alive => inv.tracked p (Os.alive_of_kill alive)
  beforeStop := inv.beforeStop

/-- A race-free step keeps the invariant; a loop that has finished and a stop that
has returned stay where they are. -/
theorem Inv.step (inv : Inv s m stop) (step : RaceFreeStep s s') :
    ∃ m' stop', Inv s' m' stop' ∧ (m.pc = .finished → m' = m) ∧
      (stop = .returned → stop' = .returned) := by
  obtain ⟨a, applied, raceFree⟩ := step
  cases a with
  | exit pid =>
      simp only [Sys.apply] at applied
      split at applied
      · cases applied
        exact ⟨m, stop, inv.exit, fun _ => rfl, id⟩
      · cases applied
  | run i env =>
      match i with
      | 0 =>
          simp only [Sys.apply, inv.tasks, List.getElem?_cons_zero] at applied
          obtain ⟨m', kept⟩ := inv.stepMonitor applied
          refine ⟨m', stop, kept, fun finished => ?_, id⟩
          simp [Sys.stepMonitor, finished] at applied
      | 1 =>
          simp only [Sys.apply, inv.tasks, List.getElem?_cons_succ, List.getElem?_cons_zero]
            at applied
          obtain ⟨stop', kept⟩ := inv.stepStop (fun flagged config cleared => raceFree
            ⟨by simp [inv.tasks, flagged], by
              obtain ⟨pc, child⟩ := m
              cases cleared
              simp [inv.tasks, Task.isCleared]⟩) applied
          refine ⟨m, stop', kept, fun _ => rfl, fun returned => ?_⟩
          simp [Sys.stepStop, returned] at applied
      | i + 2 => simp [Sys.apply, inv.tasks] at applied

theorem inv_raceFree {config : SupervisorConfig} {assigned : Bool} {now : Nat}
    (run : Relation.ReflTransGen RaceFreeStep (supervised config assigned now) s) :
    ∃ m stop, Inv s m stop := by
  induction run with
  | refl => exact ⟨_, _, inv_supervised config assigned now⟩
  | tail _ step ih =>
      obtain ⟨_, _, inv⟩ := ih
      obtain ⟨m', stop', kept, -⟩ := inv.step step
      exact ⟨m', stop', kept⟩

theorem Inv.stopFinal (inv : Inv s m stop) : StopFinal s := by
  intro returned
  have stopped : stop = .returned := by simpa [inv.tasks, eq_comm] using returned
  refine ⟨fun pid alive => (inv.tracked pid alive).2.2 stopped, ?_⟩
  intro a s' _ respawns
  cases a with
  | exit pid => exact respawns
  | run i env =>
      obtain ⟨m', config, found, at_⟩ := respawns
      have same : m' = m := by
        have member := List.mem_of_getElem? found
        simpa [inv.tasks] using member
      exact (inv.beforeStop config (.inr (same ▸ at_))).2 stopped

/-- A race loses the stop: whoever wins the mutex next, the loop can go on to
respawn after `graceful_stop` has returned. -/
theorem Inv.race_lost (inv : Inv s m stop) {a : Action} (races : Races s a)
    (applied : s.apply a = some s') :
    ∃ s'', Relation.ReflTransGen Step s' s'' ∧ ¬ StopFinal s'' := by
  obtain ⟨i, env, rfl⟩ : ∃ i env, a = .run i env := by
    cases a with
    | exit pid => exact races.elim
    | run i env => exact ⟨i, env, rfl⟩
  obtain ⟨position, racing⟩ := races
  obtain ⟨config, at_⟩ : ∃ config, m.pc = .cleared config := by
    obtain ⟨pc, child⟩ := m
    cases pc <;> simp [inv.tasks, Task.isCleared] at racing
    exact ⟨_, rfl⟩
  obtain ⟨rfl, rfl⟩ : i = 1 ∧ stop = .flagged := by
    match i with
    | 0 => simp [inv.tasks] at position
    | 1 => exact ⟨rfl, by simpa [inv.tasks] using position⟩
    | i + 2 => simp [inv.tasks] at position
  have free : s.holder = none := by
    cases held : s.holder with
    | none => rfl
    | some j => simp [Sys.apply, position, Sys.stepStop, Sys.acquire, held] at applied
  simp only [Sys.apply, position, Sys.stepStop, Sys.acquire, free, Option.some.injEq] at applied
  subst applied
  -- the stop runs to its end, then the loop takes the mutex it was waiting for
  let locked : Sys := { s.setTask 1 (.stop .locked) with holder := some 1 }
  let returned : Sys := locked.release 1 (.stop .returned)
    (stopSection s.inner s.os).1 (stopSection s.inner s.os).2
  let late : Monitor := { m with pc := .respawning config }
  let lost : Sys := { returned.setTask 0 (.monitor late) with holder := some 0 }
  have tasks : lost.tasks = [.monitor late, .stop .returned] := by
    simp [lost, returned, locked, Sys.release, Sys.setTask, inv.tasks]
  have stops : Step locked returned :=
    ⟨.run 1 env, by simp [locked, returned, Sys.apply, Sys.setTask, inv.tasks, Sys.stepStop]⟩
  have respawns : Step returned lost :=
    ⟨.run 0 env, by
      simp [lost, late, returned, locked, Sys.apply, Sys.release, Sys.setTask, inv.tasks,
        Sys.stepMonitor, at_, Sys.acquire]⟩
  refine ⟨lost, .head stops (.single respawns), fun final => ?_⟩
  obtain ⟨next, enabled⟩ : ∃ next, lost.apply (.run 0 env) = some next := by
    simp only [Sys.apply, tasks, List.getElem?_cons_zero, Sys.stepMonitor, late]
    split <;> exact ⟨_, rfl⟩
  exact (final (by simp [tasks])).2 _ next enabled ⟨late, config, by simp [tasks], rfl⟩

/-- The stop is final exactly as far as runs stay clear of the race: in every
state a race-free run reaches it is final, and a run that does race can go on to
a state in which it is not. For every supervisor configuration and every order
of the other steps. -/
theorem stop_final_of_raceFree (config : SupervisorConfig) (assigned : Bool) (now : Nat) (s : Sys)
    (run : Relation.ReflTransGen RaceFreeStep (supervised config assigned now) s) :
    StopFinal s ∧ ∀ a s', Races s a → s.apply a = some s' →
      ∃ s'', Relation.ReflTransGen Step s' s'' ∧ ¬ StopFinal s'' := by
  obtain ⟨m, stop, inv⟩ := inv_raceFree run
  exact ⟨inv.stopFinal, fun a s' races applied => inv.race_lost races applied⟩

/-! ### Concrete runs -/

theorem reaches_runAll {allowed : Sys → Action → Bool} {acts : List Action}
    (run : s.runAll allowed acts = some s') :
    Relation.ReflTransGen (fun s s' => ∃ a, s.apply a = some s' ∧ allowed s a = true) s s' := by
  induction acts generalizing s with
  | nil =>
      cases run
      exact .refl
  | cons a rest ih =>
      simp only [Sys.runAll] at run
      split at run
      · rename_i permitted
        split at run
        · rename_i next applied
          exact .head ⟨a, applied, permitted⟩ (ih run)
        · cases run
      · cases run

def quietAmbient : Ambient := ⟨some 1, 0, true, .spawned true⟩

/-- The worker crashes, the loop sleeps, wakes and reads `manual_stop`. -/
def crashThenCheck : List Action :=
  [.exit 0, .run 0 quietAmbient, .run 0 quietAmbient, .run 0 quietAmbient, .run 0 quietAmbient,
    .run 0 quietAmbient, .run 0 quietAmbient]

/-- A whole `graceful_stop`. -/
def wholeStop : List Action := [.run 1 quietAmbient, .run 1 quietAmbient, .run 1 quietAmbient]

def exampleConfig : SupervisorConfig := .new "worker" "worker.exe" []

/-- The stop slips between the loop's check and its mutex: the loop respawns
after `graceful_stop` has returned, and a worker is alive. -/
theorem stop_not_final :
    ¬ ∀ (config : SupervisorConfig) (assigned : Bool) (now : Nat) (s : Sys),
      Relation.ReflTransGen Step (supervised config assigned now) s → StopFinal s := by
  intro final
  have outcome : ((supervised exampleConfig true 0).runAll (fun _ _ => true)
      (crashThenCheck ++ wholeStop ++ [.run 0 quietAmbient, .run 0 quietAmbient])).map
        (fun s => decide (.stop .returned ∈ s.tasks) && s.os.isAlive 1) = some true := by
    decide
  obtain ⟨s, run, seen⟩ := Option.map_eq_some_iff.mp outcome
  simp only [Bool.and_eq_true, decide_eq_true_eq] at seen
  have reached : Relation.ReflTransGen Step (supervised exampleConfig true 0) s :=
    Relation.ReflTransGen.mono (fun _ _ ⟨a, applied, _⟩ => ⟨a, applied⟩) _ _ (reaches_runAll run)
  exact (final _ _ _ s reached seen.1).1 1 (Os.isAlive_iff.mp seen.2)

/-- A stop during the backoff: the run is race-free, and final. -/
theorem stop_final_during_backoff :
    ∃ s, Relation.ReflTransGen RaceFreeStep (supervised exampleConfig true 0) s ∧
      .stop .returned ∈ s.tasks ∧ StopFinal s := by
  have outcome : ((supervised exampleConfig true 0).runAll (fun s a => decide (¬ Races s a))
      (crashThenCheck.dropLast ++ wholeStop ++ [.run 0 quietAmbient])).map
        (fun s => decide (.stop .returned ∈ s.tasks)) = some true := by
    decide
  obtain ⟨s, run, seen⟩ := Option.map_eq_some_iff.mp outcome
  have reached : Relation.ReflTransGen RaceFreeStep (supervised exampleConfig true 0) s :=
    Relation.ReflTransGen.mono
      (fun _ _ ⟨a, applied, free⟩ => ⟨a, applied, of_decide_eq_true free⟩) _ _ (reaches_runAll run)
  exact ⟨s, reached, of_decide_eq_true seen, (stop_final_of_raceFree _ _ _ s reached).1⟩

end ZonDpi.Supervisor
