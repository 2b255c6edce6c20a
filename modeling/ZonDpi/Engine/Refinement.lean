import ZonDpi.Engine.Workers
import ZonDpi.Supervisor.Stop

/-!
The workers the manager sees are what the supervisors make of their processes.

`EngineWorld` has one state for each worker, which moves on its own or by a
request. Here that state is read off a supervisor, its monitor loop and its
caller, with all their program counters: as long as `graceful_stop` does not race
with a respawn, every step of theirs is a move the manager's model allows, and the
end of a stop is the effect that model gives it.
-/

namespace ZonDpi.Supervisor

open ZonDpi.Engine

/-- The task is a monitor loop that has given up. -/
def Task.isFinished : Task → Bool
  | .monitor ⟨.finished, _⟩ => true
  | _ => false

/-- The worker of a supervisor, seen from outside. A loop that has not finished
will start another one. -/
def Sys.workerState (s : Sys) : WorkerState :=
  if .stop .returned ∈ s.tasks then .stopped
  else if s.os.processes.any Process.alive then .alive
  else if s.tasks.any Task.isFinished then .failed
  else .restarting

variable {s s' : Sys} {m : Monitor} {stop : StopPc}

theorem Task.isFinished_monitor : (Task.monitor m).isFinished = true ↔ m.pc = .finished := by
  obtain ⟨pc, child⟩ := m
  cases pc <;> simp [Task.isFinished]

/-- The worker's state by the two program counters. -/
theorem Inv.workerState_eq (inv : Inv s m stop) :
    s.workerState =
      if stop = .returned then .stopped
      else if s.os.processes.any Process.alive then .alive
      else if m.pc = .finished then .failed
      else .restarting := by
  have member : Task.stop .returned ∈ s.tasks ↔ stop = .returned := by simp [inv.tasks, eq_comm]
  have given : s.tasks.any Task.isFinished = true ↔ m.pc = .finished := by
    rw [inv.tasks, ← Task.isFinished_monitor]
    simp [Task.isFinished]
  simp only [Sys.workerState, member, given]

theorem Inv.workerState_stopped (inv : Inv s m stop) :
    s.workerState = .stopped ↔ stop = .returned := by
  rw [inv.workerState_eq]
  by_cases returned : stop = .returned
  · simp [returned]
  · cases s.os.processes.any Process.alive <;> by_cases finished : m.pc = .finished <;>
      simp [returned, finished]

theorem Inv.workerState_failed (inv : Inv s m stop) :
    s.workerState = .failed ↔ stop ≠ .returned ∧ m.pc = .finished := by
  rw [inv.workerState_eq]
  by_cases returned : stop = .returned
  · simp [returned]
  by_cases finished : m.pc = .finished
  · -- a loop that has finished has no live child
    have none : s.os.processes.any Process.alive = false := by
      rw [Bool.eq_false_iff, Ne, Os.any_alive_iff]
      rintro ⟨pid, alive⟩
      exact inv.not_alive (by rw [finished]; exact MonitorPc.noConfusion) pid alive
    simp [returned, finished, none]
  · cases s.os.processes.any Process.alive <;> simp [returned, finished]

/-- A worker that is neither stopped nor given up is live. -/
theorem live_of_ne {state : WorkerState} (spawned : state ≠ .idle) (notFailed : state ≠ .failed)
    (notStopped : state ≠ .stopped) : state.live = true := by
  cases state with
  | idle => exact absurd rfl spawned
  | alive => rfl
  | restarting => rfl
  | failed => exact absurd rfl notFailed
  | stopped => exact absurd rfl notStopped

theorem workerState_ne_idle (s : Sys) : s.workerState ≠ .idle := by
  unfold Sys.workerState
  split
  · simp
  · split
    · simp
    · split <;> simp

theorem workerState_supervised (config : SupervisorConfig) (assigned : Bool) (now : Nat) :
    (supervised config assigned now).workerState = .alive := by
  cases assigned <;> rfl

/-- One step of a supervisor: its worker moves on its own, or is stopped. -/
theorem Inv.worker_step (inv : Inv s m stop) (step : RaceFreeStep s s')
    (config : SupervisorConfig) :
    Worker.MayBecome ⟨config, s.workerState⟩ ⟨config, s'.workerState⟩ ∨
      s'.workerState = .stopped := by
  obtain ⟨m', stop', inv', finished, returned⟩ := inv.step step
  by_cases stopped : s'.workerState = .stopped
  · exact .inr stopped
  have running : stop' ≠ .returned := mt inv'.workerState_stopped.mpr stopped
  refine .inl ⟨rfl, ?_⟩
  by_cases failed : s.workerState = .failed
  · -- nothing comes after the loop has given up
    obtain ⟨-, gaveUp⟩ := inv.workerState_failed.mp failed
    have still : s'.workerState = .failed :=
      inv'.workerState_failed.mpr ⟨running, by rw [finished gaveUp, gaveUp]⟩
    exact .inl (still.trans failed.symm)
  · have notStopped : s.workerState ≠ .stopped := fun was =>
      running (returned (inv.workerState_stopped.mp was))
    refine .inr ⟨live_of_ne (workerState_ne_idle s) failed notStopped, ?_⟩
    by_cases gaveUp : s'.workerState = .failed
    · exact .inr gaveUp
    · exact .inl (live_of_ne (workerState_ne_idle s') gaveUp stopped)

end ZonDpi.Supervisor

namespace ZonDpi.Engine

open ZonDpi.Supervisor

/-- What the manager's model has happen to the worker at a place: workers move on
their own, or its supervisor is stopped. -/
def WorkerMove (i : Nat) (w w' : EngineWorld) : Prop :=
  (∃ workers, Rely.crashes.evolve w.workers workers ∧ w' = { w with workers := workers }) ∨
    w' = w.effect (.gracefulStop i) (.ok ())

section Moves

variable {workers : List Worker} {i : Nat} {state state' : WorkerState}

theorem getElem?_setState_self {worker : Worker} (here : workers[i]? = some worker) :
    (setState workers i state)[i]? = some { worker with state := state } := by
  simp [setState, here]

theorem setState_setState :
    setState (setState workers i state) i state' = setState workers i state' := by
  simp only [setState, List.modify_modify_eq]
  rfl

theorem setState_self {worker : Worker} (here : workers[i]? = some worker) :
    setState workers i worker.state = workers := by
  refine List.ext_getElem? fun j => ?_
  by_cases same : i = j
  · subst same
    rw [getElem?_setState_self here, here]
  · simp [setState, same]

theorem evolve_setState {worker : Worker} (here : workers[i]? = some worker)
    (may : worker.MayBecome { worker with state := state }) :
    Rely.crashes.evolve workers (setState workers i state) := by
  refine ⟨by simp [setState], fun j after found => ?_⟩
  by_cases same : i = j
  · subst same
    rw [getElem?_setState_self here] at found
    cases found
    exact ⟨worker, here, may⟩
  · have unmoved : workers[j]? = some after := by
      simpa [setState, List.getElem?_modify, same] using found
    exact ⟨after, unmoved, rfl, .inl rfl⟩

end Moves

/-- Every run of a supervisor without the race is, for the manager, a sequence of
moves of its worker. -/
theorem supervisor_refines_worker {config : SupervisorConfig} {assigned : Bool} {now i : Nat}
    {s : Sys} {w : EngineWorld}
    (run : Relation.ReflTransGen RaceFreeStep (supervised config assigned now) s)
    (here : w.workers[i]? = some ⟨config, .alive⟩) :
    Relation.ReflTransGen (WorkerMove i) w
      { w with workers := setState w.workers i s.workerState } := by
  induction run with
  | refl =>
      rw [workerState_supervised, setState_self here]
  | @tail before after run step ih =>
      obtain ⟨m, stop, inv⟩ := inv_raceFree run
      refine ih.tail ?_
      have now : (setState w.workers i before.workerState)[i]? =
          some ⟨config, before.workerState⟩ := getElem?_setState_self here
      rcases inv.worker_step step config with may | stopped
      · refine .inl ⟨_, evolve_setState now may, ?_⟩
        rw [setState_setState]
      · refine .inr ?_
        rw [stopped]
        simp only [EngineWorld.effect, setState_setState]

end ZonDpi.Engine
