import ZonDpi.Lib.SlidingWindow
import ZonDpi.Supervisor.Tracking

/-!
The restart budget of `monitor_loop`.

`restart_timestamps` is a sliding window over the crashes of all loops of one
supervisor: nothing but a crash changes it, and no spawn clears it. `Logged` keeps
the whole history of crashes beside a run; the window is what the history leaves
of itself (`Budgeted`), so the bounds are those of `SlidingWindow`. A loop that is
refused a restart has ended, and it takes no further step.
-/

namespace ZonDpi.Supervisor

open SlidingWindow

/-- A crash that a monitor loop has handled: the loop, the instant, and whether the
loop goes on to restart the worker after a backoff. -/
structure Crash where
  loop : Nat
  instant : Nat
  restarts : Bool
deriving DecidableEq, Repr

def AfterExit.restarts : AfterExit → Bool
  | .finished => false
  | .backoff _ _ => true

/-- The crash handled in a step, if any. -/
def Sys.crash (s : Sys) (a : Action) : Option Crash :=
  match a, s.sectionOf a with
  | .run i _, .handle code false now =>
      some ⟨i, now, (exitSection false code now s.inner s.os).1.restarts⟩
  | _, _ => none

/-- Runs from `s₀` with the crashes handled on the way. -/
inductive Logged (s₀ : Sys) : List Crash → Sys → Prop where
  | start : Logged s₀ [] s₀
  | step {log : List Crash} {s s' : Sys} {a : Action} (run : Logged s₀ log s)
      (applied : s.apply a = some s') : Logged s₀ (log ++ (s.crash a).toList) s'

variable {s s' s₀ : Sys} {a : Action} {log : List Crash}

/-! ### What a step does to the window -/

theorem exitSection_crash (code : Option Int) (now : Nat) (inner : Inner) (os : Os) :
    (exitSection false code now inner os).2.1.restartTimestamps =
        record inner.config.restartWindow now inner.restartTimestamps ∧
      (exitSection false code now inner os).1.restarts =
        decide ((record inner.config.restartWindow now inner.restartTimestamps).length ≤
          inner.config.maxRestartAttempts) := by
  simp only [exitSection, Bool.false_eq_true, if_false]
  split
  · rename_i exhausted
    refine ⟨rfl, ?_⟩
    have more : ¬ (record inner.config.restartWindow now inner.restartTimestamps).length ≤
        inner.config.maxRestartAttempts := Nat.not_le.mpr exhausted
    simp [AfterExit.restarts, more]
  · rename_i left
    refine ⟨rfl, ?_⟩
    have fits : (record inner.config.restartWindow now inner.restartTimestamps).length ≤
        inner.config.maxRestartAttempts := Nat.le_of_not_lt left
    simp [AfterExit.restarts, fits]

/-- The configuration never changes, and the window changes with a crash only. -/
theorem Section.run_window (inner : Inner) (os : Os) (locked : Section) :
    (locked.run inner os).1.config = inner.config ∧
      ((∃ code now, locked = .handle code false now) ∨
        (locked.run inner os).1.restartTimestamps = inner.restartTimestamps) := by
  cases locked with
  | handle code isManual now =>
      cases isManual with
      | true => exact ⟨rfl, .inr rfl⟩
      | false =>
          refine ⟨?_, .inl ⟨code, now, rfl⟩⟩
          simp only [Section.run, exitSection, Bool.false_eq_true, if_false]
          split <;> rfl
  | respawn answer now => cases answer <;> exact ⟨rfl, .inr rfl⟩
  | spawn isFile answer now => cases isFile <;> cases answer <;> exact ⟨rfl, .inr rfl⟩
  | stop =>
      simp only [Section.run, stopSection]
      split <;> exact ⟨rfl, .inr rfl⟩
  | _ => exact ⟨rfl, .inr rfl⟩

/-! ### What a step does to the loops -/

/-- A loop that has handled a crash and is on its way to a restart, or to finding
out that it was stopped meanwhile. -/
def MonitorPc.restarting : MonitorPc → Bool
  | .sleeping _ | .woken _ | .suppressed | .settling | .cleared _ | .respawning _ => true
  | _ => false

theorem crash_eq_some {crash : Crash} (handled : s.crash a = some crash) :
    ∃ env code child, a = .run crash.loop env ∧
      s.tasks[crash.loop]? = some (.monitor ⟨.handling code false, child⟩) ∧
      crash.instant = env.now ∧
      crash.restarts = (exitSection false code env.now s.inner s.os).1.restarts := by
  cases a with
  | exit pid => cases handled
  | run i env =>
      simp only [Sys.crash, Sys.sectionOf] at handled
      cases found : s.tasks[i]? with
      | none => simp [found] at handled
      | some t =>
          rw [found] at handled
          cases t with
          | stop pc => cases pc <;> cases handled
          | spawn pc => cases pc <;> cases handled
          | monitor m =>
              obtain ⟨pc, child⟩ := m
              cases pc with
              | handling code isManual =>
                  cases isManual with
                  | true => cases handled
                  | false =>
                      cases handled
                      exact ⟨env, code, child, rfl, found, rfl, rfl⟩
              | _ => cases handled

theorem restarting_of_respawn {i : Nat} {env : Ambient} {answer : SpawnAnswer} {now : Nat}
    (respawns : s.sectionOf (.run i env) = .respawn answer now) :
    ∃ m, s.tasks[i]? = some (.monitor m) ∧ m.pc.restarting = true := by
  simp only [Sys.sectionOf] at respawns
  split at respawns
  · cases respawns
  · cases respawns
  · rename_i config child found
    exact ⟨_, found, rfl⟩
  all_goals cases respawns

theorem apply_config (applied : s.apply a = some s') : s'.inner.config = s.inner.config := by
  have effect := congrArg Prod.fst (apply_section applied).1
  exact (congrArg Inner.config effect).trans (Section.run_window s.inner s.os (s.sectionOf a)).1

theorem apply_quiet (applied : s.apply a = some s') (quiet : s.crash a = none) :
    s'.inner.restartTimestamps = s.inner.restartTimestamps := by
  have effect := congrArg Prod.fst (apply_section applied).1
  refine (congrArg Inner.restartTimestamps effect).trans ?_
  obtain ⟨code, now, handles⟩ | kept := (Section.run_window s.inner s.os (s.sectionOf a)).2
  · cases a with
    | exit pid => cases handles
    | run i env =>
        simp [Sys.crash, handles] at quiet
  · exact kept

theorem apply_crash {crash : Crash} (applied : s.apply a = some s')
    (handled : s.crash a = some crash) :
    s'.inner.restartTimestamps =
        record s.inner.config.restartWindow crash.instant s.inner.restartTimestamps ∧
      crash.restarts =
        decide ((record s.inner.config.restartWindow crash.instant
          s.inner.restartTimestamps).length ≤ s.inner.config.maxRestartAttempts) := by
  have effect := congrArg Prod.fst (apply_section applied).1
  obtain ⟨env, code, child, rfl, found, instant, restarts⟩ := crash_eq_some handled
  rw [restarts, instant]
  obtain ⟨recorded, decided⟩ := exitSection_crash code env.now s.inner s.os
  refine ⟨(congrArg Inner.restartTimestamps effect).trans ?_, decided⟩
  simpa [Sys.sectionOf, found, Section.run] using recorded

/-- What a step of a loop does, apart from the protected state. -/
structure MonitorStep (s : Sys) (i : Nat) (env : Ambient) (m m' : Monitor) : Prop where
  moves : m.pc ≠ .finished
  silent : m.pc.restarting = true → s.crash (.run i env) = none
  began : m'.pc.restarting = true → m.pc.restarting = true ∨
    ∃ crash, s.crash (.run i env) = some crash ∧ crash.restarts = true
  ended : ∀ crash, s.crash (.run i env) = some crash → crash.restarts = false →
    m'.pc = .finished

theorem acquire_tasks {i : Nat} {t : Task} (taken : s.acquire i t = some s') :
    s'.tasks = s.tasks.set i t := by
  unfold Sys.acquire at taken
  split at taken
  · cases taken
    rfl
  · cases taken

theorem stepMonitor_tasks {i : Nat} {m : Monitor} {env : Ambient}
    (found : s.tasks[i]? = some (.monitor m)) (step : s.stepMonitor i m env = some s') :
    ∃ m', s'.tasks = s.tasks.set i (.monitor m') ∧ MonitorStep s i env m m' := by
  obtain ⟨pc, child⟩ := m
  cases pc with
  | waiting =>
      simp only [Sys.stepMonitor] at step
      split at step
      · cases step
      · cases step
        exact ⟨_, rfl, by rintro ⟨⟩, by rintro ⟨⟩, by rintro ⟨⟩,
          by simp [Sys.crash, Sys.sectionOf, found]⟩
  | handling code isManual =>
      simp only [Sys.stepMonitor] at step
      split at step
      · rename_i inner os handled
        cases step
        exact ⟨_, rfl, by rintro ⟨⟩, by rintro ⟨⟩, by rintro ⟨⟩, fun _ _ _ => rfl⟩
      · rename_i seconds config inner os handled
        cases step
        cases isManual with
        | true => simp [exitSection] at handled
        | false =>
            refine ⟨_, rfl, by rintro ⟨⟩, by rintro ⟨⟩, fun _ => .inr ?_, ?_⟩
            · simp [Sys.crash, Sys.sectionOf, found, handled, AfterExit.restarts]
            · simp [Sys.crash, Sys.sectionOf, found, handled, AfterExit.restarts]
  | respawning config =>
      simp only [Sys.stepMonitor] at step
      split at step <;> cases step <;>
        exact ⟨_, rfl, by rintro ⟨⟩, by simp [Sys.crash, Sys.sectionOf, found], by rintro ⟨⟩,
          by simp [Sys.crash, Sys.sectionOf, found]⟩
  | checked code isManual =>
      exact ⟨_, acquire_tasks step, by rintro ⟨⟩, by rintro ⟨⟩, by rintro ⟨⟩,
        by simp [Sys.crash, Sys.sectionOf, found]⟩
  | suppressed =>
      exact ⟨_, acquire_tasks step, by rintro ⟨⟩, by simp [Sys.crash, Sys.sectionOf, found],
        fun _ => .inl rfl, by simp [Sys.crash, Sys.sectionOf, found]⟩
  | cleared config =>
      exact ⟨_, acquire_tasks step, by rintro ⟨⟩, by simp [Sys.crash, Sys.sectionOf, found],
        fun _ => .inl rfl, by simp [Sys.crash, Sys.sectionOf, found]⟩
  | finished => cases step
  | exited code =>
      cases step
      exact ⟨_, rfl, by rintro ⟨⟩, by rintro ⟨⟩, by rintro ⟨⟩,
        by simp [Sys.crash, Sys.sectionOf, found]⟩
  | _ =>
      cases step
      exact ⟨_, rfl, by rintro ⟨⟩, by simp [Sys.crash, Sys.sectionOf, found], fun _ => .inl rfl,
        by simp [Sys.crash, Sys.sectionOf, found]⟩

theorem stepStop_tasks {i : Nat} {pc : StopPc} (step : s.stepStop i pc = some s') :
    ∃ pc', s'.tasks = s.tasks.set i (.stop pc') := by
  cases pc with
  | flagged => exact ⟨_, acquire_tasks step⟩
  | returned => cases step
  | _ =>
      cases step
      exact ⟨_, rfl⟩

/-- A spawn may start a loop, which waits for its worker. -/
theorem stepSpawn_tasks {i : Nat} {pc : SpawnPc} {env : Ambient}
    (step : s.stepSpawn i env pc = some s') :
    ∃ pc' new, s'.tasks = s.tasks.set i (.spawn pc') ++ new ∧
      ∀ m, Task.monitor m ∈ new → m.pc = .waiting := by
  cases pc with
  | called => exact ⟨_, [], (acquire_tasks step).trans (List.append_nil _).symm, nofun⟩
  | locked =>
      simp only [Sys.stepSpawn] at step
      split at step <;> cases step <;> exact ⟨_, [], (List.append_nil _).symm, nofun⟩
  | flagged =>
      simp only [Sys.stepSpawn] at step
      split at step
      · cases step
        refine ⟨_, _, rfl, fun m member => ?_⟩
        cases List.mem_singleton.mp member
        rfl
      · cases step
        exact ⟨_, [], (List.append_nil _).symm, nofun⟩
  | returned result => cases step

/-- Where a task stands after a step: it took the step, it is a new loop, or it has
not moved. -/
theorem apply_tasks (applied : s.apply a = some s') :
    (∃ pid, a = .exit pid ∧ s'.tasks = s.tasks) ∨
      ∃ i env t new, a = .run i env ∧ s'.tasks = s.tasks.set i t ++ new ∧
        (∀ m, Task.monitor m ∈ new → m.pc = .waiting) ∧
        ((∃ m m', s.tasks[i]? = some (.monitor m) ∧ t = .monitor m' ∧
            MonitorStep s i env m m') ∨
          (∀ m, s.tasks[i]? ≠ some (.monitor m)) ∧ ∀ m, t ≠ .monitor m) := by
  cases a with
  | exit pid =>
      simp only [Sys.apply] at applied
      split at applied
      · cases applied
        exact .inl ⟨pid, rfl, rfl⟩
      · cases applied
  | run i env =>
      refine .inr ⟨i, env, ?_⟩
      simp only [Sys.apply] at applied
      split at applied
      · rename_i m found
        obtain ⟨m', tasks, step⟩ := stepMonitor_tasks found applied
        exact ⟨.monitor m', [], rfl, tasks.trans (List.append_nil _).symm, by simp,
          .inl ⟨m, m', found, rfl, step⟩⟩
      · rename_i pc found
        obtain ⟨pc', tasks⟩ := stepStop_tasks applied
        exact ⟨.stop pc', [], rfl, tasks.trans (List.append_nil _).symm, by simp,
          .inr ⟨by simp [found], by simp⟩⟩
      · rename_i pc found
        obtain ⟨pc', new, tasks, waits⟩ := stepSpawn_tasks applied
        exact ⟨.spawn pc', new, rfl, tasks, waits, .inr ⟨by simp [found], by simp⟩⟩
      · cases applied

/-- A loop after a step is new, has not moved, or has taken the step. -/
theorem monitor_before {j : Nat} {m' : Monitor} (applied : s.apply a = some s')
    (there : s'.tasks[j]? = some (.monitor m')) :
    m'.pc = .waiting ∨
      (s.tasks[j]? = some (.monitor m') ∧ ∀ env, a ≠ .run j env) ∨
      ∃ env m, a = .run j env ∧ s.tasks[j]? = some (.monitor m) ∧ MonitorStep s j env m m' := by
  obtain ⟨pid, rfl, tasks⟩ | ⟨i, env, t, new, rfl, tasks, waits, mover⟩ := apply_tasks applied
  · rw [tasks] at there
    exact .inr (.inl ⟨there, nofun⟩)
  · rw [tasks, List.getElem?_append] at there
    split at there
    · by_cases same : i = j
      · subst same
        rename_i inside
        rw [List.getElem?_set_self (by simpa using inside)] at there
        cases there
        obtain ⟨m, _, found, moved, step⟩ | ⟨-, other⟩ := mover
        · cases moved
          exact .inr (.inr ⟨env, m, rfl, found, step⟩)
        · exact absurd rfl (other m')
      · rw [List.getElem?_set_ne same] at there
        refine .inr (.inl ⟨there, fun env' acts => ?_⟩)
        cases acts
        exact same rfl
    · exact .inl (waits m' (List.mem_of_getElem? there))

/-- Loops that have ended stay where they are. -/
theorem finished_stays {j child : Nat} (applied : s.apply a = some s')
    (ended : s.tasks[j]? = some (.monitor ⟨.finished, child⟩)) :
    s'.tasks[j]? = some (.monitor ⟨.finished, child⟩) := by
  have bound : j < s.tasks.length := (List.getElem?_eq_some_iff.mp ended).1
  obtain ⟨pid, rfl, tasks⟩ | ⟨i, env, t, new, rfl, tasks, -, mover⟩ := apply_tasks applied
  · rw [tasks, ended]
  · have other : i ≠ j := by
      rintro rfl
      obtain ⟨m, _, found, -, step⟩ | ⟨unlike, -⟩ := mover
      · rw [ended] at found
        cases found
        exact step.moves rfl
      · exact unlike _ ended
    rw [tasks, List.getElem?_append_left (by rwa [List.length_set]), List.getElem?_set_ne other,
      ended]

/-- A loop that handles a crash and is refused a restart has ended. -/
theorem crash_ends {crash : Crash} (applied : s.apply a = some s')
    (handled : s.crash a = some crash) (refused : crash.restarts = false) :
    ∃ child, s'.tasks[crash.loop]? = some (.monitor ⟨.finished, child⟩) := by
  obtain ⟨env, code, child, rfl, found, -, -⟩ := crash_eq_some handled
  have bound : crash.loop < s.tasks.length := (List.getElem?_eq_some_iff.mp found).1
  obtain ⟨_, acts, -⟩ | ⟨i, env', t, new, acts, tasks, -, mover⟩ := apply_tasks applied
  · cases acts
  · cases acts
    obtain ⟨m, ⟨pc, child'⟩, -, rfl, step⟩ | ⟨unlike, -⟩ := mover
    · have ended : pc = .finished := step.ended crash handled refused
      subst ended
      refine ⟨child', ?_⟩
      rw [tasks, List.getElem?_append_left (by rwa [List.length_set]),
        List.getElem?_set_self bound]
    · exact absurd found (unlike _)

/-! ### The history of a run -/

/-- The crash a loop has handled last. -/
def LastCrash (log : List Crash) (loop : Nat) (crash : Crash) : Prop :=
  ∃ before after, log = before ++ crash :: after ∧ crash.loop = loop ∧
    ∀ later ∈ after, later.loop ≠ loop

/-- What the history says about the state it has led to. -/
structure Budgeted (config : SupervisorConfig) (log : List Crash) (s : Sys) : Prop where
  configured : s.inner.config = config
  window : s.inner.restartTimestamps =
    recordAll config.restartWindow [] (log.map Crash.instant)
  decided : log.map (fun crash => (crash.instant, crash.restarts)) =
    verdicts config.maxRestartAttempts config.restartWindow [] (log.map Crash.instant)
  ended : ∀ crash ∈ log, crash.restarts = false →
    ∃ child, s.tasks[crash.loop]? = some (.monitor ⟨.finished, child⟩)
  silent : log.Pairwise fun crash later => crash.restarts = false → later.loop ≠ crash.loop
  answered : ∀ j m, s.tasks[j]? = some (.monitor m) → m.pc.restarting = true →
    ∃ crash, LastCrash log j crash ∧ crash.restarts = true

theorem budgeted_new (config : SupervisorConfig) (calls : List Call) :
    Budgeted config [] (Sys.new config calls) where
  configured := rfl
  window := rfl
  decided := rfl
  ended := nofun
  silent := .nil
  answered j m found _ := by
    obtain ⟨call, _, task⟩ := List.mem_map.mp (List.mem_of_getElem? found)
    cases call <;> cases task

section

variable {config : SupervisorConfig} {crash : Crash}

theorem Budgeted.quiet_step (budgeted : Budgeted config log s) (applied : s.apply a = some s')
    (quiet : s.crash a = none) : Budgeted config log s' where
  configured := (apply_config applied).trans budgeted.configured
  window := (apply_quiet applied quiet).trans budgeted.window
  decided := budgeted.decided
  ended crash member refused := by
    obtain ⟨child, ended⟩ := budgeted.ended crash member refused
    exact ⟨child, finished_stays applied ended⟩
  silent := budgeted.silent
  answered j m there restarting := by
    obtain waits | ⟨found, -⟩ | ⟨env, before, rfl, found, step⟩ := monitor_before applied there
    · rw [waits] at restarting
      cases restarting
    · exact budgeted.answered j m found restarting
    · obtain already | ⟨crash, handled, -⟩ := step.began restarting
      · exact budgeted.answered j before found already
      · rw [quiet] at handled
        cases handled

theorem Budgeted.crash_step (budgeted : Budgeted config log s) (applied : s.apply a = some s')
    (handled : s.crash a = some crash) : Budgeted config (log ++ [crash]) s' := by
  obtain ⟨recorded, decided⟩ := apply_crash applied handled
  rw [budgeted.configured, budgeted.window] at recorded decided
  obtain ⟨env, code, child, rfl, found, -, -⟩ := crash_eq_some handled
  refine ⟨(apply_config applied).trans budgeted.configured, ?_, ?_, ?_, ?_, ?_⟩
  · rw [recorded, List.map_append, recordAll_append]
    rfl
  · rw [List.map_append, List.map_append, budgeted.decided, verdicts_append]
    simp [verdicts, decided]
  · intro earlier member refused
    obtain before | last := List.mem_append.mp member
    · obtain ⟨child', ended⟩ := budgeted.ended earlier before refused
      exact ⟨child', finished_stays applied ended⟩
    · cases List.mem_singleton.mp last
      exact crash_ends applied handled refused
  · refine List.pairwise_append.mpr ⟨budgeted.silent, List.pairwise_singleton _ _, ?_⟩
    intro earlier member later last refused same
    cases List.mem_singleton.mp last
    -- the loop would be both at its end and handling a crash
    obtain ⟨child', ended⟩ := budgeted.ended earlier member refused
    rw [← same, found] at ended
    cases ended
  · intro j m there restarting
    obtain waits | ⟨before, other⟩ | ⟨env', before, acts, found', step⟩ :=
      monitor_before applied there
    · rw [waits] at restarting
      cases restarting
    · obtain ⟨answer, ⟨earlier, after, rfl, loop, silent⟩, restarts⟩ :=
        budgeted.answered j m before restarting
      refine ⟨answer, ⟨earlier, after ++ [crash], by simp, loop, fun later member => ?_⟩, restarts⟩
      obtain inside | last := List.mem_append.mp member
      · exact silent later inside
      · cases List.mem_singleton.mp last
        rintro rfl
        exact other env rfl
    · cases acts
      obtain already | ⟨answer, handled', restarts⟩ := step.began restarting
      · rw [step.silent already] at handled
        cases handled
      · rw [handled] at handled'
        cases handled'
        exact ⟨crash, ⟨log, [], rfl, rfl, by simp⟩, restarts⟩

theorem budgeted_of_logged {calls : List Call} (run : Logged (Sys.new config calls) log s) :
    Budgeted config log s := by
  induction run with
  | start => exact budgeted_new config calls
  | @step log s s' a _ applied ih =>
      cases handled : s.crash a with
      | none => simpa using ih.quiet_step applied handled
      | some crash => exact ih.crash_step applied handled

theorem Budgeted.restarted_le (budgeted : Budgeted config log s)
    (sorted : (log.map Crash.instant).Pairwise (· ≤ ·)) (start : Nat) :
    (log.filter fun crash => crash.restarts && (decide (start ≤ crash.instant) &&
        decide (crash.instant < start + config.restartWindow))).length ≤
      config.maxRestartAttempts := by
  have bound := admitted_le config.maxRestartAttempts config.restartWindow start sorted
  rw [← budgeted.decided, admitted, List.filter_map, List.length_map] at bound
  exact bound

/-- Whether a crash is answered depends on the crashes of the last window alone. -/
theorem Budgeted.restarts_eq {before after : List Crash}
    (budgeted : Budgeted config (before ++ crash :: after) s)
    (sorted : ((before ++ crash :: after).map Crash.instant).Pairwise (· ≤ ·)) :
    crash.restarts = decide ((before.filter fun past =>
      decide (crash.instant - past.instant < config.restartWindow)).length + 1 ≤
        config.maxRestartAttempts) := by
  have upTo : (before.map Crash.instant ++ [crash.instant]).Pairwise (· ≤ ·) := by
    refine sorted.sublist ?_
    simp
  have decided := budgeted.decided
  simp only [List.map_append, List.map_cons, verdicts_append, verdicts] at decided
  have same := (List.append_inj decided (by simp)).2
  have answer := congrArg Prod.snd (List.cons.inj same).1
  rw [record_recordAll upTo] at answer
  simpa [recent, List.filter_map, Function.comp_def] using answer

end

/-! ### The budget -/

/-- The restart budget of a supervisor, for every limit and window, every number of
callers and loops and every order of their steps. An interval of the window's length,
wherever it lies, holds at most `max_restart_attempts` crashes that are answered by a
restart. A crash that is more than that many within the last window is not answered;
its loop has ended, so it handles no later crash. And no loop restarts its worker but
in answer to the crash it has handled last. -/
theorem restart_budget (config : SupervisorConfig) (calls : List Call)
    (run : Logged (Sys.new config calls) log s)
    (sorted : (log.map Crash.instant).Pairwise (· ≤ ·)) :
    (∀ start, (log.filter fun crash => crash.restarts && (decide (start ≤ crash.instant) &&
        decide (crash.instant < start + config.restartWindow))).length ≤
      config.maxRestartAttempts) ∧
    (∀ before crash after, log = before ++ crash :: after →
      config.maxRestartAttempts < (before.filter fun past =>
        decide (crash.instant - past.instant < config.restartWindow)).length + 1 →
      crash.restarts = false ∧
        (∃ child, s.tasks[crash.loop]? = some (.monitor ⟨.finished, child⟩)) ∧
        ∀ later ∈ after, later.loop ≠ crash.loop) ∧
    ∀ i env answer now, s.sectionOf (.run i env) = .respawn answer now →
      ∃ crash, LastCrash log i crash ∧ crash.restarts = true := by
  have budgeted := budgeted_of_logged run
  refine ⟨budgeted.restarted_le sorted, ?_, ?_⟩
  · rintro before crash after rfl exhausted
    have refused : crash.restarts = false := by
      rw [budgeted.restarts_eq sorted, decide_eq_false (Nat.not_le.mpr exhausted)]
    refine ⟨refused, budgeted.ended crash (by simp) refused, fun later member => ?_⟩
    exact List.rel_of_pairwise_cons (List.pairwise_append.mp budgeted.silent).2.1 member refused
  · intro i env answer now respawns
    obtain ⟨m, found, restarting⟩ := restarting_of_respawn respawns
    exact budgeted.answered i m found restarting

/-- Follow a list of actions and keep the crashes. -/
def Sys.logAll : Sys → List Action → Option (List Crash × Sys)
  | s, [] => some ([], s)
  | s, a :: rest =>
      match s.apply a with
      | some s' => (s'.logAll rest).map fun (log, last) => ((s.crash a).toList ++ log, last)
      | none => none

theorem Logged.logAll {actions : List Action} {more : List Crash} (run : Logged s₀ log s)
    (all : s.logAll actions = some (more, s')) : Logged s₀ (log ++ more) s' := by
  induction actions generalizing s log more with
  | nil =>
      cases all
      rwa [List.append_nil]
  | cons a rest ih =>
      simp only [Sys.logAll] at all
      split at all
      · rename_i next applied
        obtain ⟨⟨tail, last⟩, follows, same⟩ := Option.map_eq_some_iff.mp all
        cases same
        rw [← List.append_assoc]
        exact ih (run.step applied) follows
      · cases all

/-- One restart in ten seconds: the second crash, five seconds after the first, ends
the loop. -/
theorem restart_budget_exhausted :
    ∃ s, Logged (Sys.new { exampleConfig with maxRestartAttempts := 1, restartWindow := 10 }
        [.spawn]) [⟨1, 0, true⟩, ⟨1, 5, false⟩] s ∧
      ∃ child, s.tasks[1]? = some (.monitor ⟨.finished, child⟩) := by
  have outcome : ((Sys.new { exampleConfig with maxRestartAttempts := 1, restartWindow := 10 }
      [.spawn]).logAll (crashAndRestart ++ [.exit 1] ++
        List.replicate 4 (.run 1 { quietAmbient with now := 5 }))).map Prod.fst =
      some [⟨1, 0, true⟩, ⟨1, 5, false⟩] := by
    decide
  obtain ⟨⟨_, s⟩, all, rfl⟩ := Option.map_eq_some_iff.mp outcome
  have run := Logged.start.logAll all
  have budget := restart_budget _ _ run (by decide)
  exact ⟨s, run, (budget.2.1 [⟨1, 0, true⟩] ⟨1, 5, false⟩ [] rfl (by decide)).2.1⟩

end ZonDpi.Supervisor
