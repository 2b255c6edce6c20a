import Mathlib.Data.List.Basic
import ZonDpi.Engine.Adapter

/-!
The worker processes behind the adapters, and what the adapters' operations do
to them.

A supervisor's worker is seen from outside: it has not been spawned, it is alive,
it has crashed and will be restarted, or it is gone for good. Between any two
requests workers may crash and be restarted; `Rely` is what they may do on their
own. A worker that is neither alive nor about to be restarted stays so unless its
supervisor is asked to spawn, which the adapters do once in a supervisor's life.
That supervisors do no more to their processes than these workers may do is
`supervisor_refines_worker`.
-/

namespace ZonDpi.Engine

open Effects ZonDpi.Std ZonDpi.Supervisor

inductive WorkerState where
  | idle
  | alive
  | restarting
  | failed
  | stopped
deriving DecidableEq, Repr

/-- Alive, or pending automatic restart. -/
def WorkerState.live : WorkerState → Bool
  | .alive | .restarting => true
  | _ => false

structure Worker where
  config : SupervisorConfig
  state : WorkerState
deriving DecidableEq, Repr

/-- The engine a worker belongs to. -/
def Worker.engine (worker : Worker) : Option EngineId :=
  if worker.config.name = goodbyeName then some .goodbyeDpi
  else if worker.config.name = byedpiName then some .byeDpi
  else none

/-- The workers by supervisor number. `healthy` is history: a health check of the
operation being served has passed. -/
structure EngineWorld where
  workers : List Worker
  healthy : Bool
deriving DecidableEq, Repr

def setState (workers : List Worker) (supervisor : Nat) (state : WorkerState) : List Worker :=
  workers.modify supervisor fun worker => { worker with state := state }

namespace EngineWorld

def checked (w : EngineWorld) (result : HealthCheckResult) : EngineWorld :=
  { w with healthy := w.healthy || result.isHealthy }

/-- What an answer does. A supervisor that has been stopped stays stopped. -/
def effect (w : EngineWorld) : (r : EngineReq) → EngineResp r → EngineWorld
  | .newSupervisor config, _ => { w with workers := w.workers ++ [⟨config, .idle⟩] }
  | .spawn supervisor, .ok () => { w with workers := setState w.workers supervisor .alive }
  | .spawn supervisor, .error _ => { w with workers := setState w.workers supervisor .failed }
  | .gracefulStop supervisor, _ => { w with workers := setState w.workers supervisor .stopped }
  | .goodbyeStatus _, (status, recentLogs) => w.checked (goodbyeHealth status recentLogs)
  | .byedpiStatus _ ip port, (status, probe) => w.checked (byedpiHealth status ip port probe)
  | _, _ => w

/-- A new supervisor gets the next number; every other answer is possible. -/
def Allowed (w : EngineWorld) : (r : EngineReq) → EngineResp r → Prop
  | .newSupervisor _, supervisor => supervisor = w.workers.length
  | _, _ => True

end EngineWorld

/-- What workers may do on their own. -/
structure Rely where
  evolve : List Worker → List Worker → Prop
  refl : ∀ workers, evolve workers workers
  trans : ∀ {a b c}, evolve a b → evolve b c → evolve a c
  /-- Every worker keeps its place and configuration, and only live workers are
  live later. -/
  earlier : ∀ {before after : List Worker}, evolve before after → ∀ {i : Nat} {worker : Worker},
    after[i]? = some worker → ∃ was, before[i]? = some was ∧ was.config = worker.config ∧
      (worker.state.live = true → was.state.live = true)

/-- Nothing happens between requests. -/
def Rely.still : Rely where
  evolve := Eq
  refl := fun _ => rfl
  trans := Eq.trans
  earlier := by
    rintro before _ rfl i worker found
    exact ⟨worker, found, rfl, id⟩

/-- A live worker may crash, be restarted or be given up; the others stay as
they are. -/
def Worker.MayBecome (before after : Worker) : Prop :=
  after.config = before.config ∧
    (after.state = before.state ∨
      before.state.live = true ∧ (after.state.live = true ∨ after.state = .failed))

theorem Worker.MayBecome.trans {a b c : Worker} (first : a.MayBecome b) (second : b.MayBecome c) :
    a.MayBecome c := by
  refine ⟨second.1.trans first.1, ?_⟩
  rcases first.2 with same | ⟨live, -⟩
  · rcases second.2 with same' | ⟨live, next⟩
    · exact .inl (same'.trans same)
    · exact .inr ⟨same ▸ live, next⟩
  · refine .inr ⟨live, ?_⟩
    rcases second.2 with same | ⟨-, next⟩
    · rcases first.2 with before | ⟨-, next⟩
      · exact .inl (by rw [same, before]; exact live)
      · rwa [same]
    · exact next

/-- Workers crash and are restarted by their supervisors' monitor loops. -/
def Rely.crashes : Rely where
  evolve := fun before after => after.length = before.length ∧
    ∀ (i : Nat) (worker : Worker), after[i]? = some worker →
      ∃ was, before[i]? = some was ∧ was.MayBecome worker
  refl := fun _ => ⟨rfl, fun _ worker found => ⟨worker, found, rfl, .inl rfl⟩⟩
  trans := by
    rintro a b c ⟨length, first⟩ ⟨length', second⟩
    refine ⟨length'.trans length, fun i worker found => ?_⟩
    obtain ⟨middle, foundMiddle, next⟩ := second i worker found
    obtain ⟨was, foundWas, before⟩ := first i middle foundMiddle
    exact ⟨was, foundWas, before.trans next⟩
  earlier := by
    rintro before after ⟨-, evolved⟩ i worker found
    obtain ⟨was, foundWas, config, next⟩ := evolved i worker found
    refine ⟨was, foundWas, config.symm, fun live => ?_⟩
    rcases next with same | ⟨wasLive, -⟩
    · rwa [← same]
    · exact wasLive

def engineMachine (rely : Rely) : Machine EngineReq EngineResp EngineWorld :=
  fun w r x w' => ∃ workers, rely.evolve w.workers workers ∧
    EngineWorld.Allowed { w with workers := workers } r x ∧
    w' = EngineWorld.effect { w with workers := workers } r x

/-! ### Which workers are live -/

/-- Every live worker is at a place and with a configuration that `P` allows. -/
def LiveIn (P : Nat → SupervisorConfig → Prop) (workers : List Worker) : Prop :=
  ∀ (i : Nat) (worker : Worker), workers[i]? = some worker → worker.state.live = true →
    P i worker.config

section Live

variable {P Q : Nat → SupervisorConfig → Prop} {workers : List Worker}

theorem LiveIn.mono (live : LiveIn P workers) (weaker : ∀ i config, P i config → Q i config) :
    LiveIn Q workers :=
  fun i worker found isLive => weaker i _ (live i worker found isLive)

theorem LiveIn.evolve {rely : Rely} {after : List Worker} (live : LiveIn P workers)
    (evolved : rely.evolve workers after) : LiveIn P after := by
  intro i worker found isLive
  obtain ⟨was, foundWas, config, wasLive⟩ := rely.earlier evolved found
  exact config ▸ live i was foundWas (wasLive isLive)

/-- A state that is not live takes its worker out. -/
theorem LiveIn.setState_dead (live : LiveIn P workers) (supervisor : Nat) {state : WorkerState}
    (dead : state.live = false) :
    LiveIn (fun i config => P i config ∧ i ≠ supervisor) (setState workers supervisor state) := by
  intro i worker found isLive
  simp only [setState, List.getElem?_modify, Option.map_eq_map, Option.map_eq_some_iff] at found
  obtain ⟨before, foundBefore, rfl⟩ := found
  by_cases here : supervisor = i
  · simp [here, dead] at isLive
  · simp only [here, if_false] at isLive ⊢
    exact ⟨live i before foundBefore isLive, Ne.symm here⟩

theorem LiveIn.append_idle (live : LiveIn P workers) (config : SupervisorConfig) :
    LiveIn P (workers ++ [⟨config, .idle⟩]) := by
  intro i worker found isLive
  rw [List.getElem?_append] at found
  split at found
  · exact live i worker found isLive
  · obtain rfl : (⟨config, .idle⟩ : Worker) = worker := by
      simpa using (List.getElem?_eq_some_iff.mp found).2
    cases isLive

/-- The worker of a supervisor, if it exists, has this configuration. -/
def ConfiguredAs (workers : List Worker) (supervisor : Nat) (config : SupervisorConfig) : Prop :=
  ∀ worker, workers[supervisor]? = some worker → worker.config = config

theorem configuredAs_append (config : SupervisorConfig) :
    ConfiguredAs (workers ++ [⟨config, .idle⟩]) workers.length config := by
  intro worker found
  obtain rfl : (⟨config, .idle⟩ : Worker) = worker := by simpa using found
  rfl

theorem ConfiguredAs.evolve {rely : Rely} {after : List Worker} {supervisor : Nat}
    {config : SupervisorConfig} (configured : ConfiguredAs workers supervisor config)
    (evolved : rely.evolve workers after) : ConfiguredAs after supervisor config := by
  intro worker found
  obtain ⟨was, foundWas, same, -⟩ := rely.earlier evolved found
  rw [← same, configured was foundWas]

/-- A worker that is set alive joins with its own configuration. -/
theorem LiveIn.setState_alive {supervisor : Nat} {config : SupervisorConfig}
    (live : LiveIn P workers) (configured : ConfiguredAs workers supervisor config)
    (state : WorkerState) :
    LiveIn (fun i c => P i c ∨ i = supervisor ∧ c = config)
      (setState workers supervisor state) := by
  intro i worker found isLive
  simp only [setState, List.getElem?_modify, Option.map_eq_map, Option.map_eq_some_iff] at found
  obtain ⟨before, foundBefore, rfl⟩ := found
  by_cases here : supervisor = i
  · subst here
    refine .inr ⟨rfl, ?_⟩
    simpa using configured before foundBefore
  · simp only [here, if_false] at isLive ⊢
    exact .inl (live i before foundBefore isLive)

end Live

/-! ### What the adapters' operations do -/

section Specs

variable {rely : Rely} {P : Nat → SupervisorConfig → Prop} {w : EngineWorld}

/-- One request: the workers move on their own, then the answer takes effect. -/
theorem always_engineCall (r : EngineReq) {guard : EngineWorld → EngineReq → Prop}
    {post : EngineResp r → EngineWorld → Prop} :
    (Prog.ask r : EngineProg (EngineResp r)).Always (engineMachine rely) guard post w ↔
      guard w r ∧ ∀ workers, rely.evolve w.workers workers → ∀ x,
        EngineWorld.Allowed { w with workers := workers } r x →
          post x (EngineWorld.effect { w with workers := workers } r x) := by
  rw [Prog.always_ask]
  refine and_congr_right fun _ => ⟨fun all workers evolved x allowed =>
    all x _ ⟨workers, evolved, allowed, rfl⟩, ?_⟩
  rintro all x w' ⟨workers, evolved, allowed, rfl⟩
  exact all workers evolved x allowed

/-- The live workers stay within `P`, and no health check passes. -/
def Within (P : Nat → SupervisorConfig → Prop) (healthy : Bool) (w : EngineWorld) : Prop :=
  LiveIn P w.workers ∧ w.healthy = healthy

/-- Requests that only look. -/
theorem always_look (r : EngineReq) {healthy : Bool} (within : Within P healthy w)
    (looks : ∀ (w : EngineWorld) (x : EngineResp r), w.effect r x = w) :
    (Prog.ask r : EngineProg (EngineResp r)).Always (engineMachine rely) (fun _ _ => True)
      (fun _ w' => Within P healthy w') w := by
  refine (always_engineCall r).mpr ⟨trivial, fun workers evolved x _ => ?_⟩
  rw [looks]
  exact ⟨within.1.evolve evolved, within.2⟩

theorem always_gracefulStop {healthy : Bool} (within : Within P healthy w) (supervisor : Nat) :
    (gracefulStop supervisor).Always (engineMachine rely) (fun _ _ => True)
      (fun _ w' => Within (fun i config => P i config ∧ i ≠ supervisor) healthy w') w :=
  (always_engineCall (.gracefulStop supervisor)).mpr ⟨trivial, fun _ evolved _ _ =>
    ⟨(within.1.evolve evolved).setState_dead supervisor rfl, within.2⟩⟩

/-- A new supervisor has no worker yet. -/
theorem always_newSupervisor {healthy : Bool} (within : Within P healthy w)
    (config : SupervisorConfig) :
    (newSupervisor config).Always (engineMachine rely) (fun _ _ => True)
      (fun supervisor w' => Within P healthy w' ∧ ConfiguredAs w'.workers supervisor config) w := by
  refine (always_engineCall (.newSupervisor config)).mpr
    ⟨trivial, fun workers evolved supervisor new => ?_⟩
  obtain rfl : supervisor = workers.length := new
  exact ⟨⟨(within.1.evolve evolved).append_idle config, within.2⟩, configuredAs_append config⟩

/-- After `spawnWith` the new worker may be live if the spawn succeeded, and no
other worker is live that was not. -/
theorem always_spawnWith {healthy : Bool} (within : Within P healthy w)
    (config : SupervisorConfig) :
    (spawnWith config).Always (engineMachine rely) (fun _ _ => True)
      (fun result w' => match result with
        | (.ok (), supervisor) =>
            Within (fun i c => P i c ∨ i = supervisor ∧ c = config) healthy w'
        | (.error _, _) => Within P healthy w') w := by
  refine (always_newSupervisor within config).bind ?_
  rintro supervisor w' ⟨within, configured⟩
  refine Prog.Always.bind
    ((always_engineCall (.spawn supervisor)).mpr ⟨trivial, fun workers evolved spawned _ => ?_⟩)
    fun spawned w'' known => known
  cases spawned with
  | ok done =>
      exact ⟨(within.1.evolve evolved).setState_alive (configured.evolve evolved) .alive,
        within.2⟩
  | error e =>
      have dead := (within.1.evolve evolved).setState_dead supervisor
        (show WorkerState.failed.live = false from rfl)
      exact ⟨dead.mono fun _ _ known => known.1, within.2⟩

theorem always_dllIsFile {healthy : Bool} (within : Within P healthy w) (binary : BinaryPath)
    (place : DllPlace) :
    (dllIsFile binary place).Always (engineMachine rely) (fun _ _ => True)
      (fun _ w' => Within P healthy w') w :=
  always_look (.dllIsFile binary place) within fun _ _ => rfl

theorem always_dllAvailable {healthy : Bool} (within : Within P healthy w) (binary : BinaryPath) :
    (dllAvailable binary).Always (engineMachine rely) (fun _ _ => True)
      (fun _ w' => Within P healthy w') w := by
  unfold dllAvailable
  cases binary.parent with
  | none => exact within
  | some parent =>
      refine (always_dllIsFile within binary .besideExecutable).bind fun beside w' within => ?_
      cases beside with
      | true => exact within
      | false =>
          refine (always_dllIsFile within binary .distribution).bind fun found w' within => ?_
          cases found with
          | true => exact within
          | false => exact always_dllIsFile within binary .workingDirectory

/-- A started worker runs under the adapter's new supervisor; a failed start
leaves no worker behind. -/
theorem always_goodbyeStart {healthy : Bool} (within : Within P healthy w)
    (adapter : GoodbyeDpiAdapter) (profile : ProfileDefinition) (suppress : Bool) :
    (adapter.start profile suppress).Always (engineMachine rely) (fun _ _ => True)
      (fun result w' => match result with
        | (.ok (), started) => Within (fun i config => P i config ∨
            i = started.supervisor ∧ config.name = goodbyeName) healthy w'
        | (.error _, _) => Within P healthy w') w := by
  unfold GoodbyeDpiAdapter.start
  have resolve : (resolveBinary .goodbyeDpi).Always (engineMachine rely) (fun _ _ => True)
      (fun _ w' => Within P healthy w') w := always_look (.resolveBinary _) within fun _ _ => rfl
  refine resolve.bind fun resolved w' within => ?_
  cases resolved with
  | error message => exact within
  | ok binary =>
      refine (always_dllAvailable within binary).bind fun available w' within => ?_
      cases available with
      | false => exact within
      | true =>
          cases GoodbyeConfig.fromProfile profile with
          | error e => exact within
          | ok config =>
              refine (always_spawnWith within _).bind fun result w' known => ?_
              rcases result with ⟨_ | _, supervisor⟩
              · exact known
              · exact ⟨known.1.mono fun i c known => known.imp id fun ⟨here, same⟩ =>
                  ⟨here, same ▸ rfl⟩, known.2⟩

theorem always_byedpiStart {healthy : Bool} (within : Within P healthy w)
    (adapter : ByeDpiAdapter) (profile : ProfileDefinition) :
    (adapter.start profile).Always (engineMachine rely) (fun _ _ => True)
      (fun result w' => match result with
        | (.ok (), started) => Within (fun i config => P i config ∨
            i = started.supervisor ∧ config.name = byedpiName) healthy w'
        | (.error _, _) => Within P healthy w') w := by
  unfold ByeDpiAdapter.start
  have resolve : (resolveBinary .byeDpi).Always (engineMachine rely) (fun _ _ => True)
      (fun _ w' => Within P healthy w') w := always_look (.resolveBinary _) within fun _ _ => rfl
  refine resolve.bind fun resolved w' within => ?_
  cases resolved with
  | error message => exact within
  | ok binary =>
      cases ByeDpiConfig.fromProfile profile with
      | error e => exact within
      | ok config =>
          have bind : (bindPort config.listenIp config.port).Always (engineMachine rely)
              (fun _ _ => True) (fun _ w' => Within P healthy w') w' :=
            always_look (.bindPort _ _) within fun _ _ => rfl
          have preflight : (preflightCheckPort config.listenIp config.port).Always
              (engineMachine rely) (fun _ _ => True) (fun _ w' => Within P healthy w') w' :=
            bind.bind fun free w' within => by cases free <;> exact within
          refine preflight.bind fun checked w' within => ?_
          cases checked with
          | error e => exact within
          | ok done =>
              refine (always_spawnWith within _).bind fun result w' known => ?_
              rcases result with ⟨_ | _, supervisor⟩
              · exact known
              · exact ⟨known.1.mono fun i c known => known.imp id fun ⟨here, same⟩ =>
                  ⟨here, same ▸ rfl⟩, known.2⟩

theorem always_goodbyeStop {healthy : Bool} (within : Within P healthy w)
    (adapter : GoodbyeDpiAdapter) :
    adapter.stop.Always (engineMachine rely) (fun _ _ => True) (fun _ w' =>
      Within (fun i config => P i config ∧ i ≠ adapter.supervisor) healthy w') w :=
  (always_gracefulStop within adapter.supervisor).bind fun _ _ known => known

theorem always_byedpiStop {healthy : Bool} (within : Within P healthy w)
    (adapter : ByeDpiAdapter) :
    adapter.stop.Always (engineMachine rely) (fun _ _ => True) (fun _ w' =>
      Within (fun i config => P i config ∧ i ≠ adapter.supervisor) healthy w') w :=
  (always_gracefulStop within adapter.supervisor).bind fun _ _ known => known

/-- A health check starts and stops nothing, and is remembered when it passes. -/
theorem always_goodbyeHealthCheck {healthy : Bool} (within : Within P healthy w)
    (adapter : GoodbyeDpiAdapter) :
    adapter.healthCheck.Always (engineMachine rely) (fun _ _ => True)
      (fun result w' => Within P (healthy || result.isHealthy) w') w := by
  refine Prog.Always.bind ((always_engineCall (.goodbyeStatus adapter.supervisor)).mpr
    ⟨trivial, fun workers evolved answer _ => ?_⟩)
    fun answer w' (known : Within P (healthy || (goodbyeHealth answer.1 answer.2).isHealthy) w') =>
      known
  exact ⟨within.1.evolve evolved, congrArg (· || _) within.2⟩

theorem always_byedpiHealthCheck {healthy : Bool} (within : Within P healthy w)
    (adapter : ByeDpiAdapter) :
    adapter.healthCheck.Always (engineMachine rely) (fun _ _ => True)
      (fun result w' => Within P (healthy || result.isHealthy) w') w := by
  refine Prog.Always.bind ((always_engineCall (.byedpiStatus adapter.supervisor _ _)).mpr
    ⟨trivial, fun workers evolved answer _ => ?_⟩)
    fun answer w' (known : Within P (healthy || (byedpiHealth answer.1 adapter.target.1
      adapter.target.2 answer.2).isHealthy) w') => known
  exact ⟨within.1.evolve evolved, congrArg (· || _) within.2⟩

end Specs

end ZonDpi.Engine
