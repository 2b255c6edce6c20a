import ZonDpi.Manager.Runs

/-!
What an operation that fails leaves behind, and what the status report then says.

`start_engine_internal` calls itself transactional, but it stops the active engine
before it has tried the new one and has no way back. So a failed switch keeps the
engine exactly when it fails before the lock is taken, that is, on the profile.
Mode and profile are written only at the commit: after a failure past that point
they still describe the engine that was stopped, and `get_status` reports them.
-/

namespace ZonDpi.Manager

open Effects ZonDpi.Dns ZonDpi.Engine ZonDpi.Supervisor

/-! ### A failed switch -/

/-- The supervisor of an engine's adapter. -/
def ManagerInner.supervisor (inner : ManagerInner) : EngineId → Option Nat
  | .goodbyeDpi => some inner.goodbyeAdapter.supervisor
  | .byeDpi => some inner.byedpiAdapter.supervisor
  | .native => none

/-- The engine is committed and its worker is alive. -/
structure RunsEngine (w : World) (engine : EngineId) : Prop where
  active : w.inner.activeEngine = some engine
  worker : ∃ i config, w.inner.supervisor engine = some i ∧
    w.engines.workers[i]? = some ⟨config, .alive⟩

/-- A start in this environment fails on the profile, before it touches the
active engine, or meets no failure. -/
def Environment.Harmless (env : Environment) (report : Except DnsManagerError AdapterDnsConfig)
    (provider : DnsProvider) (target : EngineId) (profileId : String) : Prop :=
  match env.profile (env.effectiveProfile target profileId) with
  | .error _ => True
  | .ok profile =>
      (env.wantsOverride target provider = true → env.overrides report = true) ∧
        env.launches profile target = true

section Switch

variable {w : World}

/-- The part under the lock fails only after the active engine is gone. -/
theorem Environment.run_startUnderLock (env : Environment)
    (settled : Settled (fun _ _ => True) w)
    (report : Except DnsManagerError AdapterDnsConfig) (target : EngineId) (profileId : String)
    (profile : ProfileDefinition) (mode : ActiveMode) :
    let outcome := (withInner (startLocked target env.kasperskyDetected profileId profile mode)).run
      (env.handler fun _ => report) w
    (outcome.1.toBool = true ↔
      (env.wantsOverride target w.inner.dnsProvider = true → env.overrides report = true) ∧
        env.launches profile target = true) ∧
    ∀ e, outcome.1 = .error e → outcome.2.inner.activeEngine = none := by
  intro outcome
  constructor
  · have result : outcome.1 = ((startLocked target env.kasperskyDetected profileId profile mode
        w.inner).run (env.handler fun _ => report) { w with locked := true }).1.1 :=
      congrArg Prod.fst (Environment.run_withInner _)
    rw [result, Environment.run_startLocked_isOk]
    cases env.wantsOverride target w.inner.dnsProvider <;> simp
  · intro e failed
    have ends : (withInner (startLocked target env.kasperskyDetected profileId profile mode)).Ends
        (managerMachine (fun _ _ _ => True) .still) w outcome.1 outcome.2 :=
      Environment.ends_run (fun _ _ => trivial) .still _
    obtain ⟨-, -, -, published⟩ := (always_startUnderLock (dnsTracking_trivial _) settled target
      env.kasperskyDetected profileId profile mode).ends ends
    rw [failed] at published
    exact published.2.engine

/-- If every failure loses something, it is kept exactly when there is no failure. -/
theorem keeps_iff_isOk {outcome : Except EngineManagerError Unit × World} {Kept : World → Prop}
    (loses : ∀ e, outcome.1 = .error e → ¬ Kept outcome.2) :
    (∀ e w', outcome = (.error e, w') → Kept w') ↔ outcome.1.toBool = true := by
  obtain ⟨e | done, w'⟩ := outcome
  · exact iff_of_false (fun keeps => loses e rfl (keeps e w' rfl)) Bool.false_ne_true
  · exact iff_of_true (fun _ _ failed => nomatch failed) rfl

end Switch

/-- A failed start or switch leaves the engine that was running, with its profile
and mode, exactly in the environments in which it is harmless. -/
theorem failed_switch_keeps_engine_iff {w0 w : World} {engine target : EngineId}
    {profileId : String} {op : ManagerOp} (fresh : Fresh w0)
    (run : (managerRuns (fun _ _ _ => True) .crashes).Reaches ⟨w0, .idle⟩ ⟨w, .idle⟩)
    (running : RunsEngine w engine)
    (start : op = .startEngine target profileId ∨ op = .switchEngine target profileId)
    (env : Environment) (report : Except DnsManagerError AdapterDnsConfig) :
    (∀ e w', env.serve (fun _ => report) w op = (.error e, w') →
      RunsEngine w' engine ∧ w'.inner.activeProfile = w.inner.activeProfile ∧
        w'.inner.activeMode = w.inner.activeMode) ↔
      env.Harmless report w.inner.dnsProvider target profileId := by
  have settled := (fresh.runs_settled (dnsTracking_trivial _) trivial run).accept
  have program : op.program = startEngineInternal target profileId (.manual target) := by
    rcases start with rfl | rfl <;> rfl
  rw [Environment.serve, program, Environment.run_startEngineInternal, Environment.Harmless]
  cases env.profile (env.effectiveProfile target profileId) with
  | error e =>
      refine iff_of_true ?_ trivial
      rintro _ _ ⟨⟩
      exact ⟨⟨running.active, running.worker⟩, rfl, rfl⟩
  | ok profile =>
      obtain ⟨succeeds, gone⟩ := env.run_startUnderLock settled report target
        (env.effectiveProfile target profileId) profile (.manual target)
      refine (keeps_iff_isOk fun e failed kept => ?_).trans succeeds
      exact Option.some_ne_none engine (kept.1.active.symm.trans (gone e failed))

theorem startedWorld_runs : RunsEngine startedWorld .goodbyeDpi := by
  obtain ⟨⟨config, _⟩, found, rfl⟩ := Option.map_eq_some_iff.mp startedWorld_started.worker
  exact ⟨startedWorld_started.engine, 2, config, congrArg some startedWorld_started.supervisor,
    found⟩

/-- The example computer when the profile asked for does not exist. -/
def profilelessPc : Environment :=
  { kasperskyPc with profile := fun id => .error (.path (.profileNotFound id [])) }

theorem failed_switch_keeps_engine_iff_profileless :
    RunsEngine startedWorld .goodbyeDpi ∧
      ∃ e w', profilelessPc.serve (fun _ => .error (.adapterNotFound "")) startedWorld
          (.switchEngine .byeDpi "missing") = (.error e, w') ∧ RunsEngine w' .goodbyeDpi := by
  have switch : ManagerOp.switchEngine .byeDpi "missing" = .startEngine .byeDpi "missing" ∨
      ManagerOp.switchEngine .byeDpi "missing" = .switchEngine .byeDpi "missing" := .inr rfl
  have keeps := (failed_switch_keeps_engine_iff freshWorld_fresh startedWorld_reaches
    startedWorld_runs switch profilelessPc (.error (.adapterNotFound ""))).mpr trivial
  exact ⟨startedWorld_runs, _, _, rfl, (keeps _ _ rfl).1⟩

/-- ByeDPI is asked for with a profile of GoodbyeDPI, which is running. -/
def failedSwitch : Except EngineManagerError Unit × World :=
  kasperskyPc.serve findEthernet startedWorld (.switchEngine .byeDpi "turkey-default")

theorem failedSwitch_leaves :
    failedSwitch.1.toBool = false ∧ failedSwitch.2.inner.activeEngine = none ∧
      failedSwitch.2.inner.activeMode = .manual .goodbyeDpi ∧
      failedSwitch.2.inner.activeProfile = some "turkey-default" := by
  decide +kernel

theorem failed_switch_loses_engine :
    ¬ ∀ (env : Environment) (find : Finder) (w0 w w' : World) (engine target : EngineId)
        (profileId : String) (e : EngineManagerError), Fresh w0 →
      (managerRuns (fun _ _ _ => True) .crashes).Reaches ⟨w0, .idle⟩ ⟨w, .idle⟩ →
      RunsEngine w engine →
      env.serve find w (.switchEngine target profileId) = (.error e, w') →
        RunsEngine w' engine ∧ w'.inner.activeProfile = w.inner.activeProfile ∧
          w'.inner.activeMode = w.inner.activeMode := by
  intro law
  obtain ⟨failed, none, -⟩ := failedSwitch_leaves
  obtain ⟨e, failed⟩ : ∃ e, failedSwitch.1 = .error e := by
    cases result : failedSwitch.1 with
    | error e => exact ⟨e, rfl⟩
    | ok done => simp [result, Except.toBool] at failed
  have served : kasperskyPc.serve findEthernet startedWorld
      (.switchEngine .byeDpi "turkey-default") = (.error e, failedSwitch.2) := by
    rw [← failedSwitch, ← failed]
  have kept := (law _ _ _ _ _ _ _ _ e freshWorld_fresh startedWorld_reaches startedWorld_runs
    served).1.active
  exact Option.some_ne_none _ (kept.symm.trans none)

/-! ### The status fields over runs -/

/-- The fields that say what is running agree with each other. -/
structure Consistent (inner : ManagerInner) : Prop where
  mode : inner.activeEngine = none ↔ inner.activeMode = .idle
  profile : inner.activeMode = .idle ↔ inner.activeProfile = none
  manual : ∀ engine, inner.activeMode = .manual engine → inner.activeEngine = some engine
  auto : ∀ preferred fallbackReason engine, inner.activeMode = .auto preferred fallbackReason →
    inner.activeEngine = some engine → (fallbackReason = none ↔ engine = preferred)

/-- The operation found no engine active, stops, has seen a worker pass its health
check, or is a start whose profile could not be loaded. -/
def KeepsStatus (op : ManagerOp) (w : World) : Prop :=
  w.began.activeEngine = none ∨ op = .stopEngine ∨ w.engines.healthy = true ∨
    w.profileRefused = true ∧ ∀ profileId, op ≠ .startAuto profileId

/-- Runs in which every operation keeps the status. -/
abbrev statusRuns (rely : Rely) :
    Service MgrReq MgrResp World ManagerOp (Except EngineManagerError Unit) :=
  managerService (fun _ _ _ => True) rely (fun _ _ => False) KeepsStatus

section Status

variable {rely : Rely} {w w' : World} {inner : ManagerInner}

theorem Consistent.of_sameStatus {inner' : ManagerInner} (consistent : Consistent inner)
    (same : SameStatus inner inner') : Consistent inner' := by
  obtain ⟨engine, mode, profile⟩ := same
  refine ⟨?_, ?_, ?_, ?_⟩
  · rw [engine, mode]
    exact consistent.mode
  · rw [mode, profile]
    exact consistent.profile
  · rw [engine, mode]
    exact consistent.manual
  · rw [engine, mode]
    exact consistent.auto

theorem consistent_of_stopped (engine : inner.activeEngine = none) (mode : inner.activeMode = .idle)
    (profile : inner.activeProfile = none) : Consistent inner where
  mode := iff_of_true engine mode
  profile := iff_of_true mode profile
  manual := fun _ inMode => by simp [mode] at inMode
  auto := fun _ _ _ inMode => by simp [mode] at inMode

/-- A committed start, in either mode. -/
theorem consistent_of_committed {engine : EngineId} (active : inner.activeEngine = some engine)
    (profile : inner.activeProfile ≠ none)
    (mode : inner.activeMode = .manual engine ∨ ∃ preferred fallbackReason,
      inner.activeMode = .auto preferred fallbackReason ∧
        (fallbackReason = none ↔ engine = preferred)) : Consistent inner := by
  rcases mode with mode | ⟨preferred, reason, mode, choice⟩
  · constructor <;> simp [active, mode, profile]
  · constructor
    · simp [active, mode]
    · simp [mode, profile]
    · simp [mode]
    · intro preferred' reason' engine' inMode active'
      obtain ⟨rfl, rfl⟩ : preferred = preferred' ∧ reason = reason' := by
        simpa [mode] using inMode
      obtain rfl : engine = engine' := by simpa [active] using active'
      exact choice

/-- A start keeps the fields consistent exactly when it keeps the status. -/
theorem StartOutcome.consistent_iff {engine : EngineId} {op : ManagerOp}
    {result : Except EngineManagerError Unit} (consistent : Consistent w.inner)
    (began : w'.began = w.inner) (manual : ∀ profileId, op ≠ .startAuto profileId)
    (starts : op ≠ .stopEngine)
    (outcome : StartOutcome rely engine (.manual engine) w.accept result w') :
    Consistent w'.inner ↔ KeepsStatus op w' := by
  cases outcome with
  | refused drift =>
      have same := sameStatus_of_drift drift
      exact iff_of_true (consistent.of_sameStatus ⟨same.engine, same.mode, same.profile⟩)
        (.inr (.inr (.inr ⟨rfl, manual⟩)))
  | failed refused healthy same =>
      have keeps : KeepsStatus op w' ↔ w.inner.activeEngine = none := by
        simp [KeepsStatus, began, starts, refused, healthy, World.accept]
      rw [keeps]
      constructor
      · intro now
        exact consistent.mode.mpr (same.mode.symm.trans (now.mode.mp same.engine))
      · intro none
        exact consistent.of_sameStatus ⟨same.engine.trans none.symm, same.mode, same.profile⟩
  | committed refused healthy active inMode profile =>
      exact iff_of_true (consistent_of_committed active profile (.inl inMode))
        (.inr (.inr (.inl healthy)))

theorem AutoOutcome.consistent_iff {result : Except EngineManagerError Unit} {profileId : String}
    (consistent : Consistent w.inner) (began : w'.began = w.inner)
    (outcome : AutoOutcome w.accept result w') :
    Consistent w'.inner ↔ KeepsStatus (.startAuto profileId) w' := by
  cases outcome with
  | committed healthy active inMode choice profile =>
      exact iff_of_true (consistent_of_committed active profile (.inr ⟨_, _, inMode, choice⟩))
        (.inr (.inr (.inl healthy)))
  | failed healthy engine inMode profile =>
      have keeps : KeepsStatus (.startAuto profileId) w' ↔ w.inner.activeEngine = none := by
        simp [KeepsStatus, began, healthy, World.accept]
      rw [keeps]
      constructor
      · intro now
        have noProfile := profile.symm.trans (now.profile.mp inMode)
        exact consistent.mode.mpr (consistent.profile.mpr noProfile)
      · intro none
        exact consistent_of_stopped (engine.elim id fun same => same.trans none) inMode
          (profile.trans (consistent.profile.mp (consistent.mode.mp none)))

/-- One operation, from a settled manager with consistent fields. -/
theorem always_program_consistent (settled : Settled (fun _ _ => True) w)
    (consistent : Consistent w.inner) (op : ManagerOp) :
    op.program.Always (managerMachine (fun _ _ _ => True) rely)
      (fun w _ => Guarded (fun _ => True) (fun _ _ => True) w)
      (fun _ w' => Settled (fun _ _ => True) w' ∧ (Consistent w'.inner ↔ KeepsStatus op w'))
      w.accept := by
  have settled := settled.accept
  cases op with
  | startEngine engine profileId =>
      exact (always_startEngineInternal (dnsTracking_trivial _) settled engine profileId _).imp
        fun _ _ ⟨settled, began, outcome⟩ =>
          ⟨settled, outcome.consistent_iff consistent began (by simp) (by simp)⟩
  | startAuto profileId =>
      exact (always_startAuto (dnsTracking_trivial _) settled profileId).imp
        fun _ _ ⟨settled, began, outcome⟩ => ⟨settled, outcome.consistent_iff consistent began⟩
  | switchEngine engine profileId =>
      exact (always_startEngineInternal (dnsTracking_trivial _) settled engine profileId _).imp
        fun _ _ ⟨settled, began, outcome⟩ =>
          ⟨settled, outcome.consistent_iff consistent began (by simp) (by simp)⟩
  | stopEngine =>
      exact (always_stopEngine (dnsTracking_trivial _) settled).imp
        fun _ _ ⟨settled, _, _, stopped⟩ =>
          ⟨settled, iff_of_true (consistent_of_stopped stopped.engine stopped.mode stopped.profile)
            (.inr (.inl rfl))⟩

theorem status_invariant :
    (statusRuns rely).Invariant (fun w => Settled (fun _ _ => True) w ∧ Consistent w.inner)
      (Guarded (fun _ => True) fun _ _ => True)
      fun w => Settled (fun _ _ => True) w ∧ Consistent w.inner := by
  have stays (w w' : World) (drift : World.Drift rely w w')
      (idle : Settled (fun _ _ => True) w ∧ Consistent w.inner) :
      Settled (fun _ _ => True) w' ∧ Consistent w'.inner :=
    ⟨idle.1.drift drift, idle.2.of_sameStatus (sameStatus_of_drift drift)⟩
  refine manager_invariant (dnsTracking_trivial _) (fun _ idle => idle.1) stays ?_ ?_
    (fun _ idle => idle) stays fun _ _ _ crashed => crashed.elim
  · rintro op w _ ⟨workers, provider, -, -, rfl⟩ keeps
    exact keeps
  · intro w op idle
    exact (always_program_consistent idle.1 idle.2 op).imp
      fun _ _ ⟨settled, exactly⟩ => ⟨settled, fun keeps => ⟨settled, exactly.mpr keeps⟩⟩

theorem Fresh.consistent (fresh : Fresh w) : Consistent w.inner := by
  obtain ⟨goodbye, byedpi, new⟩ := fresh.inner
  rw [new]
  exact consistent_of_stopped rfl rfl rfl

end Status

/-- In runs of operations that keep the status the fields never contradict each
other, nor does the report; and from each state of such a run an operation leaves
them consistent exactly when it keeps the status. -/
theorem status_consistent_iff {rely : Rely} {w w' : World} (fresh : Fresh w)
    (run : (statusRuns rely).Reaches ⟨w, .idle⟩ ⟨w', .idle⟩) :
    Consistent w'.inner ∧
    (∀ readings, (w'.inner.getStatus readings).activeEngine = none →
      (w'.inner.getStatus readings).mode = "Kapalı" ∧
        (w'.inner.getStatus readings).activeProfile = none) ∧
    ∀ op result w'', op.program.Ends (managerMachine (fun _ _ _ => True) rely) w'.accept result
      w'' → (Consistent w''.inner ↔ KeepsStatus op w'') := by
  obtain ⟨settled, consistent⟩ := status_invariant.idle (s := ⟨w, .idle⟩)
    ⟨fresh.settled trivial, fresh.consistent⟩ run
  refine ⟨consistent, fun readings none => ?_, fun op result w'' ends =>
    ((always_program_consistent settled consistent op).ends ends).2⟩
  have idle := consistent.mode.mp (Option.map_eq_none_iff.mp none)
  refine ⟨?_, consistent.profile.mp idle⟩
  show (modeReport w'.inner.activeMode).1 = "Kapalı"
  rw [idle, modeReport]

theorem status_consistent_iff_started :
    Fresh freshWorld ∧ KeepsStatus (.startEngine .goodbyeDpi "superonline-default") startedWorld ∧
      Consistent startedWorld.inner := by
  have keeps : KeepsStatus (.startEngine .goodbyeDpi "superonline-default") startedWorld :=
    .inr (.inr (.inl startedWorld_started.healthy))
  have run : (statusRuns .crashes).Reaches ⟨freshWorld, .idle⟩ ⟨startedWorld, .idle⟩ :=
    startedWorld_served (fun _ _ => trivial) keeps
  exact ⟨freshWorld_fresh, keeps, (status_consistent_iff freshWorld_fresh run).1⟩

theorem failed_switch_contradicts_status :
    ¬ ∀ w w', Fresh w →
      (managerRuns (fun _ _ _ => True) .crashes).Reaches ⟨w, .idle⟩ ⟨w', .idle⟩ →
        Consistent w'.inner := by
  intro law
  have run : (managerRuns (fun _ _ _ => True) .crashes).Reaches ⟨startedWorld, .idle⟩
      ⟨failedSwitch.2, .idle⟩ := by
    rw [failedSwitch]
    exact Environment.reaches_serve (fun _ _ => trivial) _ trivial
  have consistent := law _ _ freshWorld_fresh (startedWorld_reaches.trans run)
  obtain ⟨-, none, manual, -⟩ := failedSwitch_leaves
  have idle := consistent.mode.mp none
  simp [manual] at idle

end ZonDpi.Manager
