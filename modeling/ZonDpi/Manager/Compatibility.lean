import ZonDpi.Manager.Status

/-!
How a start follows the security environment.

Beside Kaspersky three things go together: the profile is forced to
`turkey-default`, the packet redirection of DNS is suppressed, and the adapter's
own DNS is overridden. `start_engine_internal` asks the detector for the last two
and `resolve_effective_profile` asks it again for the first, so the three go
together exactly when the two answers agree (`kaspersky_measures_iff`).

The automatic mode tries GoodbyeDPI and then ByeDPI, with one profile identifier
for both. What lies outside may change between the attempts: an `Attempts` gives
each its own environment. ByeDPI's adapter refuses a profile that is not its own,
so the fallback succeeds exactly for profiles that ByeDPI accepts
(`auto_falls_back_iff`).
-/

namespace ZonDpi.Manager

open Effects ZonDpi.Dns ZonDpi.Engine ZonDpi.Supervisor

/-! ### A commit of GoodbyeDPI -/

/-- The worker at this place runs the profile's command line, written with the
packet redirection of DNS suppressed or not. -/
def Environment.RunsGoodbye (env : Environment) (profile : ProfileDefinition)
    (suppressDnsRedirect : Bool) (supervisor : Nat) (e : EngineWorld) : Prop :=
  ∃ binary config, env.binary .goodbyeDpi = .ok binary ∧
    GoodbyeConfig.fromProfile profile = .ok config ∧
    e.workers[supervisor]? =
      some ⟨goodbyeSupervisorConfig binary config suppressDnsRedirect, .alive⟩

section Commit

variable {env : Environment} {find : Finder} {w w' : World} {e e' : EngineWorld}
  {inner inner' : ManagerInner} {profile : ProfileDefinition} {suppress : Bool}

theorem run_spawnWith (config : SupervisorConfig) (e : EngineWorld) :
    (spawnWith config).run env.engineHandler e = ((env.spawned, e.workers.length),
      EngineWorld.effect { e with workers := e.workers ++ [⟨config, .idle⟩] }
        (.spawn e.workers.length) env.spawned) := rfl

/-- A worker that has been spawned runs with the configuration it was given. -/
theorem getElem?_spawned (config : SupervisorConfig) (workers : List Worker) :
    (setState (workers ++ [⟨config, .idle⟩]) workers.length .alive)[workers.length]? =
      some ⟨config, .alive⟩ := by
  simp [setState]

theorem run_goodbyeStart_ok {adapter adapter' : GoodbyeDpiAdapter}
    (started : (adapter.start profile suppress).run env.engineHandler e =
      ((.ok (), adapter'), e')) :
    env.RunsGoodbye profile suppress adapter'.supervisor e' := by
  have asked : (resolveBinary .goodbyeDpi).run env.engineHandler e =
      (env.binary .goodbyeDpi, e) := rfl
  simp only [GoodbyeDpiAdapter.start, Prog.run_bind, asked] at started
  cases found : env.binary .goodbyeDpi with
  | error message => simp [found] at started
  | ok binary =>
      simp only [found, Prog.run_bind, Environment.run_dllAvailable] at started
      cases available : env.dllFound binary with
      | false => simp [available] at started
      | true =>
          cases read : GoodbyeConfig.fromProfile profile with
          | error refused => simp [available, read] at started
          | ok config =>
              simp only [available, read, if_true, Prog.run_bind, Prog.run_pure, run_spawnWith,
                Prod.mk.injEq] at started
              obtain ⟨⟨spawned, rfl⟩, rfl⟩ := started
              have spawned : env.spawned = .ok () := by
                cases result : env.spawned with
                | error refused => simp [result, Except.mapError] at spawned
                | ok done => rfl
              refine ⟨binary, config, found, read, ?_⟩
              rw [spawned]
              exact getElem?_spawned _ e.workers

theorem run_launchGoodbye_ok
    (launched : (launchGoodbye profile suppress inner).run (env.handler find) w =
      ((.ok (), inner'), w')) :
    (∃ supervisor, inner' = { inner with goodbyeAdapter := ⟨supervisor⟩ }) ∧
      env.RunsGoodbye profile suppress inner'.goodbyeAdapter.supervisor w'.engines := by
  simp only [launchGoodbye, Prog.run_bind, Environment.run_liftEngine] at launched
  rcases result : (inner.goodbyeAdapter.start profile suppress).run env.engineHandler w.engines with
    ⟨⟨refused | done, adapter⟩, e⟩
  · simp [result] at launched
  · have runs := run_goodbyeStart_ok result
    have checked : adapter.healthCheck.run env.engineHandler e =
        (goodbyeHealth env.goodbyeStatus.1 env.goodbyeStatus.2,
          e.checked (goodbyeHealth env.goodbyeStatus.1 env.goodbyeStatus.2)) := rfl
    simp only [result, Prog.run_bind, Environment.run_liftEngine, checked] at launched
    cases healthy : (goodbyeHealth env.goodbyeStatus.1 env.goodbyeStatus.2).isHealthy with
    | false => simp [healthy] at launched
    | true =>
        simp only [healthy, if_true, Prog.run_pure, Prod.mk.injEq, true_and] at launched
        obtain ⟨rfl, rfl⟩ := launched
        exact ⟨⟨adapter.supervisor, rfl⟩, runs⟩

theorem run_stopActive (down : inner.kasperskyDnsOverrideApplied = true →
      inner.activeEngine = some .goodbyeDpi) :
    ((stopActive inner).run (env.handler find) w).1 =
      { inner with kasperskyDnsOverrideApplied := false, activeEngine := none } := by
  cases applied : inner.kasperskyDnsOverrideApplied with
  | true => simp [stopActive, stopEngines, rollbackDns, down applied, applied]
  | false =>
      cases active : inner.activeEngine with
      | none =>
          have idle : stopActive inner = pure inner := by simp [stopActive, active]
          rw [idle, ← applied, ← active]
          rfl
      | some engine => simp [stopActive, stopEngines, rollbackDns, active, applied]

theorem run_overrideDns_ok {kaspersky : Bool} (down : inner.kasperskyDnsOverrideApplied = false)
    (overridden : (overrideDns .goodbyeDpi kaspersky inner).run (env.handler find) w =
      ((.ok (), inner'), w')) :
    inner' = { inner with
      kasperskyDnsOverrideApplied := kaspersky && inner.dnsProvider.shouldOverrideSystem } := by
  unfold overrideDns at overridden
  split at overridden
  · rename_i wanted
    simp only [Prog.run_bind, Environment.run_liftDns] at overridden
    cases result : ((applyDns inner.dnsProvider).run (env.dnsHandler find) w.dns).1 with
    | error refused => simp [result] at overridden
    | ok state =>
        simp only [result, Prog.run_pure, Prod.mk.injEq, true_and] at overridden
        rw [← overridden.1, wanted.2.1, wanted.2.2]
        rfl
  · rename_i unwanted
    simp only [Prog.run_pure, Prod.mk.injEq, true_and] at overridden
    have unwanted : (kaspersky && inner.dnsProvider.shouldOverrideSystem) = false := by
      simpa using unwanted
    rw [← overridden.1, unwanted, ← down]

/-- What a commit publishes: the worker runs with the suppression the first answer
of the detector asks for, and so is the override in force. -/
theorem run_startLocked_commits {kaspersky : Bool} {profileId : String} {mode : ActiveMode}
    (down : inner.kasperskyDnsOverrideApplied = true → inner.activeEngine = some .goodbyeDpi)
    (committed : (startLocked .goodbyeDpi kaspersky profileId profile mode inner).run
      (env.handler find) w = ((.ok (), inner'), w')) :
    inner'.activeEngine = some .goodbyeDpi ∧ inner'.activeProfile = some profileId ∧
      inner'.kasperskyDnsOverrideApplied =
        (kaspersky && inner.dnsProvider.shouldOverrideSystem) ∧
      env.RunsGoodbye profile kaspersky inner'.goodbyeAdapter.supervisor w'.engines := by
  simp only [startLocked, Prog.run_bind] at committed
  have stopped : ((stopActive { inner with requestedEngine := some .goodbyeDpi }).run
      (env.handler find) w).1 = { inner with
        requestedEngine := some .goodbyeDpi, kasperskyDnsOverrideApplied := false,
        activeEngine := none } := run_stopActive down
  rw [stopped] at committed
  generalize ((stopActive { inner with requestedEngine := some .goodbyeDpi }).run
    (env.handler find) w).2 = w1 at committed
  rcases second : (overrideDns .goodbyeDpi kaspersky { inner with
      requestedEngine := some .goodbyeDpi, kasperskyDnsOverrideApplied := false,
      activeEngine := none }).run (env.handler find) w1 with ⟨⟨refused | done, inner2⟩, w2⟩
  · simp [second] at committed
  · have overridden := run_overrideDns_ok rfl second
    simp only [second, launch, Prog.run_bind] at committed
    rcases third : (launchGoodbye profile kaspersky inner2).run (env.handler find) w2 with
      ⟨⟨refused | done, inner3⟩, w3⟩
    · simp [third] at committed
    · obtain ⟨⟨supervisor, same⟩, runs⟩ := run_launchGoodbye_ok third
      simp only [third, Prog.run_pure, Prod.mk.injEq, true_and] at committed
      obtain ⟨rfl, rfl⟩ := committed
      refine ⟨rfl, rfl, ?_, runs⟩
      show inner3.kasperskyDnsOverrideApplied = _
      rw [same, overridden]

end Commit

/-! ### The measures against Kaspersky -/

/-- What `resolve_effective_profile` sees. -/
def Environment.forcesProfile (env : Environment) : Bool :=
  (env.security .resolveEffectiveProfile).containsProduct "kaspersky"

/-- The redirection is suppressed with the forced profile and only then, and the
override goes with the suppression if the provider has one. -/
structure MeasuresTogether (suppressed forced overridden overrides : Bool) : Prop where
  redirection : suppressed = true ↔ forced = true
  override : overridden = true ↔ suppressed = true ∧ overrides = true

section Measures

variable {env : Environment} {find : Finder} {w w' : World} {profileId : String} {mode : ActiveMode}

theorem effectiveProfile_goodbyeDpi :
    env.effectiveProfile .goodbyeDpi profileId =
      if env.forcesProfile = true then "turkey-default" else profileId := by
  by_cases sees : (env.security .resolveEffectiveProfile).containsProduct "kaspersky" = true <;>
    simp [Environment.effectiveProfile, Environment.forcesProfile, sees]

/-- The suppression and the override follow the first answer of the detector, the
profile follows the second. -/
theorem run_startEngineInternal_commits
    (consistent : w.inner.kasperskyDnsOverrideApplied = true →
      w.inner.activeEngine = some .goodbyeDpi)
    (commits : (startEngineInternal .goodbyeDpi profileId mode).run (env.handler find) w =
      (.ok (), w')) :
    ∃ profile, env.profile (env.effectiveProfile .goodbyeDpi profileId) = .ok profile ∧
      env.RunsGoodbye profile env.kasperskyDetected w'.inner.goodbyeAdapter.supervisor
        w'.engines ∧
      w'.inner.activeEngine = some .goodbyeDpi ∧
      w'.inner.activeProfile =
        some (if env.forcesProfile = true then "turkey-default" else profileId) ∧
      (w'.inner.kasperskyDnsOverrideApplied = true ↔
        env.kasperskyDetected = true ∧ w.inner.dnsProvider.shouldOverrideSystem = true) := by
  rw [Environment.run_startEngineInternal] at commits
  cases loaded : env.profile (env.effectiveProfile .goodbyeDpi profileId) with
  | error e => simp [loaded] at commits
  | ok profile =>
      simp only [loaded, Environment.run_withInner, Prod.mk.injEq] at commits
      rcases outcome : (startLocked .goodbyeDpi env.kasperskyDetected
        (env.effectiveProfile .goodbyeDpi profileId) profile mode w.inner).run
          (env.handler find) { w with locked := true } with ⟨⟨result, inner⟩, w''⟩
      rw [outcome] at commits
      obtain ⟨rfl, rfl⟩ := commits
      obtain ⟨active, ofProfile, flag, runs⟩ := run_startLocked_commits consistent outcome
      refine ⟨profile, rfl, runs, active, ?_, ?_⟩
      · rw [← effectiveProfile_goodbyeDpi]
        exact ofProfile
      · rw [flag, Bool.and_eq_true]

/-- Whether a start with a profile succeeds. -/
theorem run_startEngineInternal_isOk {engine : EngineId} {profile : ProfileDefinition}
    (report : Except DnsManagerError AdapterDnsConfig)
    (loaded : env.profile (env.effectiveProfile engine profileId) = .ok profile) :
    ((startEngineInternal engine profileId mode).run (env.handler fun _ => report) w).1.toBool =
      ((!env.wantsOverride engine w.inner.dnsProvider || env.overrides report) &&
        env.launches profile engine) := by
  rw [Environment.run_startEngineInternal, loaded]
  simp only [Environment.run_withInner, Environment.run_startLocked_isOk]

end Measures

/-- When GoodbyeDPI is committed, from whatever state of a run, its worker has been
started with the suppression that the first answer of the detector asks for, and
the measures go together exactly when the second answer agrees with it. -/
theorem kaspersky_measures_iff {w0 : World}
    {s : Service.State MgrReq MgrResp World ManagerOp (Except EngineManagerError Unit)}
    (fresh : Fresh w0) (run : (managerRuns (fun _ _ _ => True) .crashes).Reaches ⟨w0, .idle⟩ s)
    (free : s.world.locked = false) (env : Environment) (find : Finder) (profileId : String)
    (mode : ActiveMode) {w' : World}
    (commits : (startEngineInternal .goodbyeDpi profileId mode).run (env.handler find) s.world =
      (.ok (), w')) :
    ∃ profile suppressed,
      env.profile (env.effectiveProfile .goodbyeDpi profileId) = .ok profile ∧
      env.RunsGoodbye profile suppressed w'.inner.goodbyeAdapter.supervisor w'.engines ∧
      suppressed = (env.security .startEngineInternal).containsProduct "kaspersky" ∧
      w'.inner.activeEngine = some .goodbyeDpi ∧
      w'.inner.activeProfile =
        some (if env.forcesProfile = true then "turkey-default" else profileId) ∧
      (MeasuresTogether suppressed env.forcesProfile w'.inner.kasperskyDnsOverrideApplied
          s.world.inner.dnsProvider.shouldOverrideSystem ↔
        ((env.security .startEngineInternal).containsProduct "kaspersky" = true ↔
          (env.security .resolveEffectiveProfile).containsProduct "kaspersky" = true)) := by
  have settled := (fresh.runs_guarded (dnsTracking_trivial _) trivial run).2 free
  obtain ⟨profile, loaded, runs, active, ofProfile, flag⟩ :=
    run_startEngineInternal_commits settled.flag commits
  refine ⟨profile, env.kasperskyDetected, loaded, runs, rfl, active, ofProfile, ?_⟩
  constructor
  · intro together
    exact together.redirection
  · intro agree
    exact ⟨agree, flag⟩

/-- The example computer, as a detector sees it that fails now and then: the second
probe finds nothing. -/
def flickeringPc : Environment :=
  { kasperskyPc with
    security := fun caller =>
      if caller = .resolveEffectiveProfile then ⟨[], .failed "Probe failed"⟩
      else ⟨[⟨"Kaspersky Premium", 266240, none, none⟩], .available⟩ }

/-- A start on a computer where everything works. -/
theorem exists_commit (env : Environment) (loaded : env.profile = fun _ => .ok turkeyDefault)
    (works : (env.overrides (.ok (cleanWorld.adapters 2)) &&
      env.launches turkeyDefault .goodbyeDpi) = true) (mode : ActiveMode) :
    ∃ w', (startEngineInternal .goodbyeDpi "superonline-default" mode).run
      (env.handler fun _ => .ok (cleanWorld.adapters 2)) freshWorld = (.ok (), w') := by
  let start := startEngineInternal .goodbyeDpi "superonline-default" mode
  have succeeds : (start.run (env.handler fun _ => .ok (cleanWorld.adapters 2))
      freshWorld).1.toBool =
        ((!env.wantsOverride .goodbyeDpi freshWorld.inner.dnsProvider ||
          env.overrides (.ok (cleanWorld.adapters 2))) && env.launches turkeyDefault .goodbyeDpi) :=
    run_startEngineInternal_isOk _ (congrFun loaded _)
  rw [Bool.and_eq_true] at works
  rw [works.1, works.2, Bool.or_true, Bool.and_true] at succeeds
  exact ⟨_, Prod.ext (Environment.isOk_iff.mp succeeds) rfl⟩

theorem kaspersky_measures_iff_kasperskyPc :
    ∃ w' profile suppressed,
      (startEngineInternal .goodbyeDpi "superonline-default" (.manual .goodbyeDpi)).run
        (kasperskyPc.handler fun _ => .ok (cleanWorld.adapters 2)) freshWorld = (.ok (), w') ∧
      kasperskyPc.RunsGoodbye profile suppressed w'.inner.goodbyeAdapter.supervisor w'.engines ∧
      MeasuresTogether suppressed kasperskyPc.forcesProfile w'.inner.kasperskyDnsOverrideApplied
        freshWorld.inner.dnsProvider.shouldOverrideSystem := by
  obtain ⟨w', commits⟩ := exists_commit kasperskyPc rfl (by decide +kernel) (.manual .goodbyeDpi)
  obtain ⟨profile, suppressed, -, runs, -, -, -, together⟩ := kaspersky_measures_iff
    freshWorld_fresh .refl rfl kasperskyPc (fun _ => .ok (cleanWorld.adapters 2)) _ _ commits
  exact ⟨w', profile, suppressed, commits, runs, together.mpr Iff.rfl⟩

/-- The command line of this profile tells whether the redirection is suppressed. -/
theorem runsGoodbye_turkeyDefault {env : Environment} {supervisor : Nat} {e : EngineWorld}
    {suppressed : Bool} (runs : env.RunsGoodbye turkeyDefault true supervisor e)
    (runs' : env.RunsGoodbye turkeyDefault suppressed supervisor e) : suppressed = true := by
  obtain ⟨binary, config, found, read, worker⟩ := runs
  obtain ⟨binary', config', found', read', worker'⟩ := runs'
  obtain rfl : config = config' := Except.ok.inj (read.symm.trans read')
  have started : goodbyeSupervisorConfig binary config true =
      goodbyeSupervisorConfig binary' config suppressed :=
    (Worker.mk.inj (Option.some.inj (worker.symm.trans worker'))).1
  have same := congrArg SupervisorConfig.arguments started
  simp only [goodbyeSupervisorConfig, SupervisorConfig.new, Bool.not_true] at same
  have differ : (GoodbyeConfig.fromProfile turkeyDefault).toOption.map (fun config =>
      decide (config.toCommandArgsFiltered false = config.toCommandArgsFiltered true)) =
        some false := by
    decide +kernel
  rw [read] at differ
  cases suppressed with
  | true => rfl
  | false => simp [Except.toOption, same] at differ

theorem kaspersky_measures_fall_apart :
    ¬ ∀ (w0 w' : World) (env : Environment) (find : Finder) (profileId : String)
        (mode : ActiveMode)
        (s : Service.State MgrReq MgrResp World ManagerOp (Except EngineManagerError Unit)),
      Fresh w0 → (managerRuns (fun _ _ _ => True) .crashes).Reaches ⟨w0, .idle⟩ s →
      s.world.locked = false →
      (startEngineInternal .goodbyeDpi profileId mode).run (env.handler find) s.world =
        (.ok (), w') →
      ∃ profile suppressed,
        env.profile (env.effectiveProfile .goodbyeDpi profileId) = .ok profile ∧
        env.RunsGoodbye profile suppressed w'.inner.goodbyeAdapter.supervisor w'.engines ∧
        MeasuresTogether suppressed env.forcesProfile w'.inner.kasperskyDnsOverrideApplied
          s.world.inner.dnsProvider.shouldOverrideSystem := by
  intro law
  obtain ⟨w', commits⟩ := exists_commit flickeringPc rfl (by decide +kernel) (.manual .goodbyeDpi)
  obtain ⟨profile, suppressed, loaded, runs', together⟩ := law freshWorld w' flickeringPc
    (fun _ => .ok (cleanWorld.adapters 2)) _ _ _ freshWorld_fresh .refl rfl commits
  obtain rfl : turkeyDefault = profile := Except.ok.inj loaded
  obtain ⟨profile, loaded, runs, -⟩ := run_startEngineInternal_commits
    (freshWorld_fresh.settled (T := fun _ _ => True) trivial).flag commits
  obtain rfl : turkeyDefault = profile := Except.ok.inj loaded
  have sees : flickeringPc.kasperskyDetected = true ∧ flickeringPc.forcesProfile = false := by
    decide
  rw [sees.1] at runs
  have forced := together.redirection.mp (runsGoodbye_turkeyDefault runs runs')
  simp [sees.2] at forced

/-! ### The attempts of the automatic mode -/

/-- What lies outside, for each start that is attempted; number 0 is asked for the
recommendation. -/
abbrev Attempts : Type := Nat → Environment

/-- A start begins with its question to the detector. -/
def MgrReq.BeginsStart : MgrReq → Prop
  | .detect .startEngineInternal => True
  | _ => False

def attemptAfter (n : Nat) : MgrReq → Nat
  | .detect .startEngineInternal => n + 1
  | _ => n

namespace Attempts

def handler (attempts : Attempts) (find : Finder) :
    Prog.Handler MgrReq MgrResp (World × Nat) where
  answer := fun s r => (attempts (attemptAfter s.2 r)).answer find s.1 r
  effect := fun s r x => (s.1.effect r x, attemptAfter s.2 r)

def serveAuto (attempts : Attempts) (find : Finder) (w : World) (profileId : String) :
    Except EngineManagerError Unit × World :=
  let (result, w', _) := (startAuto profileId).run (attempts.handler find) (w.accept, 0)
  (result, w')

end Attempts

/-- No start begins in the program. -/
abbrev WithinStart {α : Type} (p : MgrProg α) : Prop := p.Only fun r => ¬ r.BeginsStart

section WithinStart

variable {α : Type} {inner : ManagerInner} {profile : ProfileDefinition}

theorem withinStart_liftDns (p : DnsProg α) : WithinStart (liftDns p) :=
  Prog.only_embed (fun _ => id) p

theorem withinStart_liftEngine (p : EngineProg α) : WithinStart (liftEngine p) :=
  Prog.only_embed (fun _ => id) p

theorem withinStart_rollbackDns : WithinStart (rollbackDns inner) := by
  unfold rollbackDns
  split
  · exact (withinStart_liftDns _).bind fun _ => Prog.only_pure _
  · exact Prog.only_pure _

theorem withinStart_stopActive : WithinStart (stopActive inner) := by
  unfold stopActive stopEngines
  split
  · refine Prog.Only.bind ?_ fun _ => Prog.only_pure _
    refine (withinStart_liftEngine _).bind fun _ => ?_
    exact (withinStart_liftEngine _).bind fun _ => withinStart_rollbackDns
  · exact Prog.only_pure _

theorem withinStart_overrideDns (engine : EngineId) (kaspersky : Bool) :
    WithinStart (overrideDns engine kaspersky inner) := by
  unfold overrideDns
  split
  · refine (withinStart_liftDns _).bind fun result => ?_
    cases result <;> exact Prog.only_pure _
  · exact Prog.only_pure _

theorem withinStart_launch (engine : EngineId) (suppress : Bool) :
    WithinStart (launch engine profile suppress inner) := by
  cases engine with
  | goodbyeDpi =>
      refine (withinStart_liftEngine _).bind fun outcome => ?_
      rcases outcome with ⟨_ | _, adapter⟩
      · exact withinStart_rollbackDns.bind fun _ => Prog.only_pure _
      · refine (withinStart_liftEngine _).bind fun health => ?_
        cases health.isHealthy with
        | true => exact Prog.only_pure _
        | false =>
            refine (withinStart_liftEngine _).bind fun _ => ?_
            exact withinStart_rollbackDns.bind fun _ => Prog.only_pure _
  | byeDpi =>
      refine (withinStart_liftEngine _).bind fun outcome => ?_
      rcases outcome with ⟨_ | _, adapter⟩
      · exact Prog.only_pure _
      · refine (withinStart_liftEngine _).bind fun health => ?_
        cases health.isHealthy with
        | true => exact Prog.only_pure _
        | false => exact (withinStart_liftEngine _).bind fun _ => Prog.only_pure _
  | native => exact Prog.only_pure _

theorem withinStart_startLocked (engine : EngineId) (kaspersky : Bool) (profileId : String)
    (mode : ActiveMode) :
    WithinStart (startLocked engine kaspersky profileId profile mode inner) := by
  refine withinStart_stopActive.bind fun stopped => ?_
  refine (withinStart_overrideDns engine kaspersky).bind fun outcome => ?_
  rcases outcome with ⟨_ | _, overridden⟩
  · exact Prog.only_pure _
  · refine (withinStart_launch engine kaspersky).bind fun outcome => ?_
    rcases outcome with ⟨_ | _, launched⟩ <;> exact Prog.only_pure _

theorem withinStart_withInner {body : ManagerInner → MgrProg (α × ManagerInner)}
    (within : ∀ inner, WithinStart (body inner)) : WithinStart (withInner body) := by
  refine Prog.Only.bind (Prog.only_ask.mpr id) fun inner => ?_
  refine (within inner).bind fun outcome => ?_
  exact Prog.Only.bind (Prog.only_ask.mpr id) fun _ => Prog.only_pure _

end WithinStart

namespace Attempts

variable {attempts : Attempts} {find : Finder} {w : World} {n : Nat} {profileId : String}

theorem attemptAfter_of_not {r : MgrReq} (within : ¬ r.BeginsStart) : attemptAfter n r = n := by
  unfold attemptAfter
  split
  · exact absurd trivial within
  · rfl

/-- Between two starts the environment is one. -/
theorem run_withinStart {α : Type} {p : MgrProg α} (within : WithinStart p) :
    p.run (attempts.handler find) (w, n) =
      ((p.run ((attempts n).handler find) w).1, (p.run ((attempts n).handler find) w).2, n) := by
  have both : (p.run (attempts.handler find) (w, n)).1 = (p.run ((attempts n).handler find) w).1 ∧
      (p.run (attempts.handler find) (w, n)).2 = ((p.run ((attempts n).handler find) w).2, n) := by
    refine Prog.run_related (fun v s => s = (v, n)) ?_ ?_ within rfl
    · rintro v _ r rfl quiet
      simp only [handler, attemptAfter_of_not quiet]
      rfl
    · rintro v _ r x rfl quiet
      simp only [handler, attemptAfter_of_not quiet]
      rfl
  exact Prod.ext both.1 both.2

theorem run_startEngineInternal (engine : EngineId) (mode : ActiveMode) :
    (startEngineInternal engine profileId mode).run (attempts.handler find) (w, n) =
      (((startEngineInternal engine profileId mode).run ((attempts (n + 1)).handler find) w).1,
        ((startEngineInternal engine profileId mode).run ((attempts (n + 1)).handler find) w).2,
        n + 1) := by
  -- after the question both runs are in the environment of this attempt
  let afterDetect : MgrProg (Except EngineManagerError Unit) := do
    let effectiveProfileId ← resolveEffectiveProfile engine profileId
    (loadProfile effectiveProfileId).andThen fun profile =>
      withInner (startLocked engine (attempts (n + 1)).kasperskyDetected effectiveProfileId
        profile mode)
  have within : WithinStart afterDetect := by
    refine Prog.Only.bind ?_ fun effective =>
      Prog.Only.bind (Prog.only_ask.mpr id) fun loaded => ?_
    · refine Prog.Only.bind (Prog.only_ask.mpr id) fun secEnv => ?_
      split <;> exact Prog.only_pure _
    · cases loaded with
      | error e => exact Prog.only_pure _
      | ok profile => exact withinStart_withInner fun _ => withinStart_startLocked ..
  exact run_withinStart within

/-- When GoodbyeDPI fails, the second attempt decides. -/
theorem serveAuto_isOk_iff {e : EngineManagerError}
    (failed : ((startEngineInternal .goodbyeDpi profileId (.auto .goodbyeDpi none)).run
      ((attempts 1).handler find) w.accept).1 = .error e) :
    ∃ w1 reason,
      let second := (startEngineInternal .byeDpi profileId (.auto .goodbyeDpi (some reason))).run
        ((attempts 2).handler find) w1
      ((attempts.serveAuto find w profileId).1 = .ok () ↔ second.1 = .ok ()) ∧
        (second.1 = .ok () → (attempts.serveAuto find w profileId).2 = second.2) := by
  have recommended : evaluateRecommendation.run (attempts.handler find) (w.accept, 0) =
      (evaluate ((attempts 0).security .evaluateRecommendation) .goodbyeDpi .byeDpi
        (.healthy 5 "Ready") (.healthy 5 "Ready"), w.accept, 0) := rfl
  refine ⟨((startEngineInternal .goodbyeDpi profileId (.auto .goodbyeDpi none)).run
    ((attempts 1).handler find) w.accept).2,
    s!"{EngineId.goodbyeDpi.display} startup/health check failed: {e.display}", ?_⟩
  unfold serveAuto startAuto
  simp only [Prog.run_bind, recommended, evaluate, HealthCheckResult.healthy_isHealthy, if_true,
    EngineCapabilities.goodbyeDpi, EngineCapabilities.byeDpi, Option.getD_some,
    run_startEngineInternal, failed]
  rcases (startEngineInternal .byeDpi profileId (.auto .goodbyeDpi
    (some s!"{EngineId.goodbyeDpi.display} startup/health check failed: {e.display}"))).run
      ((attempts 2).handler find) ((startEngineInternal .goodbyeDpi profileId
        (.auto .goodbyeDpi none)).run ((attempts 1).handler find) w.accept).2 with
    ⟨e' | done, w2⟩
  · refine ⟨iff_of_false ?_ ?_, ?_⟩ <;> intro ended <;> cases ended
  · exact ⟨Iff.rfl, fun _ => rfl⟩

end Attempts

/-! ### Falling back -/

/-- The reasons for which an engine itself does not start. -/
def EngineManagerError.isEngineReason : EngineManagerError → Bool
  | .goodbye (.binaryNotFound _) | .goodbye (.driverDependencyMissing _)
  | .goodbye (.supervisor _) | .byeDpi (.binaryNotFound _) | .byeDpi (.supervisor _)
  | .healthCheckFailed _ => true
  | _ => false

/-- ByeDPI's worker is there, its port is free, and it would spawn and pass its
health check. -/
structure Environment.FallbackReady (env : Environment) (profile : ProfileDefinition) : Prop where
  binary : ∃ binary, env.binary .byeDpi = .ok binary
  port : ∀ config, ByeDpiConfig.fromProfile profile = .ok config →
    env.portFree config.listenIp config.port = true
  spawns : env.spawned = .ok ()
  running : env.byedpiStatus.1.state = .running
  answers : env.byedpiStatus.2.accepted = true

/-- The fallback is committed and the reason recorded. -/
structure FellBack (outcome : Except EngineManagerError Unit × World) : Prop where
  result : outcome.1 = .ok ()
  engine : outcome.2.inner.activeEngine = some .byeDpi
  reason : ∃ reason, outcome.2.inner.activeMode = .auto .goodbyeDpi (some reason)

section FallBack

variable {env : Environment} {find : Finder} {w : World} {profile : ProfileDefinition}

theorem Environment.FallbackReady.launches (ready : env.FallbackReady profile) :
    env.launches profile .byeDpi = (ByeDpiConfig.fromProfile profile).toBool := by
  obtain ⟨binary, found⟩ := ready.binary
  have healthy : (decide (env.byedpiStatus.1.state = .running) && env.byedpiStatus.2.accepted) =
      true := by
    rw [ready.running, ready.answers]
    rfl
  simp only [Environment.launches, Environment.byedpiStarts, healthy, Bool.and_true, found,
    ready.spawns]
  cases read : ByeDpiConfig.fromProfile profile with
  | error e => rfl
  | ok config => simp [ready.port config read, Except.toBool]

/-- What a start publishes when it succeeds. -/
theorem run_startLocked_ok {engine : EngineId} {kaspersky : Bool} {profileId : String}
    {mode : ActiveMode} {inner : ManagerInner}
    (succeeded : ((startLocked engine kaspersky profileId profile mode inner).run
      (env.handler find) w).1.1 = .ok ()) :
    ∃ launched, ((startLocked engine kaspersky profileId profile mode inner).run
      (env.handler find) w).1.2 = commit engine profileId mode launched := by
  simp only [startLocked, Prog.run_bind] at succeeded ⊢
  generalize (stopActive { inner with requestedEngine := some engine }).run
    (env.handler find) w = stopped at succeeded ⊢
  rcases second : (overrideDns engine kaspersky stopped.1).run (env.handler find) stopped.2 with
    ⟨⟨refused | done, overridden⟩, w2⟩
  · simp [second] at succeeded
  · simp only [second, Prog.run_bind] at succeeded ⊢
    rcases third : (launch engine profile kaspersky overridden).run (env.handler find) w2 with
      ⟨⟨refused | done, launched⟩, w3⟩
    · simp [third] at succeeded
    · exact ⟨launched, rfl⟩

end FallBack

/-- When GoodbyeDPI fails, for whatever reason, and ByeDPI is ready, the automatic
mode falls back exactly for the profiles that ByeDPI's adapter accepts. -/
theorem auto_falls_back_iff (attempts : Attempts) (find : Finder) (w : World) (profileId : String)
    {profile : ProfileDefinition} {e : EngineManagerError}
    (loaded : (attempts 2).profile profileId = .ok profile)
    (failed : ((startEngineInternal .goodbyeDpi profileId (.auto .goodbyeDpi none)).run
      ((attempts 1).handler find) w.accept).1 = .error e)
    (ready : (attempts 2).FallbackReady profile) :
    FellBack (attempts.serveAuto find w profileId) ↔
      ∃ config, ByeDpiConfig.fromProfile profile = .ok config := by
  obtain ⟨w1, reason, succeeds, published⟩ := Attempts.serveAuto_isOk_iff failed
  have requested : (attempts 2).effectiveProfile .byeDpi profileId = profileId := by
    simp [Environment.effectiveProfile]
  have second : (startEngineInternal .byeDpi profileId (.auto .goodbyeDpi (some reason))).run
      ((attempts 2).handler find) w1 = (withInner (startLocked .byeDpi
        (attempts 2).kasperskyDetected profileId profile (.auto .goodbyeDpi (some reason)))).run
          ((attempts 2).handler find) w1 := by
    rw [Environment.run_startEngineInternal, requested, loaded]
  rw [second, Environment.run_withInner] at succeeds published
  have accepted : FellBack (attempts.serveAuto find w profileId) ↔
      (ByeDpiConfig.fromProfile profile).toBool = true := by
    have launched : ((startLocked .byeDpi (attempts 2).kasperskyDetected profileId profile
        (.auto .goodbyeDpi (some reason)) w1.inner).run ((attempts 2).handler find)
          { w1 with locked := true }).1.1.toBool = (attempts 2).launches profile .byeDpi :=
      Environment.run_startLocked_byeDpi_isOk ..
    rw [← ready.launches, ← launched, Environment.isOk_iff]
    constructor
    · intro fell
      exact succeeds.mp fell.result
    · intro succeeded
      obtain ⟨launched, same⟩ := run_startLocked_ok succeeded
      have inner := congrArg World.inner (published succeeded)
      rw [same] at inner
      exact ⟨succeeds.mpr succeeded, by rw [inner]; rfl, reason, by rw [inner]; rfl⟩
  rw [accepted]
  cases ByeDpiConfig.fromProfile profile with
  | error refused => simp [Except.toBool]
  | ok config => simp [Except.toBool]

/-- The shipped profile of that name. -/
def byedpiKasperskyMode : ProfileDefinition where
  id := "byedpi-kaspersky-mode"
  name := "Kaspersky Uyumluluk Modu (ByeDPI SOCKS5)"
  description := "Sürücüsüz, yerel SOCKS5 proxy tabanlı DPI aşımı. Kaspersky veya diğer antivirüs " ++
    "yazılımları aktifken tam uyumlu çalışır."
  targetEngine := "ByeDPI"
  arguments := ["--split", "1+s", "--disorder", "3+s", "--auto=torst"]

/-- A computer on which everything works but GoodbyeDPI's binary is missing. -/
def goodbyelessPc : Environment :=
  { kasperskyPc with
    security := fun _ => ⟨[], .available⟩
    profile := fun id =>
      .ok (if id = "byedpi-kaspersky-mode" then byedpiKasperskyMode else turkeyDefault)
    binary := fun engine =>
      if engine = .goodbyeDpi then .error "goodbyedpi.exe not found"
      else .ok ⟨"ciadpi.exe", none⟩ }

theorem goodbyelessPc_ready (profile : ProfileDefinition) :
    goodbyelessPc.FallbackReady profile :=
  ⟨⟨⟨"ciadpi.exe", none⟩, rfl⟩, fun _ _ => rfl, rfl, rfl, rfl⟩

theorem goodbyelessPc_fails (profileId : String) :
    ((startEngineInternal .goodbyeDpi profileId (.auto .goodbyeDpi none)).run
      (goodbyelessPc.handler findEthernet) freshWorld.accept).1 =
        .error (.goodbye (.binaryNotFound "goodbyedpi.exe not found")) := rfl

theorem auto_falls_back_iff_byedpiKasperskyMode :
    FellBack (Attempts.serveAuto (fun _ => goodbyelessPc) findEthernet freshWorld
      "byedpi-kaspersky-mode") := by
  have accepted : ∃ config, ByeDpiConfig.fromProfile byedpiKasperskyMode = .ok config :=
    ⟨_, rfl⟩
  exact (auto_falls_back_iff (fun _ => goodbyelessPc) findEthernet freshWorld _ rfl
    (goodbyelessPc_fails _) (goodbyelessPc_ready _)).mpr accepted

theorem auto_does_not_fall_back :
    ¬ ∀ (attempts : Attempts) (find : Finder) (w : World) (profileId : String)
        (profile : ProfileDefinition) (e : EngineManagerError), Fresh w →
      (∀ n, (attempts n).profile profileId = .ok profile) →
      ((startEngineInternal .goodbyeDpi profileId (.auto .goodbyeDpi none)).run
        ((attempts 1).handler find) w.accept).1 = .error e → e.isEngineReason = true →
      (attempts 2).FallbackReady profile →
        FellBack (attempts.serveAuto find w profileId) := by
  intro law
  have fell := law (fun _ => goodbyelessPc) findEthernet freshWorld "turkey-default" turkeyDefault _
    freshWorld_fresh (fun _ => rfl) (goodbyelessPc_fails _) rfl (goodbyelessPc_ready _)
  have failed : (Attempts.serveAuto (fun _ => goodbyelessPc) findEthernet freshWorld
      "turkey-default").1.toBool = false := by
    decide +kernel
  rw [fell.result] at failed
  cases failed

end ZonDpi.Manager
