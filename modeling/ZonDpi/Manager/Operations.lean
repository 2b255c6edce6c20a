import ZonDpi.Manager.Start

/-!
What the manager's operations do from taking the lock to dropping it, and how
they can end.

A start has one of three outcomes (`StartOutcome`): the profile could not be
loaded and nothing else has happened, the engine could not be started and none is
active, or it is committed. `start_auto` is made of two such attempts. Invariants
of runs are read off these.
-/

namespace ZonDpi.Manager

open Effects ZonDpi.Dns ZonDpi.Engine ZonDpi.Supervisor

section Specs

variable {assume : DnsWorld → (r : DnsReq) → DnsResp r → Prop} {rely : Rely}
  {B : DnsWorld → Prop} {T : Bool → DnsWorld → Prop} {base w : World} {healthy : Bool}

/-! ### The lock -/

theorem sameStatus_of_drift {w' : World} (drift : World.Drift rely w w') :
    SameStatus w.inner w'.inner := by
  obtain ⟨workers, provider, -, -, rfl⟩ := drift
  exact ⟨rfl, rfl, rfl⟩

theorem always_lockInner (tracking : DnsTracking assume B T) (settled : Settled T w) :
    lockInner.Always (managerMachine assume rely) (fun w _ => Guarded B T w)
      (fun inner w' => ∃ w1, World.Drift rely w w1 ∧ inner = w1.inner ∧
        w' = { w1 with locked := true }) w :=
  (always_mgrCall .lockInner).mpr
    ⟨settled.guarded tracking, fun w1 drift _ current => ⟨w1, drift, current, rfl⟩⟩

theorem always_publish (tracking : DnsTracking assume B T) {inner : ManagerInner}
    (held : Held T base inner.kasperskyDnsOverrideApplied inner.Owns healthy w)
    (flag : inner.kasperskyDnsOverrideApplied = true → inner.activeEngine = some .goodbyeDpi) :
    (publish inner).Always (managerMachine assume rely) (fun w _ => Guarded B T w)
      (fun _ w' => Settled T w' ∧ w'.began = base.began ∧
        w'.profileRefused = base.profileRefused ∧ w'.inner = inner ∧
        w'.engines.healthy = healthy) w := by
  refine (always_mgrCall (.publish inner)).mpr ⟨?_, fun w' drift _ _ => ?_⟩
  · exact guarded_of_locked held.w_locked (tracking.covers _ _ held.dns)
  · obtain ⟨workers, evolved, rfl⟩ := drift.of_locked held.w_locked
    exact ⟨⟨rfl, held.within.1.evolve evolved, held.dns, flag⟩, held.w_began, held.w_refused, rfl,
      held.within.2⟩

/-- Code under the lock, from a settled world to a settled world. The body says
what it publishes and what its health checks found. -/
theorem always_withInner {α : Type} (tracking : DnsTracking assume B T)
    {body : ManagerInner → MgrProg (α × ManagerInner)} (Q : α → ManagerInner → Bool → Prop)
    (settled : Settled T w)
    (runs : ∀ base, SameStatus w.inner base.inner →
      (base.inner.kasperskyDnsOverrideApplied = true →
        base.inner.activeEngine = some .goodbyeDpi) →
      Held T base base.inner.kasperskyDnsOverrideApplied base.inner.Owns w.engines.healthy base →
      (body base.inner).Always (managerMachine assume rely) (fun w _ => Guarded B T w)
        (fun outcome w' => ∃ healthy, Held T base outcome.2.kasperskyDnsOverrideApplied
            outcome.2.Owns healthy w' ∧
          (outcome.2.kasperskyDnsOverrideApplied = true →
            outcome.2.activeEngine = some .goodbyeDpi) ∧
          Q outcome.1 outcome.2 healthy) base) :
    (withInner body).Always (managerMachine assume rely) (fun w _ => Guarded B T w)
      (fun a w' => Settled T w' ∧ w'.began = w.began ∧ w'.profileRefused = w.profileRefused ∧
        Q a w'.inner w'.engines.healthy) w := by
  unfold withInner
  refine (always_lockInner tracking settled).bind ?_
  rintro _ _ ⟨w1, drift, rfl, rfl⟩
  have settled1 := settled.drift drift
  have same := sameStatus_of_drift drift
  obtain ⟨workers, provider, -, -, rfl⟩ := drift
  refine (runs { (w.moveWorkers workers).setDnsProvider provider with locked := true } same
    settled1.flag ⟨rfl, settled1.dns, ⟨settled1.live, rfl⟩, rfl⟩).bind ?_
  rintro ⟨result, inner⟩ w2 ⟨healthy, held, flag, known⟩
  refine (always_publish tracking held flag).bind ?_
  rintro _ w3 ⟨settled3, began, refused, rfl, rfl⟩
  exact ⟨settled3, began, refused, known⟩

/-! ### Starting -/

/-- How `start_engine_internal` can end. -/
inductive StartOutcome (rely : Rely) (engine : EngineId) (mode : ActiveMode) (w : World) :
    Except EngineManagerError Unit → World → Prop where
  /-- The profile could not be loaded: nothing else has happened. -/
  | refused {e : EngineManagerError} {w' : World} (drift : World.Drift rely w w') :
      StartOutcome rely engine mode w (.error e) { w' with profileRefused := true }
  /-- The engine was not started, and the one before is stopped. -/
  | failed {e : EngineManagerError} {w' : World}
      (refused : w'.profileRefused = w.profileRefused)
      (healthy : w'.engines.healthy = w.engines.healthy)
      (same : SameStatus { w.inner with activeEngine := none } w'.inner) :
      StartOutcome rely engine mode w (.error e) w'
  | committed {w' : World} (refused : w'.profileRefused = w.profileRefused)
      (healthy : w'.engines.healthy = true) (active : w'.inner.activeEngine = some engine)
      (inMode : w'.inner.activeMode = mode) (profile : w'.inner.activeProfile ≠ none) :
      StartOutcome rely engine mode w (.ok ()) w'

/-- The outcomes of the part under the lock, by what it publishes. -/
def StartPublished (engine : EngineId) (mode : ActiveMode) (w : World)
    (result : Except EngineManagerError Unit) (inner : ManagerInner) (healthy : Bool) : Prop :=
  match result with
  | .ok () => healthy = true ∧ inner.activeEngine = some engine ∧ inner.activeMode = mode ∧
      inner.activeProfile ≠ none
  | .error _ => healthy = w.engines.healthy ∧
      SameStatus { w.inner with activeEngine := none } inner

theorem always_detect (tracking : DnsTracking assume B T) {start : World}
    (drift : World.Drift rely start w) (settled : Settled T w) {caller : DetectCaller} :
    (detect caller).Always (managerMachine assume rely) (fun w _ => Guarded B T w)
      (fun _ w' => World.Drift rely start w' ∧ Settled T w') w :=
  (always_mgrCall (.detect caller)).mpr
    ⟨settled.guarded tracking, fun _ drift' _ _ => ⟨drift.trans drift', settled.drift drift'⟩⟩

theorem always_loadProfile (tracking : DnsTracking assume B T) {start : World}
    (drift : World.Drift rely start w) (settled : Settled T w) (profileId : String) :
    (loadProfile profileId).Always (managerMachine assume rely) (fun w _ => Guarded B T w)
      (fun result w' => match result with
        | .error _ => ∃ w1, World.Drift rely start w1 ∧ Settled T w1 ∧
            w' = { w1 with profileRefused := true }
        | .ok _ => World.Drift rely start w' ∧ Settled T w') w := by
  refine (always_mgrCall (.loadProfile profileId)).mpr
    ⟨settled.guarded tracking, fun w' drift' result _ => ?_⟩
  cases result with
  | error e => exact ⟨w', drift.trans drift', settled.drift drift', rfl⟩
  | ok profile => exact ⟨drift.trans drift', settled.drift drift'⟩

/-- The part of a start that holds the lock. -/
theorem always_startUnderLock (tracking : DnsTracking assume B T) (settled : Settled T w)
    (engine : EngineId) (kaspersky : Bool) (profileId : String) (profile : ProfileDefinition)
    (mode : ActiveMode) :
    (withInner (startLocked engine kaspersky profileId profile mode)).Always
      (managerMachine assume rely) (fun w _ => Guarded B T w)
      (fun result w' => Settled T w' ∧ w'.began = w.began ∧ w'.profileRefused = w.profileRefused ∧
        StartPublished engine mode w result w'.inner w'.engines.healthy) w := by
  refine always_withInner tracking (StartPublished engine mode w) settled
    fun base same flag held =>
      (always_startLocked tracking engine kaspersky profileId profile mode flag held).imp ?_
  rintro ⟨result, inner⟩ w' ⟨held, flag, known⟩
  cases result with
  | error e =>
      obtain ⟨none, inMode, ofProfile⟩ := known
      exact ⟨_, held, flag, Bool.or_false _, none, inMode.trans same.mode,
        ofProfile.trans same.profile⟩
  | ok done =>
      obtain ⟨active, inMode, ofProfile⟩ := known
      exact ⟨_, held, flag, Bool.or_true _, active, inMode,
        ofProfile.trans_ne (Option.some_ne_none _)⟩

theorem always_startEngineInternal (tracking : DnsTracking assume B T) (settled : Settled T w)
    (engine : EngineId) (profileId : String) (mode : ActiveMode) :
    (startEngineInternal engine profileId mode).Always (managerMachine assume rely)
      (fun w _ => Guarded B T w)
      (fun result w' => Settled T w' ∧ w'.began = w.began ∧
        StartOutcome rely engine mode w result w') w := by
  unfold startEngineInternal
  refine (always_detect tracking (.refl rely w) settled).bind ?_
  rintro secEnv w1 ⟨drift, settled⟩
  unfold resolveEffectiveProfile
  refine Prog.Always.bind ((always_detect tracking drift settled).bind fun again w2 known =>
    (?_ : Prog.Always _ _ (fun _ w' => World.Drift rely w w' ∧ Settled T w') _ w2)) ?_
  · split
    · exact known
    · exact known
  rintro effective w2 ⟨drift, settled⟩
  refine (always_loadProfile tracking drift settled effective).andThen ?_ ?_
  · rintro e _ ⟨w3, drift, settled, rfl⟩
    refine ⟨⟨settled.unlocked, settled.live, settled.dns, settled.flag⟩, ?_, .refused drift⟩
    obtain ⟨workers, provider, -, -, rfl⟩ := drift
    rfl
  · rintro profile w3 ⟨drift, settled⟩
    obtain ⟨workers, provider, -, -, rfl⟩ := drift
    refine (always_startUnderLock tracking settled engine _ effective profile mode).imp ?_
    rintro result w4 ⟨settled, began, refused, known⟩
    refine ⟨settled, began, ?_⟩
    cases result with
    | error e => exact .failed refused known.1 ⟨known.2.engine, known.2.mode, known.2.profile⟩
    | ok done => exact .committed refused known.1 known.2.1 known.2.2.1 known.2.2.2

/-! ### Stopping -/

/-- After `stop_engine` nothing runs and nothing is reported. -/
structure StopPublished (w : World) (inner : ManagerInner) (healthy : Bool) : Prop where
  healthy : healthy = w.engines.healthy
  engine : inner.activeEngine = none
  mode : inner.activeMode = .idle
  profile : inner.activeProfile = none
  flag : inner.kasperskyDnsOverrideApplied = false

theorem always_stopEngine (tracking : DnsTracking assume B T) (settled : Settled T w) :
    stopEngine.Always (managerMachine assume rely) (fun w _ => Guarded B T w)
      (fun _ w' => Settled T w' ∧ w'.began = w.began ∧ w'.profileRefused = w.profileRefused ∧
        StopPublished w w'.inner w'.engines.healthy) w := by
  refine always_withInner tracking (fun _ => StopPublished w) settled fun base _ _ held => ?_
  refine (always_stopEngines tracking held).bind ?_
  rintro _ w' ⟨rfl, held⟩
  refine ⟨w.engines.healthy, held.mono fun _ _ owned => (not_owns_of_stopped owned).elim, ?_,
    ⟨rfl, rfl, rfl, rfl, rfl⟩⟩
  intro up
  cases up

/-! ### The automatic mode -/

/-- What failed attempts leave: no engine or the one before, and for the rest the
status they found. -/
structure Attempted (w w' : World) : Prop where
  began : w'.began = w.began
  healthy : w'.engines.healthy = w.engines.healthy
  engine : w'.inner.activeEngine = none ∨ w'.inner.activeEngine = w.inner.activeEngine
  mode : w'.inner.activeMode = w.inner.activeMode
  profile : w'.inner.activeProfile = w.inner.activeProfile

theorem Attempted.trans {w' w'' : World} (first : Attempted w w') (second : Attempted w' w'') :
    Attempted w w'' where
  began := second.began.trans first.began
  healthy := second.healthy.trans first.healthy
  engine := second.engine.elim .inl fun same => first.engine.imp same.trans same.trans
  mode := second.mode.trans first.mode
  profile := second.profile.trans first.profile

theorem Attempted.of_drift {w' : World} (drift : World.Drift rely w w') : Attempted w w' := by
  obtain ⟨workers, provider, -, -, rfl⟩ := drift
  exact ⟨rfl, rfl, .inr rfl, rfl, rfl⟩

theorem StartOutcome.attempted {w' : World} {engine : EngineId} {mode : ActiveMode}
    {e : EngineManagerError} (began : w'.began = w.began)
    (outcome : StartOutcome rely engine mode w (.error e) w') : Attempted w w' := by
  cases outcome with
  | refused drift =>
      have attempted := Attempted.of_drift drift
      exact { attempted with }
  | failed _ healthy same => exact ⟨began, healthy, .inl same.engine, same.mode, same.profile⟩

/-- How `start_auto` can end. -/
inductive AutoOutcome (w : World) : Except EngineManagerError Unit → World → Prop where
  /-- The preferred engine runs, or the other one and a reason is given. -/
  | committed {w' : World} {engine preferred : EngineId} {reason : Option String}
      (healthy : w'.engines.healthy = true) (active : w'.inner.activeEngine = some engine)
      (inMode : w'.inner.activeMode = .auto preferred reason)
      (choice : reason = none ↔ engine = preferred) (profile : w'.inner.activeProfile ≠ none) :
      AutoOutcome w (.ok ()) w'
  /-- Both engines failed: the mode is idle, the profile stays. -/
  | failed {e : EngineManagerError} {w' : World} (healthy : w'.engines.healthy = w.engines.healthy)
      (engine : w'.inner.activeEngine = none ∨ w'.inner.activeEngine = w.inner.activeEngine)
      (inMode : w'.inner.activeMode = .idle)
      (profile : w'.inner.activeProfile = w.inner.activeProfile) : AutoOutcome w (.error e) w'

/-- What the last step of `start_auto` publishes when both engines failed. -/
structure GaveUp (w : World) (result : Except EngineManagerError Unit) (inner : ManagerInner)
    (healthy : Bool) : Prop where
  result : ∃ e, result = .error e
  healthy : healthy = w.engines.healthy
  engine : inner.activeEngine = w.inner.activeEngine
  mode : inner.activeMode = .idle
  profile : inner.activeProfile = w.inner.activeProfile

/-- The manager asks the policy with both engines reported healthy, so the answer
does not depend on the security environment. -/
theorem always_evaluateRecommendation (tracking : DnsTracking assume B T) (settled : Settled T w) :
    evaluateRecommendation.Always (managerMachine assume rely) (fun w _ => Guarded B T w)
      (fun recommendation w' => recommendation.preferredEngine = some .goodbyeDpi ∧
        recommendation.fallbackEngine = some .byeDpi ∧ World.Drift rely w w' ∧ Settled T w') w := by
  refine (always_detect tracking (.refl rely w) settled).bind ?_
  rintro secEnv w' ⟨drift, settled⟩
  exact ⟨rfl, rfl, drift, settled⟩

theorem always_startAuto (tracking : DnsTracking assume B T) (settled : Settled T w)
    (profileId : String) :
    (startAuto profileId).Always (managerMachine assume rely) (fun w _ => Guarded B T w)
      (fun result w' => Settled T w' ∧ w'.began = w.began ∧ AutoOutcome w result w') w := by
  unfold startAuto
  refine (always_evaluateRecommendation tracking settled).bind ?_
  rintro recommendation w1 ⟨preferred, fallback, drift, settled⟩
  have asked := Attempted.of_drift drift
  simp only [preferred, fallback, Option.getD_some]
  refine (always_startEngineInternal tracking settled _ _ _).bind ?_
  rintro (e | done) w2 ⟨settled, began, outcome⟩
  · have first := asked.trans (outcome.attempted began)
    refine (always_startEngineInternal tracking settled _ _ _).bind ?_
    rintro (e' | done) w3 ⟨settled, began, outcome⟩
    · have second := first.trans (outcome.attempted began)
      refine (always_withInner tracking (GaveUp w3) settled ?_).imp ?_
      · exact fun base same flag held =>
          ⟨w3.engines.healthy, held, flag, ⟨_, rfl⟩, rfl, same.engine, rfl, same.profile⟩
      · rintro _ w4 ⟨settled, began, -, ⟨e, rfl⟩, healthy, engine, inMode, profile⟩
        exact ⟨settled, began.trans second.began, .failed (healthy.trans second.healthy)
          (second.engine.imp engine.trans engine.trans) inMode (profile.trans second.profile)⟩
    · cases outcome with
      | committed _ healthy active inMode profile =>
          exact ⟨settled, began.trans first.began,
            .committed healthy active inMode (by simp) profile⟩
  · cases outcome with
    | committed _ healthy active inMode profile =>
        exact ⟨settled, began.trans asked.began, .committed healthy active inMode (by simp) profile⟩

/-! ### A new manager -/

/-- A supervisor made while the manager is being built. -/
theorem always_liftEngine_newSupervisor (locked : w.locked = true) (covered : B w.dns)
    (none : LiveIn Nowhere w.engines.workers) (config : SupervisorConfig) :
    (liftEngine (newSupervisor config)).Always (managerMachine assume rely)
      (fun w _ => Guarded B T w)
      (fun _ w' => w'.locked = true ∧ w'.dns = w.dns ∧ LiveIn Nowhere w'.engines.workers) w := by
  refine (always_liftEngine locked (fun e _ =>
      guarded_of_locked (w := { w with engines := e }) locked covered)
    (always_newSupervisor ⟨none, rfl⟩ config)).imp ?_
  rintro supervisor _ ⟨e, ⟨within, -⟩, rfl⟩
  exact ⟨locked, rfl, within.1⟩

/-- `EngineManager::new` on the world a crash leaves: nobody can reach the manager
before it is built, and boot recovery has run by then. -/
theorem always_newManager {D : DnsWorld → Prop} (covers : ∀ d, D d → B d)
    (locked : w.locked = true) (none : LiveIn Nowhere w.engines.workers) (covered : B w.dns)
    (recovers : (handleBootRecovery false .automatic).Always (dnsMachine assume)
      (fun d _ => B d) (fun _ d => D d) w.dns) :
    newManager.Always (managerMachine assume rely) (fun w _ => Guarded B T w)
      (fun _ w' => D w'.dns ∧ w'.locked = false ∧ LiveIn Nowhere w'.engines.workers ∧
        ∃ goodbye byedpi, w'.inner = .new goodbye byedpi) w := by
  unfold newManager
  refine (always_liftEngine_newSupervisor locked covered none _).bind ?_
  rintro goodbye w1 ⟨locked, dns, none⟩
  refine (always_liftEngine_newSupervisor locked (dns ▸ covered) none _).bind ?_
  rintro byedpi w2 ⟨locked, dns', none⟩
  have recovers := dns'.trans dns ▸ recovers
  refine (always_liftDns (E := fun e => LiveIn Nowhere e.workers) locked
    (fun e workers live evolved => live.evolve evolved) none (fun d e r known _ =>
      guarded_of_locked (w := { w2 with dns := d, engines := e }) locked known) recovers).bind ?_
  rintro _ _ ⟨d, e, recovered, none, rfl⟩
  refine (always_mgrCall (.publish (.new goodbye byedpi))).mpr
    ⟨guarded_of_locked locked (covers d recovered), fun w' drift _ _ => ?_⟩
  obtain ⟨workers, evolved, rfl⟩ := drift.of_locked locked
  exact ⟨recovered, rfl, none.evolve evolved, goodbye, byedpi, rfl⟩

end Specs

end ZonDpi.Manager
