import ZonDpi.Dns.Tracking
import ZonDpi.Manager.World

/-!
What `start_engine_internal` and `stop_engine` do while they hold the lock, said
once.

`DnsTracking` is all that is assumed of the DNS controller: a relation `T` between
the manager's flag and the DNS world that `restore_dns` and `apply_dns` keep.
Everything the manager guarantees while its lock is free is `Settled`; between
the steps of an operation that holds it, `Held`. Each step of the source has one
lemma: it is run in a `Held` world and leaves one.
-/

namespace ZonDpi.Manager

open Effects ZonDpi.Dns ZonDpi.Engine ZonDpi.Supervisor

/-- The worker at this place is the active engine's. -/
def ManagerInner.Owns (inner : ManagerInner) (i : Nat) (config : SupervisorConfig) : Prop :=
  (inner.activeEngine = some .goodbyeDpi ∧ i = inner.goodbyeAdapter.supervisor ∧
      config.name = goodbyeName) ∨
    (inner.activeEngine = some .byeDpi ∧ i = inner.byedpiAdapter.supervisor ∧
      config.name = byedpiName)

/-- The manager between operations, and whenever its lock is free. -/
structure Settled (T : Bool → DnsWorld → Prop) (w : World) : Prop where
  unlocked : w.locked = false
  live : LiveIn w.inner.Owns w.engines.workers
  dns : T w.inner.kasperskyDnsOverrideApplied w.dns
  flag : w.inner.kasperskyDnsOverrideApplied = true → w.inner.activeEngine = some .goodbyeDpi

/-- What holds at every request. -/
def Guarded (B : DnsWorld → Prop) (T : Bool → DnsWorld → Prop) (w : World) : Prop :=
  B w.dns ∧ (w.locked = false → Settled T w)

/-- An operation holds the lock: `base` is the world when it took it, of which
only the DNS world and the engines have changed. -/
structure Held (T : Bool → DnsWorld → Prop) (base : World) (flag : Bool)
    (P : Nat → SupervisorConfig → Prop) (healthy : Bool) (w : World) : Prop where
  locked : base.locked = true
  dns : T flag w.dns
  within : Within P healthy w.engines
  frame : w = { base with dns := w.dns, engines := w.engines }

section Specs

variable {assume : DnsWorld → (r : DnsReq) → DnsResp r → Prop} {rely : Rely}
  {B : DnsWorld → Prop} {T : Bool → DnsWorld → Prop} {base w : World} {flag healthy : Bool}
  {P Q : Nat → SupervisorConfig → Prop}

theorem Settled.drift {w' : World} (settled : Settled T w) (drift : World.Drift rely w w') :
    Settled T w' := by
  obtain ⟨workers, provider, evolved, -, rfl⟩ := drift
  exact ⟨settled.unlocked, settled.live.evolve evolved, settled.dns, settled.flag⟩

theorem Settled.guarded (tracking : DnsTracking assume B T) (settled : Settled T w) :
    Guarded B T w :=
  ⟨tracking.covers _ _ settled.dns, fun _ => settled⟩

/-- While the lock is held only the DNS world is watched. -/
theorem guarded_of_locked (locked : w.locked = true) (covered : B w.dns) : Guarded B T w :=
  ⟨covered, fun free => by simp [locked] at free⟩

theorem Held.mono (held : Held T base flag P healthy w) (weaker : ∀ i c, P i c → Q i c) :
    Held T base flag Q healthy w :=
  { held with within := ⟨held.within.1.mono weaker, held.within.2⟩ }

theorem Held.w_locked (held : Held T base flag P healthy w) : w.locked = true := by
  rw [held.frame]
  exact held.locked

theorem Held.w_began (held : Held T base flag P healthy w) : w.began = base.began := by
  rw [held.frame]

theorem Held.w_refused (held : Held T base flag P healthy w) :
    w.profileRefused = base.profileRefused := by
  rw [held.frame]

/-- An engine program under the lock. -/
theorem Held.engine {α : Type} {p : EngineProg α} {E : α → EngineWorld → Prop}
    (tracking : DnsTracking assume B T) (held : Held T base flag P healthy w)
    (engine : p.Always (engineMachine rely) (fun _ _ => True) E w.engines) :
    (liftEngine p).Always (managerMachine assume rely) (fun w _ => Guarded B T w)
      (fun a w' => E a w'.engines ∧ w' = { w with engines := w'.engines }) w := by
  refine (always_liftEngine held.w_locked (fun e r => ?_) engine).imp ?_
  · exact guarded_of_locked (w := { w with engines := e }) held.w_locked
      (tracking.covers _ _ held.dns)
  · rintro a _ ⟨e, known, rfl⟩
    exact ⟨known, rfl⟩

/-- A DNS program under the lock. -/
theorem Held.dnsProgram {α : Type} {p : DnsProg α} {D : α → DnsWorld → Prop}
    (held : Held T base flag P healthy w)
    (dns : p.Always (dnsMachine assume) (fun d _ => B d) D w.dns) :
    (liftDns p).Always (managerMachine assume rely) (fun w _ => Guarded B T w)
      (fun a w' => D a w'.dns ∧ Within P healthy w'.engines ∧
        w' = { w with dns := w'.dns, engines := w'.engines }) w := by
  refine (always_liftDns (E := Within P healthy) held.w_locked ?_ held.within ?_ dns).imp ?_
  · exact fun e workers within evolved => ⟨within.1.evolve evolved, within.2⟩
  · exact fun d e _ known _ =>
      guarded_of_locked (w := { w with dns := d, engines := e }) held.w_locked known
  · rintro a _ ⟨d, e, known, within, rfl⟩
    exact ⟨known, within, rfl⟩

/-- The lock is still held after an engine program. -/
theorem Held.after_engine {w' : World} {healthy' : Bool} (held : Held T base flag P healthy w)
    (within : Within Q healthy' w'.engines) (frame : w' = { w with engines := w'.engines }) :
    Held T base flag Q healthy' w' := by
  have dns : w'.dns = w.dns := by rw [frame]
  refine ⟨held.locked, dns ▸ held.dns, within, ?_⟩
  rw [frame, held.frame]

/-- The lock is still held after a DNS program. -/
theorem Held.after_dns {w' : World} {flag' : Bool} (held : Held T base flag P healthy w)
    (dns : T flag' w'.dns) (within : Within P healthy w'.engines)
    (frame : w' = { w with dns := w'.dns, engines := w'.engines }) :
    Held T base flag' P healthy w' := by
  refine ⟨held.locked, dns, within, ?_⟩
  rw [frame, held.frame]

/-- After a rollback the flag is down, and the DNS world is as the flag says. -/
theorem always_rollbackDns (tracking : DnsTracking assume B T) (inner : ManagerInner)
    (held : Held T base inner.kasperskyDnsOverrideApplied P healthy w) :
    (rollbackDns inner).Always (managerMachine assume rely) (fun w _ => Guarded B T w)
      (fun inner' w' => inner' = { inner with kasperskyDnsOverrideApplied := false } ∧
        Held T base false P healthy w') w := by
  unfold rollbackDns
  cases applied : inner.kasperskyDnsOverrideApplied with
  | false =>
      rw [applied] at held
      exact ⟨by rw [← applied], held⟩
  | true =>
      rw [applied] at held
      refine (held.dnsProgram (tracking.restore _ held.dns)).bind ?_
      rintro _ w' ⟨restored, within, frame⟩
      exact ⟨rfl, held.after_dns restored within frame⟩

theorem always_stopEngines (tracking : DnsTracking assume B T) {inner : ManagerInner}
    (held : Held T base inner.kasperskyDnsOverrideApplied P healthy w) :
    (stopEngines inner).Always (managerMachine assume rely) (fun w _ => Guarded B T w)
      (fun inner' w' => inner' = { inner with kasperskyDnsOverrideApplied := false } ∧
        Held T base false (fun i config => (P i config ∧ i ≠ inner.goodbyeAdapter.supervisor) ∧
          i ≠ inner.byedpiAdapter.supervisor) healthy w') w := by
  unfold stopEngines
  refine (held.engine tracking (always_goodbyeStop held.within _)).bind ?_
  rintro _ w' ⟨within, frame⟩
  have held := held.after_engine within frame
  refine (held.engine tracking (always_byedpiStop held.within _)).bind ?_
  rintro _ w'' ⟨within, frame⟩
  exact always_rollbackDns tracking inner (held.after_engine within frame)

/-- No worker at all. -/
abbrev Nowhere : Nat → SupervisorConfig → Prop := fun _ _ => False

/-- Stopping both adapters stops the one worker that can be live. -/
theorem not_owns_of_stopped {inner : ManagerInner} {i : Nat} {config : SupervisorConfig}
    (owned : (inner.Owns i config ∧ i ≠ inner.goodbyeAdapter.supervisor) ∧
      i ≠ inner.byedpiAdapter.supervisor) : Nowhere i config := by
  obtain ⟨⟨⟨-, here, -⟩ | ⟨-, here, -⟩, notGoodbye⟩, notByeDpi⟩ := owned
  · exact notGoodbye here
  · exact notByeDpi here

theorem not_owns_of_none {inner : ManagerInner} (none : inner.activeEngine = none) {i : Nat}
    {config : SupervisorConfig} : ¬ inner.Owns i config := by
  simp [ManagerInner.Owns, none]

theorem always_stopActive (tracking : DnsTracking assume B T) (inner : ManagerInner)
    (consistent : inner.kasperskyDnsOverrideApplied = true →
      inner.activeEngine = some .goodbyeDpi)
    (held : Held T base inner.kasperskyDnsOverrideApplied inner.Owns healthy w) :
    (stopActive inner).Always (managerMachine assume rely) (fun w _ => Guarded B T w)
      (fun inner' w' => inner' = { inner with
          kasperskyDnsOverrideApplied := false, activeEngine := none } ∧
        Held T base false Nowhere healthy w') w := by
  unfold stopActive
  cases active : inner.activeEngine with
  | none =>
      have applied : inner.kasperskyDnsOverrideApplied = false := by
        cases applied : inner.kasperskyDnsOverrideApplied with
        | false => rfl
        | true => simp [active] at consistent; simp [consistent] at applied
      rw [applied] at held
      exact ⟨by rw [← applied, ← active], held.mono fun _ _ => not_owns_of_none active⟩
  | some engine =>
      refine (always_stopEngines tracking held).bind ?_
      rintro _ w' ⟨rfl, stopped⟩
      exact ⟨rfl, stopped.mono fun _ _ => not_owns_of_stopped⟩

/-- The fields that say what is running. -/
structure SameStatus (a b : ManagerInner) : Prop where
  engine : b.activeEngine = a.activeEngine
  mode : b.activeMode = a.activeMode
  profile : b.activeProfile = a.activeProfile

theorem SameStatus.trans {a b c : ManagerInner} (first : SameStatus a b) (second : SameStatus b c) :
    SameStatus a c :=
  ⟨second.engine.trans first.engine, second.mode.trans first.mode,
    second.profile.trans first.profile⟩

/-- Step 2 either fails and leaves no override, or succeeds and the flag says
whether there is one. -/
theorem always_overrideDns (tracking : DnsTracking assume B T) (engine : EngineId)
    (kaspersky : Bool) {inner : ManagerInner} (down : inner.kasperskyDnsOverrideApplied = false)
    (held : Held T base false P healthy w) :
    (overrideDns engine kaspersky inner).Always (managerMachine assume rely)
      (fun w _ => Guarded B T w)
      (fun outcome w' => SameStatus inner outcome.2 ∧
        (outcome.2.kasperskyDnsOverrideApplied = true →
          engine = .goodbyeDpi ∧ outcome.1.toBool = true) ∧
        Held T base outcome.2.kasperskyDnsOverrideApplied P healthy w') w := by
  unfold overrideDns
  split
  · rename_i wanted
    obtain ⟨goodbye, -, overrides⟩ := wanted
    refine (held.dnsProgram (tracking.apply _ _ overrides held.dns)).bind ?_
    rintro (e | state) w' ⟨applied, within, frame⟩
    · exact ⟨⟨rfl, rfl, rfl⟩, fun up => by simp [down] at up,
        down ▸ held.after_dns applied within frame⟩
    · exact ⟨⟨rfl, rfl, rfl⟩, fun _ => ⟨goodbye, rfl⟩, held.after_dns applied within frame⟩
  · exact ⟨⟨rfl, rfl, rfl⟩, fun up => by simp [down] at up, down ▸ held⟩

/-- The place of an engine's worker once that engine is active. -/
def ManagerInner.Hosts (inner : ManagerInner) (engine : EngineId) :
    Nat → SupervisorConfig → Prop :=
  ManagerInner.Owns { inner with activeEngine := some engine }

/-- What step 3 leaves: a healthy worker, or none and no override. -/
def LaunchOutcome (T : Bool → DnsWorld → Prop) (base : World) (healthy : Bool)
    (engine : EngineId) (inner : ManagerInner)
    (outcome : Except EngineManagerError Unit × ManagerInner) (w : World) : Prop :=
  SameStatus inner outcome.2 ∧
    match outcome.1 with
    | .ok () =>
        outcome.2.kasperskyDnsOverrideApplied = inner.kasperskyDnsOverrideApplied ∧
          Held T base outcome.2.kasperskyDnsOverrideApplied (outcome.2.Hosts engine) true w
    | .error _ =>
        outcome.2.kasperskyDnsOverrideApplied = false ∧ Held T base false Nowhere healthy w

theorem always_launchGoodbye (tracking : DnsTracking assume B T) (profile : ProfileDefinition)
    (suppress : Bool) {inner : ManagerInner}
    (held : Held T base inner.kasperskyDnsOverrideApplied Nowhere healthy w) :
    (launchGoodbye profile suppress inner).Always (managerMachine assume rely)
      (fun w _ => Guarded B T w) (LaunchOutcome T base healthy .goodbyeDpi inner) w := by
  unfold launchGoodbye
  refine (held.engine tracking (always_goodbyeStart held.within _ profile suppress)).bind ?_
  rintro ⟨started, adapter⟩ w' ⟨within, frame⟩
  cases started with
  | error e =>
      have held := held.after_engine within frame
      refine (always_rollbackDns tracking { inner with goodbyeAdapter := adapter } held).bind ?_
      rintro _ w'' ⟨rfl, held⟩
      exact ⟨⟨rfl, rfl, rfl⟩, rfl, held⟩
  | ok done =>
      have held := held.after_engine within frame
      refine (held.engine tracking (always_goodbyeHealthCheck held.within adapter)).bind ?_
      rintro health w'' ⟨within, frame⟩
      have held := held.after_engine within frame
      cases good : health.isHealthy with
      | true =>
          rw [good, Bool.or_true] at held
          simp only [if_true]
          exact ⟨⟨rfl, rfl, rfl⟩, rfl, held.mono fun i c at_ => at_.elim False.elim
            fun here => .inl ⟨rfl, here⟩⟩
      | false =>
          rw [good, Bool.or_false] at held
          simp only [Bool.false_eq_true, if_false]
          refine (held.engine tracking (always_goodbyeStop held.within adapter)).bind ?_
          rintro _ w3 ⟨within, frame⟩
          have held := held.after_engine within frame
          have none : Held T base inner.kasperskyDnsOverrideApplied Nowhere healthy w3 :=
            held.mono fun i c at_ => at_.1.elim id fun here => at_.2 here.1
          refine (always_rollbackDns tracking { inner with goodbyeAdapter := adapter }
            none).bind ?_
          rintro _ w4 ⟨rfl, held⟩
          exact ⟨⟨rfl, rfl, rfl⟩, rfl, held⟩

theorem always_launchByeDpi (tracking : DnsTracking assume B T) (profile : ProfileDefinition)
    {inner : ManagerInner} (down : inner.kasperskyDnsOverrideApplied = false)
    (held : Held T base false Nowhere healthy w) :
    (launchByeDpi profile inner).Always (managerMachine assume rely)
      (fun w _ => Guarded B T w) (LaunchOutcome T base healthy .byeDpi inner) w := by
  unfold launchByeDpi
  refine (held.engine tracking (always_byedpiStart held.within _ profile)).bind ?_
  rintro ⟨started, adapter⟩ w' ⟨within, frame⟩
  cases started with
  | error e => exact ⟨⟨rfl, rfl, rfl⟩, down, held.after_engine within frame⟩
  | ok done =>
      have held := held.after_engine within frame
      refine (held.engine tracking (always_byedpiHealthCheck held.within adapter)).bind ?_
      rintro health w'' ⟨within, frame⟩
      have held := held.after_engine within frame
      cases good : health.isHealthy with
      | true =>
          rw [good, Bool.or_true] at held
          simp only [if_true]
          exact ⟨⟨rfl, rfl, rfl⟩, rfl, down ▸ held.mono fun i c at_ => at_.elim False.elim
            fun here => .inr ⟨rfl, here⟩⟩
      | false =>
          rw [good, Bool.or_false] at held
          simp only [Bool.false_eq_true, if_false]
          refine (held.engine tracking (always_byedpiStop held.within adapter)).bind ?_
          rintro _ w3 ⟨within, frame⟩
          have held := held.after_engine within frame
          exact ⟨⟨rfl, rfl, rfl⟩, down,
            held.mono fun i c at_ => at_.1.elim id fun here => at_.2 here.1⟩

theorem always_launch (tracking : DnsTracking assume B T) (engine : EngineId)
    (profile : ProfileDefinition) (suppress : Bool) {inner : ManagerInner}
    (up : inner.kasperskyDnsOverrideApplied = true → engine = .goodbyeDpi)
    (held : Held T base inner.kasperskyDnsOverrideApplied Nowhere healthy w) :
    (launch engine profile suppress inner).Always (managerMachine assume rely)
      (fun w _ => Guarded B T w) (LaunchOutcome T base healthy engine inner) w := by
  have down (other : engine ≠ .goodbyeDpi) : inner.kasperskyDnsOverrideApplied = false :=
    Bool.eq_false_iff.mpr (mt up other)
  cases engine with
  | goodbyeDpi => exact always_launchGoodbye tracking profile suppress held
  | byeDpi =>
      have down := down (by simp)
      exact always_launchByeDpi tracking profile down (down ▸ held)
  | native =>
      have down := down (by simp)
      exact ⟨⟨rfl, rfl, rfl⟩, down, down ▸ held⟩

/-- The state a start publishes: committed, or without an engine and otherwise
with the status it found. -/
def LockedOutcome (T : Bool → DnsWorld → Prop) (base : World) (healthy : Bool)
    (engine : EngineId) (profileId : String) (mode : ActiveMode) (inner : ManagerInner)
    (outcome : Except EngineManagerError Unit × ManagerInner) (w : World) : Prop :=
  Held T base outcome.2.kasperskyDnsOverrideApplied outcome.2.Owns
      (healthy || outcome.1.toBool) w ∧
    (outcome.2.kasperskyDnsOverrideApplied = true →
      outcome.2.activeEngine = some .goodbyeDpi) ∧
    match outcome.1 with
    | .ok () =>
        outcome.2.activeEngine = some engine ∧ outcome.2.activeMode = mode ∧
          outcome.2.activeProfile = some profileId
    | .error _ =>
        outcome.2.activeEngine = none ∧ outcome.2.activeMode = inner.activeMode ∧
          outcome.2.activeProfile = inner.activeProfile

theorem LockedOutcome.of_error {engine : EngineId} {profileId : String} {mode : ActiveMode}
    {inner inner' : ManagerInner} (e : EngineManagerError)
    (same : SameStatus { inner with activeEngine := none } inner')
    (down : inner'.kasperskyDnsOverrideApplied = false)
    (held : Held T base false Nowhere healthy w) :
    LockedOutcome T base healthy engine profileId mode inner (.error e, inner') w := by
  refine ⟨?_, fun up => ?_, same.engine, same.mode, same.profile⟩
  · have held := held.mono (Q := inner'.Owns) fun _ _ => False.elim
    simpa [Except.toBool, down] using held
  · exact absurd (down.symm.trans up) Bool.false_ne_true

theorem always_startLocked (tracking : DnsTracking assume B T) (engine : EngineId)
    (kaspersky : Bool) (profileId : String) (profile : ProfileDefinition) (mode : ActiveMode)
    {inner : ManagerInner}
    (consistent : inner.kasperskyDnsOverrideApplied = true →
      inner.activeEngine = some .goodbyeDpi)
    (held : Held T base inner.kasperskyDnsOverrideApplied inner.Owns healthy w) :
    (startLocked engine kaspersky profileId profile mode inner).Always
      (managerMachine assume rely) (fun w _ => Guarded B T w)
      (LockedOutcome T base healthy engine profileId mode inner) w := by
  unfold startLocked
  refine (always_stopActive tracking { inner with requestedEngine := some engine } consistent
    held).bind ?_
  rintro _ w' ⟨rfl, held⟩
  refine (always_overrideDns tracking engine kaspersky rfl held).bind ?_
  rintro ⟨overridden, inner'⟩ w' ⟨⟨sameEngine, sameMode, sameProfile⟩, up, held⟩
  have same : SameStatus { inner with activeEngine := none } inner' :=
    ⟨sameEngine, sameMode, sameProfile⟩
  cases overridden with
  | error e =>
      have down : inner'.kasperskyDnsOverrideApplied = false :=
        Bool.eq_false_iff.mpr fun applied => Bool.false_ne_true (up applied).2
      exact .of_error e same down (down ▸ held)
  | ok done =>
      refine (always_launch tracking engine profile kaspersky (fun applied => (up applied).1)
        held).bind ?_
      rintro ⟨launched, inner''⟩ w'' ⟨same', outcome⟩
      cases launched with
      | error e => exact .of_error e (same.trans same') outcome.1 outcome.2
      | ok done =>
          obtain ⟨flag, held⟩ := outcome
          refine ⟨?_, fun applied => ?_, rfl, rfl, rfl⟩
          · rw [Except.toBool, Bool.or_true]
            exact held
          · exact congrArg some (up (flag ▸ applied)).1

end Specs

end ZonDpi.Manager
