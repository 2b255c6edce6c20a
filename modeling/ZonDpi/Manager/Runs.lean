import ZonDpi.Manager.Environment
import ZonDpi.Manager.Operations

/-!
Whole runs of the manager.

Every operation takes a settled world to a settled world, whatever the engines,
the detector and the profiles do, so every state of a run in which the lock is
free is settled (`settled_invariant`). What that says depends on what is known of
the DNS calls. Knowing nothing of them is enough for the workers: at most one
engine has one.

Runs begin with a `Fresh` manager, and `EngineManager::new` leaves nothing else
(`always_newManager_fresh`).
-/

namespace ZonDpi.Manager

open Effects ZonDpi.Dns ZonDpi.Engine ZonDpi.Supervisor

section Invariant

variable {assume : DnsWorld → (r : DnsReq) → DnsResp r → Prop} {rely : Rely}
  {B : DnsWorld → Prop} {T : Bool → DnsWorld → Prop} {w w' : World}

theorem Settled.accept (settled : Settled T w) : Settled T w.accept :=
  ⟨settled.unlocked, settled.live, settled.dns, settled.flag⟩

theorem Guarded.drift (guarded : Guarded B T w) (drift : World.Drift rely w w') :
    Guarded B T w' := by
  refine ⟨?_, fun free => ?_⟩
  · obtain ⟨workers, provider, -, -, rfl⟩ := drift
    exact guarded.1
  · have wasFree : w.locked = false := by
      obtain ⟨workers, provider, -, -, rfl⟩ := drift
      exact free
    exact (guarded.2 wasFree).drift drift

theorem always_program (tracking : DnsTracking assume B T) (settled : Settled T w)
    (op : ManagerOp) :
    op.program.Always (managerMachine assume rely) (fun w _ => Guarded B T w)
      (fun _ w' => Settled T w') w := by
  cases op with
  | startEngine engine profileId =>
      exact (always_startEngineInternal tracking settled engine profileId _).imp
        fun _ _ known => known.1
  | startAuto profileId =>
      exact (always_startAuto tracking settled profileId).imp fun _ _ known => known.1
  | switchEngine engine profileId =>
      exact (always_startEngineInternal tracking settled engine profileId _).imp
        fun _ _ known => known.1
  | stopEngine => exact (always_stopEngine tracking settled).imp fun _ _ known => known.1

/-- The invariant of the service: what is said of an idle manager must imply
that it is settled and be kept by every operation that completes. With crashes, the
boot program must lead from what a crash leaves to such a world. -/
theorem manager_invariant (tracking : DnsTracking assume B T) {crash : World → World → Prop}
    {completes : ManagerOp → World → Prop} {Idle Booted : World → Prop}
    (settled : ∀ w, Idle w → Settled T w)
    (idle_drift : ∀ w w', World.Drift rely w w' → Idle w → Idle w')
    (completes_drift : ∀ op w w', World.Drift rely w w' → completes op w' → completes op w)
    (serve : ∀ w (op : ManagerOp), Idle w → op.program.Always (managerMachine assume rely)
      (fun w _ => Guarded B T w)
      (fun _ w' => Settled T w' ∧ (completes op w' → Idle w')) w.accept)
    (booted : ∀ w, Booted w → Idle w)
    (stays : ∀ w w', World.Drift rely w w' → Booted w → Booted w')
    (restart : ∀ w w', Guarded B T w → crash w w' →
      newManager.Always (managerMachine assume rely) (fun w _ => Guarded B T w)
        (fun _ w => Booted w) w') :
    (managerService assume rely crash completes).Invariant Idle (Guarded B T) Booted where
  idle_busy := fun w idle => (settled w idle).guarded tracking
  booted_idle := booted
  drift_idle := idle_drift
  drift_busy := fun _ _ drift guarded => guarded.drift drift
  drift_booted := stays
  drift_completes := completes_drift
  absorbs := by
    rintro w w' r x w'' drift ⟨w1, drift', allowed, effect⟩
    exact ⟨w1, drift.trans drift', allowed, effect⟩
  serve := fun w op idle => (serve w op idle).imp
    fun _ _ ⟨settled, next⟩ => ⟨settled.guarded tracking, next⟩
  restart := fun w w' guarded crashed => (restart w w' guarded crashed).bind fun _ _ known => known

/-- Being settled needs nothing of the operations. -/
theorem settled_invariant (tracking : DnsTracking assume B T) {crash : World → World → Prop}
    {Booted : World → Prop} (booted : ∀ w, Booted w → Settled T w)
    (stays : ∀ w w', World.Drift rely w w' → Booted w → Booted w')
    (restart : ∀ w w', Guarded B T w → crash w w' →
      newManager.Always (managerMachine assume rely) (fun w _ => Guarded B T w)
        (fun _ w => Booted w) w') :
    (managerService assume rely crash fun _ _ => True).Invariant (Settled T) (Guarded B T)
      Booted :=
  manager_invariant tracking (fun _ settled => settled)
    (fun _ _ drift settled => settled.drift drift) (fun _ _ _ _ _ => trivial)
    (fun _ op settled => (always_program tracking settled.accept op).imp
      fun _ _ settled => ⟨settled, fun _ => settled⟩)
    booted stays restart

end Invariant

/-! ### A fresh manager -/

/-- The manager as `EngineManager::new` leaves it (`always_newManager_fresh`), where its
history begins. -/
structure Fresh (w : World) : Prop where
  unlocked : w.locked = false
  inner : ∃ goodbye byedpi, w.inner = .new goodbye byedpi
  workers : LiveIn Nowhere w.engines.workers
  inactive : ∀ state, ¬ LoadsActive w.dns state
  calls : w.dns.calls = []
  before : ∀ i, w.dns.before i = none

/-- Runs of a manager that is not killed, with answers of the DNS calls as
`assume` allows. -/
abbrev managerRuns (assume : DnsWorld → (r : DnsReq) → DnsResp r → Prop) (rely : Rely) :
    Service MgrReq MgrResp World ManagerOp (Except EngineManagerError Unit) :=
  managerService assume rely (fun _ _ => False) fun _ _ => True

section Fresh

variable {assume : DnsWorld → (r : DnsReq) → DnsResp r → Prop} {rely : Rely}
  {B : DnsWorld → Prop} {T : Bool → DnsWorld → Prop} {w w' : World}

theorem Fresh.settled (fresh : Fresh w) (dns : T false w.dns) : Settled T w := by
  obtain ⟨goodbye, byedpi, new⟩ := fresh.inner
  refine ⟨fresh.unlocked, fresh.workers.mono fun _ _ => False.elim, by rw [new]; exact dns, ?_⟩
  simp [new, ManagerInner.new]

/-- Without crashes the invariant needs nothing more. -/
theorem runs_invariant (tracking : DnsTracking assume B T) :
    (managerRuns assume rely).Invariant (Settled T) (Guarded B T) (Settled T) :=
  settled_invariant tracking (fun _ settled => settled)
    (fun _ _ drift settled => settled.drift drift) fun _ _ _ crashed => crashed.elim

/-- Between operations the manager is settled. -/
theorem Fresh.runs_settled (fresh : Fresh w) (tracking : DnsTracking assume B T)
    (dns : T false w.dns) (run : (managerRuns assume rely).Reaches ⟨w, .idle⟩ ⟨w', .idle⟩) :
    Settled T w' :=
  (runs_invariant tracking).idle (s := ⟨w, .idle⟩) (fresh.settled dns) run

/-- And so it is whenever its lock is free. -/
theorem Fresh.runs_guarded (fresh : Fresh w) (tracking : DnsTracking assume B T)
    (dns : T false w.dns)
    {s : Service.State MgrReq MgrResp World ManagerOp (Except EngineManagerError Unit)}
    (run : (managerRuns assume rely).Reaches ⟨w, .idle⟩ s) : Guarded B T s.world :=
  (runs_invariant tracking).busy (s := ⟨w, .idle⟩) (fresh.settled dns) run

end Fresh

/-- `EngineManager::new` leaves a fresh manager, even when an adapter refuses to
be restored. -/
theorem always_newManager_fresh {assume : DnsWorld → (r : DnsReq) → DnsResp r → Prop} {rely : Rely}
    {w : World} (disk : DiskOpen assume) (locked : w.locked = true)
    (none : LiveIn Nowhere w.engines.workers) :
    newManager.Always (managerMachine assume rely) (fun _ _ => True)
      (fun _ w' => Fresh { w' with
        dns := { w'.dns with calls := [], before := fun _ => Option.none } }) w := by
  refine Prog.Always.mono (always_newManager (B := fun _ => True) (T := fun _ _ => True)
    (D := fun d => ∀ state, ¬ LoadsActive d state) (fun _ _ => trivial) locked none
    trivial (always_recover_drops disk .automatic)) (fun _ _ _ => trivial) ?_
  rintro _ w' ⟨inactive, unlocked, none, inner⟩
  exact ⟨unlocked, inner, none, inactive, rfl, fun _ => rfl⟩

/-! ### At most one engine -/

section AtMostOne

variable {inner : ManagerInner} {worker : Worker} {i j : Nat}

theorem ManagerInner.Owns.engine (owned : inner.Owns i worker.config) :
    worker.engine ≠ none ∧ inner.activeEngine = worker.engine := by
  rcases owned with ⟨active, -, name⟩ | ⟨active, -, name⟩
  · simp [Worker.engine, active, name]
  · have other : byedpiName ≠ goodbyeName := by decide
    simp [Worker.engine, active, name, other]

theorem ManagerInner.Owns.unique {c c' : SupervisorConfig} (first : inner.Owns i c)
    (second : inner.Owns j c') : i = j := by
  rcases first with ⟨active, rfl, -⟩ | ⟨active, rfl, -⟩ <;>
    rcases second with ⟨active', rfl, -⟩ | ⟨active', rfl, -⟩
  · rfl
  · simp [active] at active'
  · simp [active] at active'
  · rfl

end AtMostOne

/-- Whenever the lock is free, a worker that is alive or about to be restarted
belongs to the active engine, and there is no second one. -/
theorem at_most_one_engine {w : World}
    {s : Service.State MgrReq MgrResp World ManagerOp (Except EngineManagerError Unit)}
    (fresh : Fresh w)
    (run : (managerRuns (fun _ _ _ => True) .crashes).Reaches ⟨w, .idle⟩ s)
    (free : s.world.locked = false) :
    (∀ (i : Nat) (worker : Worker), s.world.engines.workers[i]? = some worker →
      worker.state.live = true →
        worker.engine ≠ none ∧ s.world.inner.activeEngine = worker.engine) ∧
    (∀ (i j : Nat) (first second : Worker), s.world.engines.workers[i]? = some first →
      s.world.engines.workers[j]? = some second → first.state.live = true →
        second.state.live = true → i = j) ∧
    (s.world.inner.activeEngine = none → ∀ worker ∈ s.world.engines.workers,
      worker.state.live = false) := by
  have settled := (fresh.runs_guarded (dnsTracking_trivial _) trivial run).2 free
  refine ⟨fun i worker found live => (settled.live i worker found live).engine, ?_, ?_⟩
  · intro i j first second foundFirst foundSecond liveFirst liveSecond
    exact (settled.live i first foundFirst liveFirst).unique
      (settled.live j second foundSecond liveSecond)
  · intro none worker member
    obtain ⟨i, found⟩ := List.getElem?_of_mem member
    refine Bool.eq_false_iff.mpr fun live => ?_
    obtain ⟨some, active⟩ := (settled.live i worker found live).engine
    exact some (active.symm.trans none)

theorem freshWorld_fresh : Fresh freshWorld where
  unlocked := rfl
  inner := ⟨0, 1, rfl⟩
  workers := by
    intro i worker found live
    match i, found with
    | 0, found | 1, found =>
        cases found
        cases live
  inactive := fun _ loads => nomatch loads.1
  calls := rfl
  before := fun _ => rfl

-- The definition is unfolded by an equation: compared by unfolding, the run is evaluated.
theorem startedWorld_served {assume : DnsWorld → (r : DnsReq) → DnsResp r → Prop} {rely : Rely}
    {crash : World → World → Prop} {completes : ManagerOp → World → Prop}
    (allowed : ∀ d r, assume d r (kasperskyPc.dnsAnswer findEthernet d r))
    (done : completes (.startEngine .goodbyeDpi "superonline-default") startedWorld) :
    (managerService assume rely crash completes).Reaches ⟨freshWorld, .idle⟩
      ⟨startedWorld, .idle⟩ := by
  rw [startedWorld] at done ⊢
  exact Environment.reaches_serve allowed _ done

theorem startedWorld_reaches :
    (managerRuns (fun _ _ _ => True) .crashes).Reaches ⟨freshWorld, .idle⟩ ⟨startedWorld, .idle⟩ :=
  startedWorld_served (fun _ _ => trivial) trivial

/-- What the example start has led to. -/
structure Started (w : World) : Prop where
  unlocked : w.locked = false
  engine : w.inner.activeEngine = some .goodbyeDpi
  flag : w.inner.kasperskyDnsOverrideApplied = true
  supervisor : w.inner.goodbyeAdapter.supervisor = 2
  worker : w.engines.workers[2]?.map Worker.state = some .alive
  healthy : w.engines.healthy = true
  accepted : lastAccepted w.dns.calls = true
  overridden : w.dns.adapters 2 ≠ firstWorld.dns.adapters 2

-- The one evaluation of the run; everything said of it later is read off here.
theorem startedWorld_started : Started startedWorld := by
  have evaluated : startedWorld.locked = false ∧
      startedWorld.inner.activeEngine = some .goodbyeDpi ∧
      startedWorld.inner.kasperskyDnsOverrideApplied = true ∧
      startedWorld.inner.goodbyeAdapter.supervisor = 2 ∧
      startedWorld.engines.workers[2]?.map Worker.state = some .alive ∧
      startedWorld.engines.healthy = true ∧ lastAccepted startedWorld.dns.calls = true ∧
      startedWorld.dns.adapters 2 ≠ firstWorld.dns.adapters 2 := by
    decide +kernel
  obtain ⟨unlocked, engine, flag, supervisor, worker, healthy, accepted, overridden⟩ := evaluated
  exact ⟨unlocked, engine, flag, supervisor, worker, healthy, accepted, overridden⟩

theorem at_most_one_engine_started :
    startedWorld.inner.activeEngine = some .goodbyeDpi ∧
      ∀ (i : Nat) (worker : Worker), startedWorld.engines.workers[i]? = some worker →
        worker.state.live = true → worker.engine = some .goodbyeDpi := by
  have active := startedWorld_started.engine
  have single := (at_most_one_engine freshWorld_fresh startedWorld_reaches
    startedWorld_started.unlocked).1
  dsimp only at single
  refine ⟨active, fun i worker found live => ?_⟩
  rw [← (single i worker found live).2]
  exact active

end ZonDpi.Manager
