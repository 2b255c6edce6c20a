import ZonDpi.Manager.Runs

/-!
The DNS override over whole runs of the manager.

* When adapter calls succeed, the override lives exactly as long as its engine, and
  a crash between any two effects is repaired by the next boot.
* When adapter calls may be refused, the flag in memory and the snapshot on disk
  agree exactly as long as the last adapter call was accepted: the results of a
  refused restore and of a refused apply after the snapshot has been written are
  dropped.
-/

namespace ZonDpi.Manager

open Effects ZonDpi.Dns ZonDpi.Engine ZonDpi.Supervisor

/-! ### Adapter calls that succeed -/

section Honest

variable {rely : Rely} {w w' : World}

theorem Fresh.clean (fresh : Fresh w) : Clean w.dns w.dns := ⟨rfl, fresh.before, .inr rfl⟩

/-- What the flag of a settled manager says. -/
theorem Settled.flag_iff {base : DnsWorld} (calm : ∀ state, ¬ LoadsActive base state)
    (settled : Settled (Tracked base) w) :
    (w.inner.kasperskyDnsOverrideApplied = true ↔ ∃ i, w.dns.before i ≠ none) ∧
      (w.inner.kasperskyDnsOverrideApplied = true ↔ ∃ state, LoadsActive w.dns state) ∧
      ∀ i, w.dns.before i = none → w.dns.adapters i = base.adapters i := by
  have dns := settled.dns
  cases flag : w.inner.kasperskyDnsOverrideApplied with
  | false =>
      rw [flag] at dns
      have clean : Clean base w.dns := dns
      refine ⟨?_, ?_, fun i _ => congrFun clean.adapters i⟩
      · simp [clean.before]
      · simpa using clean.inactive calm
  | true =>
      rw [flag] at dns
      obtain ⟨state, saved, before⟩ := dns
      refine ⟨?_, ?_, fun i free => ?_⟩
      · exact iff_of_true rfl ⟨state.originalConfig.interfaceIndex, by simp [before]⟩
      · exact iff_of_true rfl ⟨state, saved.loads⟩
      · have other : i ≠ state.originalConfig.interfaceIndex := by
          rintro rfl
          simp [before] at free
        exact (saved.others i other).1

end Honest

/-- The override lives exactly as long as its engine: after every operation the
flag says whether an adapter is overridden and whether there is an active
snapshot, and without it every adapter is as it was before the run. -/
theorem override_lives_with_engine {rely : Rely} {w w' : World} (fresh : Fresh w)
    (run : (managerRuns Honest rely).Reaches ⟨w, .idle⟩ ⟨w', .idle⟩) :
    (w'.inner.kasperskyDnsOverrideApplied = true ↔ ∃ i, w'.dns.before i ≠ none) ∧
    (w'.inner.kasperskyDnsOverrideApplied = true ↔ ∃ state, LoadsActive w'.dns state) ∧
    (w'.inner.kasperskyDnsOverrideApplied = true →
      w'.inner.activeEngine = some .goodbyeDpi) ∧
    (∀ i, w'.dns.before i = none → w'.dns.adapters i = w.dns.adapters i) ∧
    (w'.inner.kasperskyDnsOverrideApplied = false → w'.dns.adapters = w.dns.adapters) := by
  have settled := fresh.runs_settled (dnsTracking_tracked w.dns) fresh.clean run
  obtain ⟨overridden, active, others⟩ := settled.flag_iff fresh.inactive
  refine ⟨overridden, active, settled.flag, others, fun flag => funext fun i => others i ?_⟩
  by_contra changed
  have up := overridden.mpr ⟨i, changed⟩
  simp [flag] at up

/-- The example computer is honest. -/
theorem kasperskyPc_honest (d : DnsWorld) (r : DnsReq) :
    Honest d r (kasperskyPc.dnsAnswer findEthernet d r) := by
  cases r with
  | findActiveOutboundAdapter =>
      show Honest d .findActiveOutboundAdapter (findEthernet d)
      unfold findEthernet
      split
      · rename_i index
        exact congrArg d.adapters index.symm
      · trivial
  | applyDnsServers index v4 v6 => rfl
  | restoreDns config => rfl
  | _ => trivial

theorem startedWorld_honestly {crash : World → World → Prop} :
    (managerService Honest .crashes crash fun _ _ => True).Reaches ⟨freshWorld, .idle⟩
      ⟨startedWorld, .idle⟩ :=
  startedWorld_served kasperskyPc_honest trivial

theorem override_lives_with_engine_started :
    Fresh freshWorld ∧ startedWorld.inner.activeEngine = some .goodbyeDpi ∧
      ∃ i, startedWorld.dns.before i ≠ none := by
  have up := startedWorld_started.flag
  obtain ⟨overridden, -, engine, -⟩ :=
    override_lives_with_engine freshWorld_fresh startedWorld_honestly
  exact ⟨freshWorld_fresh, engine up, overridden.mp up⟩

/-! ### Crashes -/

/-- What a crash of the service leaves: the disk and the adapters. The
supervisors live in the process, and nobody can reach the manager that is built
next before it is complete. -/
def Crashed (w w' : World) : Prop :=
  w'.dns = w.dns ∧ w'.locked = true ∧ w'.engines.workers = []

/-- Runs with a crash between any two effects, each followed by a boot. -/
abbrev crashRuns (rely : Rely) :
    Service MgrReq MgrResp World ManagerOp (Except EngineManagerError Unit) :=
  managerService Honest rely Crashed fun _ _ => True

/-- The service is about to boot for the first time: nothing is overridden and
there is no state file. -/
structure FirstBoot (w : World) : Prop where
  locked : w.locked = true
  workers : w.engines.workers = []
  file : w.dns.stateFile = none
  before : ∀ i, w.dns.before i = none

section Crash

variable {rely : Rely} {w w' : World} {base : DnsWorld}

theorem liveIn_nil {P : Nat → SupervisorConfig → Prop} : LiveIn P [] :=
  fun _ _ found => nomatch found

/-- A boot repairs what is covered. -/
theorem always_newManager_covered (calm : ∀ state, ¬ LoadsActive base state)
    (locked : w.locked = true) (workers : w.engines.workers = []) (covered : Covered base w.dns) :
    newManager.Always (managerMachine Honest rely)
      (fun w _ => Guarded (Covered base) (Tracked base) w)
      (fun _ w' => Settled (Tracked base) w' ∧ Clean base w'.dns) w := by
  refine (always_newManager (D := Clean base) (fun _ => .inl) locked
    (workers ▸ liveIn_nil) covered (always_recover_covered calm covered .automatic)).imp ?_
  rintro _ w' ⟨clean, unlocked, none, goodbye, byedpi, new⟩
  refine ⟨⟨unlocked, none.mono fun _ _ => False.elim, by rw [new]; exact clean, ?_⟩, clean⟩
  simp [new, ManagerInner.new]

theorem crash_invariant (calm : ∀ state, ¬ LoadsActive base state) :
    (crashRuns rely).Invariant (Settled (Tracked base)) (Guarded (Covered base) (Tracked base))
      fun w => Settled (Tracked base) w ∧ Clean base w.dns := by
  refine settled_invariant (dnsTracking_tracked base) (fun _ known => known.1) ?_ ?_
  · rintro w w' drift ⟨settled, clean⟩
    refine ⟨settled.drift drift, ?_⟩
    obtain ⟨workers, provider, -, -, rfl⟩ := drift
    exact clean
  · rintro w w' guarded ⟨dns, locked, workers⟩
    exact always_newManager_covered calm locked workers (dns ▸ guarded.1)

end Crash

/-- In every reachable state an adapter that differs from its original
configuration has it in a loadable active snapshot, and after every boot all
adapters have their original configuration and no state file is left. -/
theorem crash_recovery {rely : Rely} {w : World}
    {s : Service.State MgrReq MgrResp World ManagerOp (Except EngineManagerError Unit)}
    (first : FirstBoot w)
    (run : (crashRuns rely).Reaches ⟨w, .booting (crashRuns rely).boot⟩ s) :
    (∀ i, s.world.dns.adapters i ≠ w.dns.adapters i →
      ∃ state, LoadsActive s.world.dns state ∧ state.originalConfig = w.dns.adapters i) ∧
    (∀ result, s.activity = .booting (.pure result) →
      s.world.dns.adapters = w.dns.adapters ∧ s.world.dns.stateFile = none) := by
  have calm (state : DnsOverrideState) : ¬ LoadsActive w.dns state := by
    rintro ⟨file, -⟩
    simp [first.file] at file
  have start : (crashRuns rely).Holds (Settled (Tracked w.dns))
      (Guarded (Covered w.dns) (Tracked w.dns))
      (fun w' => Settled (Tracked w.dns) w' ∧ Clean w.dns w'.dns)
      ⟨w, .booting (crashRuns rely).boot⟩ :=
    (always_newManager_covered calm first.locked first.workers
      (.inl ⟨rfl, first.before, .inr rfl⟩)).bind fun _ _ known => known
  refine ⟨fun i differs => ((crash_invariant calm).busy start run).1.snapshot differs, ?_⟩
  obtain ⟨w', activity⟩ := s
  rintro result rfl
  have clean := ((crash_invariant calm).booted start run).2
  exact ⟨clean.adapters, clean.file.elim id fun same => same.trans first.file⟩

/-- The example computer loses power while the override is in force. -/
def crashedWorld : World := { startedWorld with locked := true, engines := ⟨[], false⟩ }

theorem crash_recovery_started :
    FirstBoot firstWorld ∧ crashedWorld.dns.adapters 2 ≠ firstWorld.dns.adapters 2 ∧
      ∃ state, LoadsActive crashedWorld.dns state ∧
        state.originalConfig = firstWorld.dns.adapters 2 := by
  have first : FirstBoot firstWorld := ⟨rfl, rfl, rfl, fun _ => rfl⟩
  -- for any world, so that the run behind this one is not evaluated
  have loses (w : World) : Crashed w { w with locked := true, engines := ⟨[], false⟩ } :=
    ⟨rfl, rfl, rfl⟩
  have crashed : Crashed startedWorld crashedWorld := by
    rw [crashedWorld]
    exact loses startedWorld
  have differs : crashedWorld.dns.adapters 2 ≠ firstWorld.dns.adapters 2 := by
    rw [crashed.1]
    exact startedWorld_started.overridden
  have boot : (crashRuns .crashes).Reaches ⟨firstWorld, .booting (crashRuns .crashes).boot⟩
      ⟨freshWorld, .booting (.pure (.ok ()))⟩ :=
    Service.reaches_booted (Environment.ends_run kasperskyPc_honest .crashes _)
  have run : (crashRuns .crashes).Reaches ⟨firstWorld, .booting (crashRuns .crashes).boot⟩
      ⟨crashedWorld, .booting (crashRuns .crashes).boot⟩ :=
    ((boot.tail .bootFinish).trans startedWorld_honestly).tail (.crash crashed)
  have saved := (crash_recovery first run).1
  dsimp only at saved
  exact ⟨first, differs, saved 2 differs⟩

/-! ### Adapter calls that may be refused -/

section Refused

variable {w : World}

/-- The flag of a settled manager and the snapshot agree exactly when the last
adapter call was accepted. -/
theorem Settled.agrees_iff (settled : Settled Refused w) :
    ((∃ state, LoadsActive w.dns state) → w.inner.kasperskyDnsOverrideApplied = true) ↔
      lastAccepted w.dns.calls = true := by
  have dns := settled.dns
  cases flag : w.inner.kasperskyDnsOverrideApplied with
  | false =>
      rw [flag] at dns
      have active : (∃ state, LoadsActive w.dns state) ↔ lastAccepted w.dns.calls = false := dns
      rw [active]
      cases lastAccepted w.dns.calls <;> simp
  | true =>
      rw [flag] at dns
      simpa using dns.1

theorem Fresh.refused (fresh : Fresh w) : Refused false w.dns := by
  refine iff_of_false (not_exists.mpr fresh.inactive) ?_
  simp [fresh.calls, lastAccepted]

end Refused

/-- After every operation, and after a stop in particular, the flag knows of an
active snapshot exactly when the last adapter call was accepted. -/
theorem flag_agrees_iff_accepted {rely : Rely} {w w' : World} (fresh : Fresh w)
    (run : (managerRuns (fun _ _ _ => True) rely).Reaches ⟨w, .idle⟩ ⟨w', .idle⟩) :
    (((∃ state, LoadsActive w'.dns state) → w'.inner.kasperskyDnsOverrideApplied = true) ↔
      lastAccepted w'.dns.calls = true) ∧
    ∀ result w'', stopEngine.Ends (managerMachine (fun _ _ _ => True) rely) w'.accept result w'' →
      ((∀ state, ¬ LoadsActive w''.dns state) ↔ lastAccepted w''.dns.calls = true) := by
  have settled := fresh.runs_settled dnsTracking_refused fresh.refused run
  refine ⟨settled.agrees_iff, fun result w'' ends => ?_⟩
  obtain ⟨stopped, -, -, published⟩ :=
    (always_stopEngine dnsTracking_refused settled.accept).ends ends
  rw [← stopped.agrees_iff, published.flag]
  simp

/-- An adapter that refuses to be changed. -/
def refusingPc : Environment :=
  { kasperskyPc with
    applied := .error (.commandFailed "access denied")
    restored := .error (.commandFailed "access denied") }

/-- A start whose override is refused after the snapshot has been written. -/
def refusedWorld : World :=
  (refusingPc.serve findEthernet freshWorld (.startEngine .goodbyeDpi "superonline-default")).2

theorem refused_override_left_behind :
    ¬ ∀ w w', Fresh w →
      (managerRuns (fun _ _ _ => True) .crashes).Reaches ⟨w, .idle⟩ ⟨w', .idle⟩ →
        (∃ state, LoadsActive w'.dns state) → w'.inner.kasperskyDnsOverrideApplied = true := by
  intro law
  have run : (managerRuns (fun _ _ _ => True) .crashes).Reaches ⟨freshWorld, .idle⟩
      ⟨refusedWorld, .idle⟩ := by
    rw [refusedWorld]
    exact Environment.reaches_serve (fun _ _ => trivial) _ trivial
  have evaluated : refusedWorld.dns.stateFile =
        some (.json (.ofProvider (some 0) exampleAdapter .automatic)) ∧
      refusedWorld.inner.kasperskyDnsOverrideApplied = false := by
    decide +kernel
  obtain ⟨file, down⟩ := evaluated
  have up := law _ _ freshWorld_fresh run
    ⟨_, file, DnsOverrideState.validate_ofProvider.mpr exampleAdapter_valid, rfl⟩
  exact Bool.false_ne_true (down.symm.trans up)

theorem flag_agrees_iff_accepted_started :
    Fresh freshWorld ∧ lastAccepted startedWorld.dns.calls = true ∧
      ((∃ state, LoadsActive startedWorld.dns state) →
        startedWorld.inner.kasperskyDnsOverrideApplied = true) := by
  have accepted := startedWorld_started.accepted
  have agrees := (flag_agrees_iff_accepted freshWorld_fresh startedWorld_reaches).1
  exact ⟨freshWorld_fresh, accepted, agrees.mpr accepted⟩

end ZonDpi.Manager
