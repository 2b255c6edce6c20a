import ZonDpi.Dns.World

/-!
The life of a snapshot: what the controller's operations do to `dns_state.json`.

Two laws one would like, and where each of them ends:

* a snapshot that is removed or replaced has been restored first. Each of the
  three operations that end a snapshot's life has its own exception;
* the snapshot holds the configuration from before the override. `apply_dns`
  takes its snapshot from the live adapter, so a second override before a
  restore loses the first snapshot unless both configurations are equal.
-/

namespace ZonDpi.Dns

open Effects

/-! ### Runs with given adapter outcomes -/

/-- The clock and the answers of the adapter operations during one operation. -/
structure AdapterOutcomes where
  clock : Option Nat
  find : DnsWorld → Except DnsManagerError AdapterDnsConfig
  apply : Except DnsManagerError Unit
  restore : Except DnsManagerError Unit

namespace AdapterOutcomes

/-- File operations succeed; the rest is as given. -/
def answer (outcomes : AdapterOutcomes) (w : DnsWorld) : (r : DnsReq) → DnsResp r
  | .isFile => w.stateFile.isSome
  | .readToString => readFile w.stateFile
  | .createDirAll | .writeTmp _ | .rename | .removeFile => .ok ()
  | .unixTime => outcomes.clock
  | .findActiveOutboundAdapter => outcomes.find w
  | .applyDnsServers _ _ _ => outcomes.apply
  | .restoreDns _ => outcomes.restore

def handler (outcomes : AdapterOutcomes) : Prog.Handler DnsReq DnsResp DnsWorld where
  answer := outcomes.answer
  effect := DnsWorld.effect

def machine (outcomes : AdapterOutcomes) : Machine DnsReq DnsResp DnsWorld :=
  dnsMachine fun w r x => x = outcomes.answer w r

variable {outcomes : AdapterOutcomes}

theorem diskOpen : DiskOpen fun w r x => x = outcomes.answer w r :=
  ⟨fun _ => rfl, fun _ => rfl, fun _ => rfl⟩

theorem handler_machine : outcomes.handler.machine = outcomes.machine := by
  funext w r x w'
  refine propext ⟨?_, fun ⟨_, given, effect⟩ => ⟨given, effect⟩⟩
  rintro ⟨rfl, rfl⟩
  refine ⟨?_, rfl, rfl⟩
  cases r <;> trivial

/-- A run of a program, from what the rules say about it. -/
theorem run_of_always {α : Type} {p : DnsProg α} {w : DnsWorld} {post : α → DnsWorld → Prop}
    (always : p.Always outcomes.machine (fun _ _ => True) post w) :
    post (p.run outcomes.handler w).1 (p.run outcomes.handler w).2 := by
  rw [← handler_machine] at always
  exact Prog.always_run_iff.mp always

/-- Saving a valid state, when the file operations succeed. -/
theorem always_save {state : DnsOverrideState} (valid : state.validate = .ok ())
    {guard : DnsWorld → DnsReq → Prop} {post : Except DnsManagerError Unit → DnsWorld → Prop}
    {w : DnsWorld} :
    (saveState state).Always outcomes.machine guard post w ↔
      guard w .createDirAll ∧ guard w (.writeTmp (.json state)) ∧
        guard { w with tmpFile := some (.json state) } .rename ∧
        post (.ok ()) { w with stateFile := some (.json state), tmpFile := none } := by
  simp only [saveState, valid, createDirAll, writeTmp, rename, viaIo, machine, Prog.always_andThen,
    Prog.always_bind, Prog.always_pure]
  rw [always_call .createDirAll fun _ => trivial]
  simp only [answer, forall_eq, Except.mapError]
  rw [always_call (.writeTmp (.json state)) fun _ => trivial]
  simp only [forall_eq]
  rw [always_call .rename fun _ => trivial]
  simp [DnsWorld.effect]

/-- The adapter operations of `ops`, when their outcomes are given. -/
theorem always_find {guard : DnsWorld → DnsReq → Prop}
    {post : Except DnsManagerError AdapterDnsConfig → DnsWorld → Prop} {w : DnsWorld} :
    findActiveOutboundAdapter.Always outcomes.machine guard post w ↔
      guard w .findActiveOutboundAdapter ∧ post (outcomes.find w) w := by
  rw [machine, always_findActiveOutboundAdapter]
  simp [answer]

theorem always_restore {config : AdapterDnsConfig} {guard : DnsWorld → DnsReq → Prop}
    {post : Except DnsManagerError Unit → DnsWorld → Prop} {w : DnsWorld} :
    (opsRestoreDns config).Always outcomes.machine guard post w ↔
      guard w (.restoreDns config) ∧
        post outcomes.restore (w.effect (.restoreDns config) outcomes.restore) := by
  rw [machine, always_opsRestoreDns]
  simp [answer]

theorem always_clock {guard : DnsWorld → DnsReq → Prop} {post : Option Nat → DnsWorld → Prop}
    {w : DnsWorld} :
    unixTime.Always outcomes.machine guard post w ↔
      guard w .unixTime ∧ post outcomes.clock w := by
  rw [machine, always_unixTime]
  simp [answer]

theorem always_apply {index : Nat} {v4 v6 : List String} {guard : DnsWorld → DnsReq → Prop}
    {post : Except DnsManagerError Unit → DnsWorld → Prop} {w : DnsWorld} :
    (applyDnsServers index v4 v6).Always outcomes.machine guard post w ↔
      guard w (.applyDnsServers index v4 v6) ∧
        post outcomes.apply (w.effect (.applyDnsServers index v4 v6) outcomes.apply) := by
  rw [machine, always_applyDnsServers]
  simp [answer]

section ApplyDns

variable {provider : DnsProvider} {guard : DnsWorld → DnsReq → Prop} {w : DnsWorld}
  {post : Except DnsManagerError DnsOverrideState → DnsWorld → Prop}

/-- The system provider changes nothing. -/
theorem always_applyDns_system (system : provider.shouldOverrideSystem = false)
    (guards : guard w .findActiveOutboundAdapter ∧ guard w .unixTime)
    (unchanged : ∀ result, post result w) :
    (applyDns provider).Always outcomes.machine guard post w := by
  simp only [applyDns, system, Bool.not_false, if_true, Prog.always_andThen, always_find]
  refine ⟨guards.1, ?_⟩
  cases outcomes.find w with
  | error e => exact unchanged _
  | ok adapter => simpa [always_clock] using ⟨guards.2, unchanged _⟩

/-- Without an adapter whose configuration is valid nothing is saved or applied. -/
theorem always_applyDns_unsaved (overrides : provider.shouldOverrideSystem = true)
    (unsaved : ∀ adapter, outcomes.find w = .ok adapter → adapter.validate ≠ .ok ())
    (guards : guard w .findActiveOutboundAdapter ∧ guard w .unixTime)
    (unchanged : ∀ result, post result w) :
    (applyDns provider).Always outcomes.machine guard post w := by
  simp only [applyDns, overrides, Bool.not_true, Bool.false_eq_true, if_false,
    Prog.always_andThen, always_find]
  refine ⟨guards.1, ?_⟩
  cases found : outcomes.find w with
  | error e => exact unchanged _
  | ok adapter =>
      simp only [Prog.always_bind, always_clock]
      refine ⟨guards.2, ?_⟩
      cases invalid : (DnsOverrideState.ofProvider outcomes.clock adapter provider).validate with
      | error e =>
          rw [Prog.always_andThen, machine]
          exact (always_saveState_invalid invalid).mpr (unchanged _)
      | ok passed =>
          exact absurd (DnsOverrideState.validate_ofProvider.mp invalid) (unsaved adapter found)

/-- With a valid configuration the snapshot replaces the state file, and then
the adapter is asked. -/
theorem always_applyDns_saved (overrides : provider.shouldOverrideSystem = true)
    {adapter : AdapterDnsConfig} (found : outcomes.find w = .ok adapter)
    (valid : adapter.validate = .ok ()) :
    let state := DnsOverrideState.ofProvider outcomes.clock adapter provider
    let saved := { w with stateFile := some (.json state), tmpFile := none }
    let call := DnsReq.applyDnsServers adapter.interfaceIndex provider.endpointsV4
      provider.endpointsV6
    (applyDns provider).Always outcomes.machine guard post w ↔
      guard w .findActiveOutboundAdapter ∧ guard w .unixTime ∧ guard w .createDirAll ∧
        guard w (.writeTmp (.json state)) ∧
        guard { w with tmpFile := some (.json state) } .rename ∧ guard saved call ∧
        post (outcomes.apply.map fun _ => state) (saved.effect call outcomes.apply) := by
  intro state saved call
  have stateValid : state.validate = .ok () := DnsOverrideState.validate_ofProvider.mpr valid
  have fresh : DnsOverrideState.new outcomes.clock adapter provider.endpointsV4
      provider.endpointsV6 provider = state := rfl
  simp only [applyDns, overrides, Bool.not_true, Bool.false_eq_true, if_false,
    Prog.always_andThen, always_find, found, Prog.always_bind, always_clock, fresh,
    always_save stateValid, always_apply, Prog.always_pure]
  cases outcomes.apply <;> simp [saved, call, Except.map]

end ApplyDns

end AdapterOutcomes

/-! ### No snapshot is dropped before it is restored -/

/-- An active snapshot is removed or replaced only after `ops.restore_dns`
accepted its original configuration. -/
def DropsOnlyRestored (w : DnsWorld) (r : DnsReq) : Prop :=
  r = .removeFile ∨ r = .rename → ∀ state, w.activeOverride = some state →
    (.restore state.originalConfig, true) ∈ w.calls

/-- The program drops no active snapshot unrestored, and after a refused restore
the state file is the one it found. -/
def KeepsSnapshot {α : Type} (outcomes : AdapterOutcomes) (p : DnsProg α) (w : DnsWorld) : Prop :=
  p.Always outcomes.machine DropsOnlyRestored
    (fun _ w' => (∃ config, (.restore config, false) ∈ w'.calls) → w'.stateFile = w.stateFile) w

/-- `load_state` returns this active snapshot. -/
def LoadsActive (w : DnsWorld) (state : DnsOverrideState) : Prop :=
  w.stateFile = some (.json state) ∧ state.validate = .ok () ∧ state.dnsOverrideActive = true

section Keeps

variable {outcomes : AdapterOutcomes} {w : DnsWorld}

theorem dropsOnlyRestored_of_ne {r : DnsReq} (remove : r ≠ .removeFile) (rename : r ≠ .rename) :
    DropsOnlyRestored w r := by
  rintro (eq | eq)
  · exact absurd eq remove
  · exact absurd eq rename

theorem dropsOnlyRestored_removeFile {state : DnsOverrideState}
    (file : w.stateFile = some (.json state)) :
    DropsOnlyRestored w .removeFile ↔
      (state.dnsOverrideActive = true → (.restore state.originalConfig, true) ∈ w.calls) := by
  simp [DropsOnlyRestored, DnsWorld.activeOverride, file]

/-- Loading a state, as both recovery and restore begin. -/
theorem keeps_load {α : Type}
    {k : Option DnsOverrideState → DnsProg (Except DnsManagerError α)}
    {post : Except DnsManagerError α → DnsWorld → Prop} :
    (loadState.andThen k).Always outcomes.machine DropsOnlyRestored post w ↔
      match loadResult w.stateFile with
      | .error e => post (.error e) w
      | .ok loaded => (k loaded).Always outcomes.machine DropsOnlyRestored post w := by
  have look : DropsOnlyRestored w .isFile := dropsOnlyRestored_of_ne (by simp) (by simp)
  have read : DropsOnlyRestored w .readToString := dropsOnlyRestored_of_ne (by simp) (by simp)
  rw [Prog.always_andThen, AdapterOutcomes.machine, always_loadState AdapterOutcomes.diskOpen]
  simp only [look, read, implies_true, true_and]
  cases loadResult w.stateFile <;> exact Iff.rfl

/-- Clearing the state file. -/
theorem keeps_clear {post : Except DnsManagerError Unit → DnsWorld → Prop} :
    clearState.Always outcomes.machine DropsOnlyRestored post w ↔
      (w.stateFile.isSome → DropsOnlyRestored w .removeFile) ∧
        post (.ok ()) { w with stateFile := none } := by
  have look : DropsOnlyRestored w .isFile := dropsOnlyRestored_of_ne (by simp) (by simp)
  rw [AdapterOutcomes.machine, always_clearState AdapterOutcomes.diskOpen]
  simp only [look, true_and]

theorem LoadsActive.forall_iff {state : DnsOverrideState} (loads : LoadsActive w state)
    {P : DnsOverrideState → Prop} : (∀ state, LoadsActive w state → P state) ↔ P state := by
  refine ⟨fun all => all state loads, fun known other otherLoads => ?_⟩
  obtain rfl : state = other := by simpa [loads.1] using otherLoads.1
  exact known

/-- Loading an active snapshot. -/
theorem LoadsActive.always_load {α : Type} {state : DnsOverrideState}
    {assume : DnsWorld → (r : DnsReq) → DnsResp r → Prop} {guard : DnsWorld → DnsReq → Prop}
    (disk : DiskOpen assume) (loads : LoadsActive w state) (guards : ∀ r, guard w r)
    {k : Option DnsOverrideState → DnsProg (Except DnsManagerError α)}
    {post : Except DnsManagerError α → DnsWorld → Prop}
    (rest : (k (some state)).Always (dnsMachine assume) guard post w) :
    (loadState.andThen k).Always (dnsMachine assume) guard post w := by
  have loaded : loadResult w.stateFile = .ok (some state) :=
    loadResult_eq_some.mpr ⟨loads.1, loads.2.1⟩
  rw [Prog.always_andThen, always_loadState disk, loaded]
  exact ⟨guards _, fun _ => guards _, rest⟩

/-- Either `load_state` returns an active snapshot, or what it returns is an
error, nothing, or an inactive state. -/
theorem loadResult_cases (w : DnsWorld) :
    (∃ state, LoadsActive w state ∧ loadResult w.stateFile = .ok (some state)) ∨
      (∀ state, ¬ LoadsActive w state) ∧
        ((∃ e, loadResult w.stateFile = .error e) ∨ loadResult w.stateFile = .ok none ∨
          ∃ state, loadResult w.stateFile = .ok (some state) ∧
            state.dnsOverrideActive = false) := by
  have loads {state : DnsOverrideState} (active : LoadsActive w state) :
      loadResult w.stateFile = .ok (some state) :=
    loadResult_eq_some.mpr ⟨active.1, active.2.1⟩
  cases loaded : loadResult w.stateFile with
  | error e =>
      exact .inr ⟨fun state active => by simpa [loaded] using loads active, .inl ⟨e, rfl⟩⟩
  | ok found =>
      cases found with
      | none =>
          exact .inr ⟨fun state active => by simpa [loaded] using loads active, .inr (.inl rfl)⟩
      | some state =>
          obtain ⟨file, valid⟩ := loadResult_eq_some.mp loaded
          cases flag : state.dnsOverrideActive with
          | true => exact .inl ⟨state, ⟨file, valid, flag⟩, rfl⟩
          | false =>
              refine .inr ⟨fun other active => ?_, .inr (.inr ⟨state, rfl, flag⟩)⟩
              obtain rfl : state = other := by simpa [loaded] using loads active
              simp [active.2.2] at flag

/-- `restore_dns` keeps the law exactly when an active snapshot it loads was
taken for an overriding provider. -/
theorem keepsSnapshot_restoreDns (fresh : w.calls = []) :
    KeepsSnapshot outcomes restoreDns w ↔
      ∀ state, LoadsActive w state → state.provider.shouldOverrideSystem = true := by
  rw [KeepsSnapshot, restoreDns, keeps_load]
  rcases loadResult_cases w with ⟨state, loads, loaded⟩ | ⟨none, ⟨e, loaded⟩ | loaded | inactive⟩
  · rw [loads.forall_iff, loaded]
    obtain ⟨file, -, active⟩ := loads
    have ask : DropsOnlyRestored w (.restoreDns state.originalConfig) :=
      dropsOnlyRestored_of_ne (by simp) (by simp)
    cases overrides : state.provider.shouldOverrideSystem with
    | true =>
        cases answered : outcomes.restore with
        | error e =>
            simp [active, overrides, AdapterOutcomes.always_restore, ask, answered,
              DnsWorld.effect, DnsWorld.refuse]
        | ok done =>
            simp [active, overrides, AdapterOutcomes.always_restore, answered, DnsWorld.effect,
              DnsWorld.restore, keeps_clear, fresh, DropsOnlyRestored, file,
              DnsWorld.activeOverride]
    | false =>
        simp [active, overrides, keeps_clear, file, fresh, dropsOnlyRestored_removeFile file]
  · simp [loaded, none]
  · simp [loaded, none]
  · obtain ⟨state, loaded, inactive⟩ := inactive
    obtain ⟨file, -⟩ := loadResult_eq_some.mp loaded
    simp [loaded, none, inactive, keeps_clear, dropsOnlyRestored_removeFile file, fresh]

/-- Boot recovery without resume keeps the law exactly when the restore it asks
for is accepted. -/
theorem keepsSnapshot_recover (fresh : w.calls = []) (provider : DnsProvider) :
    KeepsSnapshot outcomes (handleBootRecovery false provider) w ↔
      ∀ state, LoadsActive w state → outcomes.restore = .ok () := by
  rw [KeepsSnapshot, handleBootRecovery, keeps_load]
  rcases loadResult_cases w with ⟨state, loads, loaded⟩ | ⟨none, ⟨e, loaded⟩ | loaded | inactive⟩
  · rw [loads.forall_iff, loaded]
    obtain ⟨file, -, active⟩ := loads
    cases answered : outcomes.restore with
    | error e =>
        simp [active, AdapterOutcomes.always_restore, answered, DnsWorld.effect,
          DnsWorld.refuse, keeps_clear, fresh, DropsOnlyRestored, file, DnsWorld.activeOverride]
    | ok done =>
        simp [active, AdapterOutcomes.always_restore, answered, DnsWorld.effect,
          DnsWorld.restore, keeps_clear, fresh, DropsOnlyRestored, file, DnsWorld.activeOverride]
  · simp [loaded, none]
  · simp [loaded, none]
  · obtain ⟨state, loaded, inactive⟩ := inactive
    simp [loaded, none, inactive]

/-- Boot recovery with resume keeps the law exactly when it does not get as far
as saving a new snapshot. -/
theorem keepsSnapshot_resume (fresh : w.calls = []) (provider : DnsProvider) :
    KeepsSnapshot outcomes (handleBootRecovery true provider) w ↔
      ∀ state, LoadsActive w state → provider.shouldOverrideSystem = true →
        ∀ adapter, outcomes.find w = .ok adapter → adapter.validate ≠ .ok () := by
  rw [KeepsSnapshot, handleBootRecovery, keeps_load]
  rcases loadResult_cases w with ⟨state, loads, loaded⟩ | ⟨none, ⟨e, loaded⟩ | loaded | inactive⟩
  · rw [loads.forall_iff, loaded]
    obtain ⟨file, -, active⟩ := loads
    have look : DropsOnlyRestored w .findActiveOutboundAdapter ∧ DropsOnlyRestored w .unixTime :=
      ⟨dropsOnlyRestored_of_ne (by simp) (by simp), dropsOnlyRestored_of_ne (by simp) (by simp)⟩
    simp only [active, Bool.not_true, Bool.false_eq_true, if_false, Prog.always_andThen]
    cases overrides : provider.shouldOverrideSystem with
    | false =>
        refine iff_of_true (AdapterOutcomes.always_applyDns_system overrides look ?_) (by simp)
        rintro (e | state) <;> simp
    | true =>
        constructor
        · intro keeps _ adapter found valid
          obtain ⟨-, -, -, -, replaced, -⟩ :=
            (AdapterOutcomes.always_applyDns_saved overrides found valid).mp keeps
          have dropped := replaced (.inr rfl) state
            (by simp [DnsWorld.activeOverride, file, active])
          simp [fresh] at dropped
        · intro unsaved
          refine AdapterOutcomes.always_applyDns_unsaved overrides (unsaved rfl) look ?_
          rintro (e | state) <;> simp
  · simp [loaded, none]
  · simp [loaded, none]
  · obtain ⟨state, loaded, inactive⟩ := inactive
    simp [loaded, none, inactive]

end Keeps

/-- The exact conditions under which no snapshot is lost, one for each operation
that can end a snapshot's life. -/
theorem keepsSnapshot_iff (outcomes : AdapterOutcomes) (w : DnsWorld) (fresh : w.calls = []) :
    (KeepsSnapshot outcomes restoreDns w ↔
      ∀ state, LoadsActive w state → state.provider.shouldOverrideSystem = true) ∧
    (∀ provider, KeepsSnapshot outcomes (handleBootRecovery false provider) w ↔
      ∀ state, LoadsActive w state → outcomes.restore = .ok ()) ∧
    (∀ provider, KeepsSnapshot outcomes (handleBootRecovery true provider) w ↔
      ∀ state, LoadsActive w state → provider.shouldOverrideSystem = true →
        ∀ adapter, outcomes.find w = .ok adapter → adapter.validate ≠ .ok ()) :=
  ⟨keepsSnapshot_restoreDns fresh, keepsSnapshot_recover fresh, keepsSnapshot_resume fresh⟩

/-- The world after a crash during an override of the example adapter. -/
def overriddenWorld : DnsWorld where
  stateFile := some (.json (.ofProvider (some 0) exampleAdapter .cloudflare))
  tmpFile := none
  adapters := fun _ => exampleAdapter.withServers
    DnsProvider.cloudflare.endpointsV4 DnsProvider.cloudflare.endpointsV6
  before := fun _ => some exampleAdapter
  calls := []

/-- An adapter that refuses every change, as while it is being reconfigured. -/
def refusing : AdapterOutcomes where
  clock := some 1
  find := fun w => .ok (w.adapters 2)
  apply := .error (.commandFailed "access denied")
  restore := .error (.commandFailed "access denied")

theorem overriddenWorld_loads :
    LoadsActive overriddenWorld (.ofProvider (some 0) exampleAdapter .cloudflare) :=
  ⟨rfl, DnsOverrideState.validate_ofProvider.mpr exampleAdapter_valid, rfl⟩

/-- A restore that fails at boot: the snapshot is gone, the override stays. -/
theorem failed_boot_restore_drops_snapshot :
    ¬ ∀ outcomes w, w.calls = [] → KeepsSnapshot outcomes restoreDns w ∧
      ∀ resume provider, KeepsSnapshot outcomes (handleBootRecovery resume provider) w := by
  intro law
  have kept := (law refusing overriddenWorld rfl).2 false .automatic
  exact nomatch (keepsSnapshot_recover rfl _).mp kept _ overriddenWorld_loads

theorem keepsSnapshot_iff_overridden :
    overriddenWorld.calls = [] ∧ KeepsSnapshot refusing restoreDns overriddenWorld :=
  ⟨rfl, (keepsSnapshot_iff refusing overriddenWorld rfl).1.mpr
    (overriddenWorld_loads.forall_iff.mpr rfl)⟩

example :
    let after := ((handleBootRecovery false .automatic).run refusing.handler overriddenWorld).2
    after.stateFile = none ∧ after.adapters 2 = overriddenWorld.adapters 2 := by decide

end ZonDpi.Dns
