import ZonDpi.Dns.Snapshot

/-!
What a snapshot holds, over whole sequences of controller operations.

One adapter, every adapter and file operation succeeds. The snapshot in
`dns_state.json` is the configuration from before the override as long as no
override is applied on top of another: `apply_dns` and a resuming
`handle_boot_recovery` snapshot the live adapter, which by then has the override.
-/

namespace ZonDpi.Dns

open Effects

/-- Every operation succeeds; the outbound adapter is the one with this index. -/
def succeeding (index : Nat) (clock : Option Nat) : AdapterOutcomes where
  clock := clock
  find := fun w => .ok (w.adapters index)
  apply := .ok ()
  restore := .ok ()

/-- One operation, with what the clock reads during it. -/
abbrev TimedOp : Type := ControllerOp × Option Nat

def serve (index : Nat) (w : DnsWorld) (op : TimedOp) : DnsWorld :=
  (op.1.program.run (succeeding index op.2).handler w).2

/-- An active snapshot is the configuration from before the first override not
restored since, and `restore_dns` returns the adapter to it. -/
def HoldsOriginal (index : Nat) (w : DnsWorld) : Prop :=
  ∀ state, w.activeOverride = some state →
    w.before index = some state.originalConfig ∧
      ∀ clock, (serve index w (.restoreDns, clock)).adapters index = state.originalConfig

/-- Operations that override when they find an adapter to override. -/
def ControllerOp.overrides : ControllerOp → Bool
  | .applyDns provider | .handleBootRecovery true provider => provider.shouldOverrideSystem
  | _ => false

/-- An operation that overrides on top of an active snapshot finds the adapter
with the configuration of that snapshot. -/
def Harmless (index : Nat) (w : DnsWorld) (op : TimedOp) : Prop :=
  ∀ state, w.activeOverride = some state → op.1.overrides = true →
    w.adapters index = state.originalConfig

/-! ### The two kinds of worlds of such a run -/

structure Unoverridden (index : Nat) (w : DnsWorld) : Prop where
  inactive : w.activeOverride = none
  before : w.before index = none
  indexed : (w.adapters index).interfaceIndex = index

structure Overridden (index : Nat) (state : DnsOverrideState) (w : DnsWorld) : Prop where
  loads : LoadsActive w state
  provider : state.provider.shouldOverrideSystem = true
  original : state.originalConfig.interfaceIndex = index
  before : w.before index = some state.originalConfig
  indexed : (w.adapters index).interfaceIndex = index
  valid : (w.adapters index).validate = .ok ()

section Steps

variable {index : Nat} {w : DnsWorld} {state : DnsOverrideState}

theorem LoadsActive.activeOverride (loads : LoadsActive w state) :
    w.activeOverride = some state := by
  simp [DnsWorld.activeOverride, loads.1, loads.2.2]

theorem Unoverridden.not_loads (clean : Unoverridden index w) (state : DnsOverrideState) :
    ¬ LoadsActive w state := fun loads => by
  simpa [clean.inactive] using loads.activeOverride

theorem discard_always {α : Type} {p : DnsProg (Except DnsManagerError α)}
    {outcomes : AdapterOutcomes} {P : DnsWorld → Prop}
    (always : p.Always outcomes.machine (fun _ _ => True) (fun _ w' => P w') w) :
    (discard p).Always outcomes.machine (fun _ _ => True) (fun _ w' => P w') w :=
  always.bind fun _ _ known => known

/-- What an operation does to the world, from the rules for its program. -/
theorem serve_restoreDns (P : DnsWorld → Prop) {clock : Option Nat}
    (always : restoreDns.Always (succeeding index clock).machine (fun _ _ => True)
      (fun _ w' => P w') w) : P (serve index w (.restoreDns, clock)) :=
  AdapterOutcomes.run_of_always always

theorem serve_applyDns (P : DnsWorld → Prop) {provider : DnsProvider} {clock : Option Nat}
    (always : (applyDns provider).Always (succeeding index clock).machine (fun _ _ => True)
      (fun _ w' => P w') w) : P (serve index w (.applyDns provider, clock)) :=
  AdapterOutcomes.run_of_always (discard_always always)

theorem serve_handleBootRecovery (P : DnsWorld → Prop) {resume : Bool} {provider : DnsProvider}
    {clock : Option Nat}
    (always : (handleBootRecovery resume provider).Always (succeeding index clock).machine
      (fun _ _ => True) (fun _ w' => P w') w) :
    P (serve index w (.handleBootRecovery resume provider, clock)) :=
  AdapterOutcomes.run_of_always (discard_always always)

/-- The world without its state file. -/
theorem Unoverridden.clear (clean : Unoverridden index w) :
    Unoverridden index { w with stateFile := none } :=
  ⟨rfl, clean.before, clean.indexed⟩

/-- The world after a restore of the snapshot and removal of the file. -/
theorem Overridden.clear_restore (overridden : Overridden index state w) :
    let after := { w.restore state.originalConfig with stateFile := none }
    Unoverridden index after ∧ after.adapters index = state.originalConfig := by
  obtain rfl := overridden.original
  refine ⟨⟨rfl, ?_, ?_⟩, ?_⟩ <;> simp [DnsWorld.restore]

/-- The world in which a new snapshot has been saved and its servers applied. -/
def DnsWorld.overrideWith (w : DnsWorld) (index : Nat) (clock : Option Nat)
    (provider : DnsProvider) : DnsWorld :=
  DnsWorld.apply
    { w with
      stateFile := some (.json (.ofProvider clock (w.adapters index) provider))
      tmpFile := none }
    index provider.endpointsV4 provider.endpointsV6

theorem overrideWith_overridden {clock : Option Nat} {provider : DnsProvider}
    (overrides : provider.shouldOverrideSystem = true)
    (indexed : (w.adapters index).interfaceIndex = index)
    (valid : (w.adapters index).validate = .ok ())
    (before : (w.before index).getD (w.adapters index) = w.adapters index) :
    Overridden index (.ofProvider clock (w.adapters index) provider)
      (w.overrideWith index clock provider) where
  loads := ⟨rfl, DnsOverrideState.validate_ofProvider.mpr valid, rfl⟩
  provider := overrides
  original := indexed
  before := by simp [DnsWorld.overrideWith, DnsWorld.apply, DnsOverrideState.ofProvider,
    DnsOverrideState.new, before]
  indexed := by simp [DnsWorld.overrideWith, DnsWorld.apply, indexed]
  valid := by
    simpa [DnsWorld.overrideWith, DnsWorld.apply] using
      AdapterDnsConfig.validate_withServers provider valid

/-- `restore_dns` and boot recovery without resume leave an adapter that is not
overridden alone. -/
theorem Unoverridden.restore (clean : Unoverridden index w) {outcomes : AdapterOutcomes} :
    restoreDns.Always outcomes.machine (fun _ _ => True)
      (fun _ w' => Unoverridden index w') w := by
  rw [restoreDns, Prog.always_andThen, AdapterOutcomes.machine,
    always_loadState AdapterOutcomes.diskOpen]
  refine ⟨trivial, fun _ => trivial, ?_⟩
  rcases loadResult_cases w with ⟨state, loads, -⟩ | ⟨-, ⟨e, loaded⟩ | loaded | inactive⟩
  · exact absurd loads (clean.not_loads state)
  · simpa [loaded] using clean
  · simpa [loaded] using clean
  · obtain ⟨state, loaded, inactive⟩ := inactive
    simpa [loaded, inactive, always_clearState AdapterOutcomes.diskOpen] using clean.clear

theorem Unoverridden.recover (clean : Unoverridden index w) {outcomes : AdapterOutcomes}
    (resume : Bool) (provider : DnsProvider) :
    (handleBootRecovery resume provider).Always outcomes.machine (fun _ _ => True)
      (fun _ w' => Unoverridden index w') w := by
  rw [handleBootRecovery, Prog.always_andThen, AdapterOutcomes.machine,
    always_loadState AdapterOutcomes.diskOpen]
  refine ⟨trivial, fun _ => trivial, ?_⟩
  rcases loadResult_cases w with ⟨state, loads, -⟩ | ⟨-, ⟨e, loaded⟩ | loaded | inactive⟩
  · exact absurd loads (clean.not_loads state)
  · simpa [loaded] using clean
  · simpa [loaded] using clean
  · obtain ⟨state, loaded, inactive⟩ := inactive
    simpa [loaded, inactive] using clean

/-- Loading an active snapshot, when nothing is watched. -/
theorem LoadsActive.load {α : Type} {outcomes : AdapterOutcomes} (loads : LoadsActive w state)
    {k : Option DnsOverrideState → DnsProg (Except DnsManagerError α)}
    {post : Except DnsManagerError α → DnsWorld → Prop}
    (rest : (k (some state)).Always outcomes.machine (fun _ _ => True) post w) :
    (loadState.andThen k).Always outcomes.machine (fun _ _ => True) post w :=
  loads.always_load AdapterOutcomes.diskOpen (fun _ => trivial) rest

theorem Overridden.restore (overridden : Overridden index state w) {clock : Option Nat} :
    restoreDns.Always (succeeding index clock).machine (fun _ _ => True)
      (fun _ w' => w' = { w.restore state.originalConfig with stateFile := none }) w := by
  refine overridden.loads.load ?_
  simp only [overridden.loads.2.2, overridden.provider, Bool.and_self, if_true, Prog.always_andThen,
    AdapterOutcomes.always_restore]
  refine ⟨trivial, ?_⟩
  exact (always_clearState AdapterOutcomes.diskOpen).mpr ⟨trivial, fun _ => trivial, rfl⟩

theorem Overridden.recover (overridden : Overridden index state w) {clock : Option Nat}
    (provider : DnsProvider) :
    (handleBootRecovery false provider).Always (succeeding index clock).machine (fun _ _ => True)
      (fun _ w' => w' = { w.restore state.originalConfig with stateFile := none }) w := by
  refine overridden.loads.load ?_
  simp only [overridden.loads.2.2, Bool.not_true, Bool.not_false, Bool.false_eq_true, if_false,
    if_true, Prog.always_bind, AdapterOutcomes.always_restore]
  refine ⟨trivial, ?_⟩
  exact (always_clearState AdapterOutcomes.diskOpen).mpr ⟨trivial, fun _ => trivial, rfl⟩

/-- An override with a valid live configuration. -/
theorem applyDns_overrideWith {clock : Option Nat} {provider : DnsProvider}
    (overrides : provider.shouldOverrideSystem = true)
    (indexed : (w.adapters index).interfaceIndex = index)
    (valid : (w.adapters index).validate = .ok ()) :
    (applyDns provider).Always (succeeding index clock).machine (fun _ _ => True)
      (fun _ w' => w' = w.overrideWith index clock provider) w := by
  refine (AdapterOutcomes.always_applyDns_saved overrides rfl valid).mpr ?_
  refine ⟨trivial, trivial, trivial, trivial, trivial, trivial, ?_⟩
  rw [DnsWorld.overrideWith, indexed]
  rfl

/-! ### One operation -/

theorem Unoverridden.serve (clean : Unoverridden index w) (op : TimedOp) :
    Unoverridden index (serve index w op) ∨ ∃ state, Overridden index state (serve index w op) := by
  obtain ⟨op, clock⟩ := op
  cases op with
  | restoreDns => exact .inl (serve_restoreDns (Unoverridden index) clean.restore)
  | handleBootRecovery resume provider =>
      exact .inl (serve_handleBootRecovery (Unoverridden index) (clean.recover resume provider))
  | applyDns provider =>
      refine serve_applyDns
        (fun w' => Unoverridden index w' ∨ ∃ state, Overridden index state w') ?_
      cases overrides : provider.shouldOverrideSystem with
      | false =>
          exact AdapterOutcomes.always_applyDns_system overrides ⟨trivial, trivial⟩
            fun _ => .inl clean
      | true =>
          by_cases valid : (w.adapters index).validate = .ok ()
          · refine (applyDns_overrideWith overrides clean.indexed valid).imp ?_
            rintro _ w' rfl
            exact .inr ⟨_, overrideWith_overridden overrides clean.indexed valid
              (by rw [clean.before]; rfl)⟩
          · refine AdapterOutcomes.always_applyDns_unsaved overrides ?_ ⟨trivial, trivial⟩
              fun _ => .inl clean
            rintro adapter found
            cases found
            exact valid

theorem Overridden.serve_restoring (overridden : Overridden index state w) {clock : Option Nat} :
    serve index w (.restoreDns, clock) =
      { w.restore state.originalConfig with stateFile := none } :=
  serve_restoreDns (· = { w.restore state.originalConfig with stateFile := none })
    overridden.restore

/-- An operation that does not override keeps the override or ends it. -/
theorem Overridden.serve_other (overridden : Overridden index state w) {op : TimedOp}
    (other : op.1.overrides = false) :
    Unoverridden index (serve index w op) ∨ Overridden index state (serve index w op) := by
  obtain ⟨op, clock⟩ := op
  cases op with
  | restoreDns =>
      rw [overridden.serve_restoring]
      exact .inl overridden.clear_restore.1
  | applyDns provider =>
      refine .inr (serve_applyDns (Overridden index state) ?_)
      exact AdapterOutcomes.always_applyDns_system other ⟨trivial, trivial⟩ fun _ => overridden
  | handleBootRecovery resume provider =>
      cases resume with
      | false =>
          refine .inl (serve_handleBootRecovery (Unoverridden index) ?_)
          refine (overridden.recover provider).imp ?_
          rintro _ w' rfl
          exact overridden.clear_restore.1
      | true =>
          refine .inr (serve_handleBootRecovery (Overridden index state) (overridden.loads.load ?_))
          simp only [overridden.loads.2.2, Bool.not_true, Bool.false_eq_true, if_false,
            Prog.always_andThen]
          refine AdapterOutcomes.always_applyDns_system other ⟨trivial, trivial⟩ fun result => ?_
          cases result <;> exact overridden

/-- An operation that overrides replaces the snapshot by the live configuration. -/
theorem Overridden.serve_overriding (overridden : Overridden index state w) {op : TimedOp}
    (overrides : op.1.overrides = true) :
    ∃ provider : DnsProvider, provider.shouldOverrideSystem = true ∧
      serve index w op = w.overrideWith index op.2 provider := by
  obtain ⟨op, clock⟩ := op
  cases op with
  | restoreDns => cases overrides
  | applyDns provider =>
      refine ⟨provider, overrides, ?_⟩
      exact serve_applyDns (· = w.overrideWith index clock provider)
        (applyDns_overrideWith overrides overridden.indexed overridden.valid)
  | handleBootRecovery resume provider =>
      cases resume with
      | false => cases overrides
      | true =>
          refine ⟨provider, overrides, serve_handleBootRecovery
            (· = w.overrideWith index clock provider) (overridden.loads.load ?_)⟩
          simp only [overridden.loads.2.2, Bool.not_true, Bool.false_eq_true, if_false,
            Prog.always_andThen]
          refine (applyDns_overrideWith overrides overridden.indexed overridden.valid).imp
            fun result w' eq => ?_
          cases result <;> exact eq

/-! ### Whole runs -/

theorem Unoverridden.holdsOriginal (clean : Unoverridden index w) : HoldsOriginal index w := by
  intro state active
  simp [clean.inactive] at active

theorem Overridden.holdsOriginal (overridden : Overridden index state w) :
    HoldsOriginal index w := by
  intro other active
  obtain rfl : state = other := by simpa [overridden.loads.activeOverride] using active
  refine ⟨overridden.before, fun clock => ?_⟩
  rw [overridden.serve_restoring]
  exact overridden.clear_restore.2

theorem Overridden.serve_harmless (overridden : Overridden index state w) {op : TimedOp}
    (harmless : Harmless index w op) :
    Unoverridden index (serve index w op) ∨ ∃ state, Overridden index state (serve index w op) := by
  cases overrides : op.1.overrides with
  | false => exact (overridden.serve_other overrides).imp id fun kept => ⟨state, kept⟩
  | true =>
      have live := harmless state overridden.loads.activeOverride overrides
      obtain ⟨provider, overriding, served⟩ := overridden.serve_overriding overrides
      rw [served]
      refine .inr ⟨_, overrideWith_overridden overriding overridden.indexed overridden.valid ?_⟩
      rw [overridden.before, live]
      rfl

/-- After an override on top of an active snapshot the new snapshot is the live
configuration, while the history still holds the old one. -/
theorem Overridden.harmless_of_serve (overridden : Overridden index state w) {op : TimedOp}
    (holds : HoldsOriginal index (serve index w op)) : Harmless index w op := by
  intro other active overrides
  obtain rfl : state = other := by simpa [overridden.loads.activeOverride] using active
  obtain ⟨provider, -, served⟩ := overridden.serve_overriding overrides
  rw [served] at holds
  have same := (holds (.ofProvider op.2 (w.adapters index) provider) rfl).1
  simpa [DnsWorld.overrideWith, DnsWorld.apply, overridden.before, DnsOverrideState.ofProvider,
    DnsOverrideState.new] using same.symm

end Steps

/-- In a run of the controller from an adapter that is not overridden, the
snapshot is the original configuration in every world reached exactly when every
override on top of an active snapshot finds the adapter as that snapshot has it. -/
theorem holdsOriginal_iff_harmless (index : Nat) (w : DnsWorld) (ops : List TimedOp)
    (clean : Unoverridden index w) :
    (∀ n, HoldsOriginal index ((ops.take n).foldl (serve index) w)) ↔
      ∀ n op, ops[n]? = some op → Harmless index ((ops.take n).foldl (serve index) w) op := by
  refine forall_prefix_iff (fun w => Unoverridden index w ∨ ∃ state, Overridden index state w)
    ?_ ?_ ?_ ops w (.inl clean)
  · rintro w (clean | ⟨state, overridden⟩)
    · exact clean.holdsOriginal
    · exact overridden.holdsOriginal
  · rintro w op (clean | ⟨state, overridden⟩) harmless
    · exact clean.serve op
    · exact overridden.serve_harmless harmless
  · rintro w op (clean | ⟨state, overridden⟩) holds
    · intro state active
      simp [clean.inactive] at active
    · exact overridden.harmless_of_serve holds

/-- The example adapter before anything has been applied. -/
def cleanWorld : DnsWorld where
  stateFile := none
  tmpFile := none
  adapters := fun _ => exampleAdapter
  before := fun _ => none
  calls := []

theorem cleanWorld_unoverridden : Unoverridden 2 cleanWorld := ⟨rfl, rfl, rfl⟩

/-- Changing the provider while an override is active: the second snapshot is
the first override. -/
theorem second_apply_overwrites_original :
    ¬ ∀ index w ops, Unoverridden index w →
      ∀ n, HoldsOriginal index ((List.take n ops).foldl (serve index) w) := by
  intro law
  let ops : List TimedOp := [(.applyDns .cloudflare, some 0), (.applyDns .google, some 1)]
  have held := law 2 cleanWorld ops cleanWorld_unoverridden 2
    (.ofProvider (some 1) (exampleAdapter.withServers DnsProvider.cloudflare.endpointsV4
      DnsProvider.cloudflare.endpointsV6) .google) (by decide +kernel)
  exact absurd held.1 (by decide)

/-- One apply and one restore. -/
theorem holdsOriginal_of_apply_restore :
    Unoverridden 2 cleanWorld ∧ ∀ n, HoldsOriginal 2
      ((List.take n [(.applyDns .cloudflare, some 0), (.restoreDns, some 1)]).foldl (serve 2)
        cleanWorld) := by
  refine ⟨cleanWorld_unoverridden,
    (holdsOriginal_iff_harmless 2 cleanWorld _ cleanWorld_unoverridden).mpr ?_⟩
  intro n op found state active overrides
  match n, found with
  | 0, _ => cases active
  | 1, found =>
      cases found
      cases overrides

end ZonDpi.Dns
