import ZonDpi.Dns.Snapshot

/-!
What a client of the controller may rely on.

`DnsTracking` relates a client's own flag ("an override is in force") to the
DNS world. Two such relations are kept by `apply_dns` and `restore_dns`:

* `Tracked`: when adapter calls succeed, the flag says whether one adapter is
  overridden, and the snapshot is that adapter's original configuration. At every
  step in between, `Covered` holds: an adapter that differs from its original has a
  snapshot to go back to. That is the write-ahead argument, and boot recovery
  needs no more than it;
* `Refused`: when adapter calls may be refused, the flag and the snapshot agree
  exactly as long as the last adapter call was accepted.
-/

namespace ZonDpi.Dns

open Effects

/-- `T flag d`: with the client's flag at `flag`, the DNS world may be `d`.
`B` holds at every step in between. -/
structure DnsTracking (assume : DnsWorld → (r : DnsReq) → DnsResp r → Prop)
    (B : DnsWorld → Prop) (T : Bool → DnsWorld → Prop) : Prop where
  covers : ∀ flag d, T flag d → B d
  restore : ∀ d, T true d →
    restoreDns.Always (dnsMachine assume) (fun d _ => B d) (fun _ d => T false d) d
  apply : ∀ d provider, provider.shouldOverrideSystem = true → T false d →
    (applyDns provider).Always (dnsMachine assume) (fun d _ => B d)
      (fun result d => T result.toBool d) d

/-- A client that asks for nothing is served by any world. -/
theorem dnsTracking_trivial (assume : DnsWorld → (r : DnsReq) → DnsResp r → Prop) :
    DnsTracking assume (fun _ => True) fun _ _ => True where
  covers := fun _ _ _ => trivial
  restore := fun _ _ => Prog.always_trivial _
  apply := fun _ _ _ _ => Prog.always_trivial _

/-! ### The operations on a world that is watched -/

section Operations

variable {assume : DnsWorld → (r : DnsReq) → DnsResp r → Prop} {B : DnsWorld → Prop}
  {d : DnsWorld} {state : DnsOverrideState}

/-- `restore_dns` with an active snapshot: the adapter is asked, and the file is
removed if it accepts. -/
theorem always_restoreDns_active (disk : DiskOpen assume) (loads : LoadsActive d state)
    (overrides : state.provider.shouldOverrideSystem = true)
    {post : Except DnsManagerError Unit → DnsWorld → Prop} (here : B d)
    (refused : ∀ e, assume d (.restoreDns state.originalConfig) (.error e) →
      post (.error e) (d.refuse (.restore state.originalConfig)))
    (restored : assume d (.restoreDns state.originalConfig) (.ok ()) →
      B (d.restore state.originalConfig) ∧
        post (.ok ()) { d.restore state.originalConfig with stateFile := none }) :
    restoreDns.Always (dnsMachine assume) (fun d _ => B d) post d := by
  refine loads.always_load disk (fun _ => here) ?_
  simp only [loads.2.2, overrides, Bool.and_self, if_true]
  rw [Prog.always_andThen, always_opsRestoreDns]
  refine ⟨here, fun answer allowed => ?_⟩
  cases answer with
  | error e => exact refused e allowed
  | ok done =>
      obtain ⟨covered, final⟩ := restored allowed
      exact (always_clearState disk).mpr ⟨covered, fun _ => covered, final⟩

/-- `apply_dns` of an overriding provider: nothing but the temporary file changes
before the snapshot is in place, and the adapter is asked after that. -/
theorem always_applyDns_overriding {provider : DnsProvider}
    (overrides : provider.shouldOverrideSystem = true)
    {post : Except DnsManagerError DnsOverrideState → DnsWorld → Prop}
    (here : ∀ tmp, B { d with tmpFile := tmp })
    (unsaved : ∀ e tmp, post (.error e) { d with tmpFile := tmp })
    (saved : ∀ adapter clock, assume d .findActiveOutboundAdapter (.ok adapter) →
      adapter.validate = .ok () →
      let state := DnsOverrideState.ofProvider clock adapter provider
      let after := { d with stateFile := some (.json state), tmpFile := none }
      let call := AdapterCall.apply adapter.interfaceIndex provider.endpointsV4 provider.endpointsV6
      let req := DnsReq.applyDnsServers adapter.interfaceIndex provider.endpointsV4
        provider.endpointsV6
      B after ∧ (∀ e, assume after req (.error e) → post (.error e) (after.refuse call)) ∧
        (assume after req (.ok ()) → post (.ok state) (after.apply adapter.interfaceIndex
          provider.endpointsV4 provider.endpointsV6))) :
    (applyDns provider).Always (dnsMachine assume) (fun d _ => B d) post d := by
  have now : B d := here d.tmpFile
  simp only [applyDns, overrides, Bool.not_true, Bool.false_eq_true, if_false]
  rw [Prog.always_andThen, always_findActiveOutboundAdapter]
  refine ⟨now, fun found allowed => ?_⟩
  cases found with
  | error e => exact unsaved e d.tmpFile
  | ok adapter =>
      refine Prog.always_bind.mpr (always_unixTime.mpr ⟨now, fun clock _ => ?_⟩)
      refine Prog.always_andThen.mpr
        (always_saveState (fun tmp _ => here tmp) (fun e tmp => unsaved e tmp) fun valid => ?_)
      obtain ⟨covered, refused, applied⟩ :=
        saved adapter clock allowed (DnsOverrideState.validate_ofProvider.mp valid)
      refine Prog.always_andThen.mpr
        (always_applyDnsServers.mpr ⟨covered, fun answer allowed => ?_⟩)
      cases answer with
      | error e => exact refused e allowed
      | ok done => exact applied allowed

/-- Boot recovery of an active snapshot removes the file whatever the adapter
answers. -/
theorem always_recover_active (disk : DiskOpen assume) (loads : LoadsActive d state)
    (provider : DnsProvider) {post : DnsWorld → Prop} (here : B d)
    (answered : ∀ answer, assume d (.restoreDns state.originalConfig) answer →
      let after := d.effect (.restoreDns state.originalConfig) answer
      B after ∧ post { after with stateFile := none }) :
    (handleBootRecovery false provider).Always (dnsMachine assume) (fun d _ => B d)
      (fun _ d => post d) d := by
  refine loads.always_load disk (fun _ => here) ?_
  simp only [loads.2.2, Bool.not_true, Bool.not_false, Bool.false_eq_true, if_false, if_true]
  rw [Prog.always_bind, always_opsRestoreDns]
  refine ⟨here, fun answer allowed => ?_⟩
  obtain ⟨covered, final⟩ := answered answer allowed
  rw [Prog.always_bind]
  exact (always_clearState disk).mpr ⟨covered, fun _ => covered, final⟩

/-- Boot recovery without an active snapshot changes nothing. -/
theorem always_recover_inactive (disk : DiskOpen assume)
    (inactive : ∀ state, ¬ LoadsActive d state) (provider : DnsProvider) {post : DnsWorld → Prop}
    (here : B d) (unchanged : post d) :
    (handleBootRecovery false provider).Always (dnsMachine assume) (fun d _ => B d)
      (fun _ d => post d) d := by
  rw [handleBootRecovery, Prog.always_andThen, always_loadState disk]
  refine ⟨here, fun _ => here, ?_⟩
  rcases loadResult_cases d with
    ⟨state, loads, -⟩ | ⟨-, ⟨e, loaded⟩ | loaded | ⟨state, loaded, off⟩⟩
  · exact absurd loads (inactive state)
  · simpa [loaded] using unchanged
  · simpa [loaded] using unchanged
  · simpa [loaded, off] using unchanged

/-- After boot recovery there is no active snapshot, restored or not. -/
theorem always_recover_drops (disk : DiskOpen assume) (provider : DnsProvider) :
    (handleBootRecovery false provider).Always (dnsMachine assume) (fun _ _ => True)
      (fun _ d => ∀ state, ¬ LoadsActive d state) d := by
  by_cases active : ∃ state, LoadsActive d state
  · obtain ⟨state, loads⟩ := active
    refine always_recover_active disk loads provider trivial fun answer _ => ⟨trivial, ?_⟩
    rintro other ⟨file, -⟩
    cases file
  · exact always_recover_inactive disk (not_exists.mp active) provider trivial
      (not_exists.mp active)

end Operations

/-! ### When adapter calls succeed -/

/-- The adapter that is found is reported as it is, and adapters accept what they
are asked. Writes of the snapshot may still fail. -/
def Honest (d : DnsWorld) : (r : DnsReq) → DnsResp r → Prop
  | .findActiveOutboundAdapter, .ok adapter => adapter = d.adapters adapter.interfaceIndex
  | .applyDnsServers _ _ _, answer => answer = .ok ()
  | .restoreDns _, answer => answer = .ok ()
  | _, _ => True

theorem honest_disk : DiskOpen Honest := ⟨fun _ => trivial, fun _ => trivial, fun _ => trivial⟩

/-- Nothing is overridden: the adapters are as in `base`, and the state file is
gone or still the one of `base`. -/
structure Clean (base d : DnsWorld) : Prop where
  adapters : d.adapters = base.adapters
  before : ∀ i, d.before i = none
  file : d.stateFile = none ∨ d.stateFile = base.stateFile

/-- The state file is the snapshot of one adapter as it is in `base`, and the
other adapters are as in `base`. -/
structure Snapshotted (base : DnsWorld) (state : DnsOverrideState) (d : DnsWorld) : Prop where
  loads : LoadsActive d state
  provider : state.provider.shouldOverrideSystem = true
  original : state.originalConfig = base.adapters state.originalConfig.interfaceIndex
  others : ∀ i, i ≠ state.originalConfig.interfaceIndex →
    d.adapters i = base.adapters i ∧ d.before i = none

/-- At every step: whatever differs from `base` can be recovered. -/
def Covered (base d : DnsWorld) : Prop := Clean base d ∨ ∃ state, Snapshotted base state d

def Tracked (base : DnsWorld) : Bool → DnsWorld → Prop
  | false, d => Clean base d
  | true, d => ∃ state, Snapshotted base state d ∧
      d.before state.originalConfig.interfaceIndex = some state.originalConfig

section Tracked

variable {base d : DnsWorld} {state : DnsOverrideState}

theorem Clean.inactive (calm : ∀ state, ¬ LoadsActive base state) (clean : Clean base d)
    (state : DnsOverrideState) : ¬ LoadsActive d state := by
  rintro ⟨file, valid, active⟩
  rcases clean.file with gone | same
  · simp [gone] at file
  · exact calm state ⟨same ▸ file, valid, active⟩

/-- An adapter that differs has its original configuration in the snapshot. -/
theorem Covered.snapshot (covered : Covered base d) {i : Nat}
    (differs : d.adapters i ≠ base.adapters i) :
    ∃ state, LoadsActive d state ∧ state.originalConfig = base.adapters i := by
  rcases covered with clean | ⟨state, saved⟩
  · exact absurd (congrFun clean.adapters i) differs
  · obtain rfl : i = state.originalConfig.interfaceIndex := by
      by_contra other
      exact differs (saved.others i other).1
    exact ⟨state, saved.loads, saved.original⟩

/-- The world in which the snapshot has been restored. -/
theorem Snapshotted.restored (saved : Snapshotted base state d) :
    Clean base { d.restore state.originalConfig with stateFile := none } where
  adapters := by
    funext i
    by_cases here : i = state.originalConfig.interfaceIndex
    · subst here
      simpa [DnsWorld.restore] using saved.original
    · simpa [DnsWorld.restore, here] using (saved.others i here).1
  before := by
    intro i
    by_cases here : i = state.originalConfig.interfaceIndex
    · simp [DnsWorld.restore, here]
    · simpa [DnsWorld.restore, here] using (saved.others i here).2
  file := .inl rfl

/-- Until the file is removed the snapshot still covers. -/
theorem Snapshotted.restore (saved : Snapshotted base state d) :
    Snapshotted base state (d.restore state.originalConfig) :=
  { saved with
    others := fun i other => by simpa [DnsWorld.restore, other] using saved.others i other }

/-- A snapshot of a clean world. -/
theorem Clean.snapshotted {provider : DnsProvider} {adapter : AdapterDnsConfig}
    (clean : Clean base d) (clock : Option Nat) (overrides : provider.shouldOverrideSystem = true)
    (current : adapter = d.adapters adapter.interfaceIndex) (valid : adapter.validate = .ok ()) :
    Snapshotted base (.ofProvider clock adapter provider)
      { d with
        stateFile := some (.json (.ofProvider clock adapter provider))
        tmpFile := none } where
  loads := ⟨rfl, DnsOverrideState.validate_ofProvider.mpr valid, rfl⟩
  provider := overrides
  original := current.trans (congrFun clean.adapters _)
  others := fun i _ => ⟨congrFun clean.adapters i, clean.before i⟩

theorem Snapshotted.apply (saved : Snapshotted base state d) (v4 v6 : List String) :
    Snapshotted base state (d.apply state.originalConfig.interfaceIndex v4 v6) :=
  { saved with
    others := fun i other => by simpa [DnsWorld.apply, other] using saved.others i other }

/-- The flag of a client says whether an adapter is overridden. -/
theorem dnsTracking_tracked (base : DnsWorld) :
    DnsTracking Honest (Covered base) (Tracked base) where
  covers := by
    rintro (_ | _) d known
    · exact .inl known
    · obtain ⟨state, saved, -⟩ := known
      exact .inr ⟨state, saved⟩
  restore := by
    rintro d ⟨state, saved, -⟩
    refine always_restoreDns_active honest_disk saved.loads saved.provider (.inr ⟨state, saved⟩)
      ?_ ?_
    · intro e impossible
      cases impossible
    · exact fun _ => ⟨.inr ⟨state, saved.restore⟩, saved.restored⟩
  apply := by
    intro d provider overrides (clean : Clean base d)
    have anyTmp (tmp : Option StateText) : Clean base { d with tmpFile := tmp } := { clean with }
    refine always_applyDns_overriding overrides (fun tmp => .inl (anyTmp tmp))
      (fun _ tmp => anyTmp tmp) fun adapter clock found valid => ?_
    have current : adapter = d.adapters adapter.interfaceIndex := found
    have saved := clean.snapshotted clock overrides current valid
    refine ⟨.inr ⟨_, saved⟩, ?_, fun _ => ⟨_, saved.apply _ _, ?_⟩⟩
    · intro e impossible
      cases impossible
    · simp [DnsWorld.apply, clean.before, DnsOverrideState.ofProvider, DnsOverrideState.new,
        ← current]

/-- Boot recovery needs no more than that the world is covered, so it can be
interrupted and started again. -/
theorem always_recover_covered (calm : ∀ state, ¬ LoadsActive base state)
    (covered : Covered base d) (provider : DnsProvider) :
    (handleBootRecovery false provider).Always (dnsMachine Honest) (fun d _ => Covered base d)
      (fun _ d => Clean base d) d := by
  rcases covered with clean | ⟨state, saved⟩
  · exact always_recover_inactive honest_disk (clean.inactive calm) provider (.inl clean) clean
  · refine always_recover_active honest_disk saved.loads provider (.inr ⟨state, saved⟩) ?_
    rintro _ rfl
    exact ⟨.inr ⟨state, saved.restore⟩, saved.restored⟩

end Tracked

/-! ### When adapter calls may be refused -/

/-- The last adapter call, if there was one, was accepted. -/
def lastAccepted : List (AdapterCall × Bool) → Bool
  | [] => true
  | (_, accepted) :: _ => accepted

/-- Without the flag there is a snapshot exactly when the last adapter call was
refused; with it there is one and the call was accepted. -/
def Refused : Bool → DnsWorld → Prop
  | false, d => (∃ state, LoadsActive d state) ↔ lastAccepted d.calls = false
  | true, d => lastAccepted d.calls = true ∧
      ∃ state, LoadsActive d state ∧ state.provider.shouldOverrideSystem = true

theorem unrestricted_disk : DiskOpen fun _ _ _ => True :=
  ⟨fun _ => trivial, fun _ => trivial, fun _ => trivial⟩

theorem dnsTracking_refused : DnsTracking (fun _ _ _ => True) (fun _ => True) Refused where
  covers := fun _ _ _ => trivial
  restore := by
    rintro d ⟨-, state, loads, overrides⟩
    refine always_restoreDns_active unrestricted_disk loads overrides trivial ?_ ?_
    · exact fun e _ => iff_of_true ⟨state, loads⟩ rfl
    · refine fun _ => ⟨trivial, iff_of_false ?_ Bool.noConfusion⟩
      rintro ⟨other, file, -⟩
      cases file
  apply := by
    intro d provider overrides (known : _ ↔ _)
    refine always_applyDns_overriding overrides (fun _ => trivial) (fun _ _ => known)
      fun adapter clock _ valid => ⟨trivial, ?_, ?_⟩
    · exact fun e _ =>
        iff_of_true ⟨_, rfl, DnsOverrideState.validate_ofProvider.mpr valid, rfl⟩ rfl
    · exact fun _ => ⟨rfl, _, ⟨rfl, DnsOverrideState.validate_ofProvider.mpr valid, rfl⟩, overrides⟩

end ZonDpi.Dns
