import Mathlib.Logic.Function.Basic
import ZonDpi.Dns.Controller

/-!
The world of the DNS controller and the rules for its programs.

The world holds the two files and the adapters. `dnsMachine assume` answers the
requests that look at the state file or remove it truthfully and leaves the
others to `assume`: whether a write succeeds, which adapter is found, whether an
adapter operation is refused. Each result about the controller picks its own
`assume`; the rules below hold for all of them.
-/

namespace ZonDpi.Dns

open Effects

inductive AdapterCall where
  | apply (interfaceIndex : Nat) (v4 v6 : List String)
  | restore (config : AdapterDnsConfig)
deriving DecidableEq, Repr

/-- The state file, the temporary file and the adapters, by interface index.
`before` and `calls` are history: no program reads them. -/
structure DnsWorld where
  stateFile : Option StateText
  tmpFile : Option StateText
  adapters : Nat → AdapterDnsConfig
  /-- For an overridden adapter, its configuration before the first override
  that has not been restored since. -/
  before : Nat → Option AdapterDnsConfig
  /-- The adapter calls answered so far, newest first, with their success. -/
  calls : List (AdapterCall × Bool)

namespace DnsWorld

def apply (w : DnsWorld) (index : Nat) (v4 v6 : List String) : DnsWorld :=
  { w with
    adapters := Function.update w.adapters index ((w.adapters index).withServers v4 v6)
    before := Function.update w.before index (some ((w.before index).getD (w.adapters index)))
    calls := (.apply index v4 v6, true) :: w.calls }

def restore (w : DnsWorld) (config : AdapterDnsConfig) : DnsWorld :=
  { w with
    adapters := Function.update w.adapters config.interfaceIndex config
    before := Function.update w.before config.interfaceIndex none
    calls := (.restore config, true) :: w.calls }

def refuse (w : DnsWorld) (call : AdapterCall) : DnsWorld :=
  { w with calls := (call, false) :: w.calls }

/-- What an answer does to the world. A failed call changes nothing. -/
def effect (w : DnsWorld) : (r : DnsReq) → DnsResp r → DnsWorld
  | .writeTmp text, .ok () => { w with tmpFile := some text }
  | .rename, .ok () => { w with stateFile := w.tmpFile, tmpFile := none }
  | .removeFile, .ok () => { w with stateFile := none }
  | .applyDnsServers index v4 v6, .ok () => w.apply index v4 v6
  | .applyDnsServers index v4 v6, .error _ => w.refuse (.apply index v4 v6)
  | .restoreDns config, .ok () => w.restore config
  | .restoreDns config, .error _ => w.refuse (.restore config)
  | _, _ => w

/-- The state file holds an active override. -/
def activeOverride (w : DnsWorld) : Option DnsOverrideState :=
  match w.stateFile with
  | some (.json state) => if state.dnsOverrideActive then some state else none
  | _ => none

end DnsWorld

/-- `fs::read_to_string` of a file that may be missing. -/
def readFile : Option StateText → Except String StateText
  | some text => .ok text
  | none => .error "The system cannot find the file specified. (os error 2)"

/-- Calls that look at the state file or remove it see the disk as it is; the
other calls may succeed or fail. -/
def DiskFaithful (w : DnsWorld) : (r : DnsReq) → DnsResp r → Prop
  | .isFile, present => present = w.stateFile.isSome
  | .readToString, content => content = readFile w.stateFile
  | .removeFile, removed => removed = .ok ()
  | _, _ => True

/-- The machine of a faithful disk, with the answers of the rest of the world
restricted by `assume`. -/
def dnsMachine (assume : DnsWorld → (r : DnsReq) → DnsResp r → Prop) :
    Machine DnsReq DnsResp DnsWorld :=
  fun w r x w' => DiskFaithful w r x ∧ assume w r x ∧ w' = w.effect r x

/-- `assume` does not contradict the faithful answers about the state file. -/
structure DiskOpen (assume : DnsWorld → (r : DnsReq) → DnsResp r → Prop) : Prop where
  isFile : ∀ w, assume w .isFile w.stateFile.isSome
  readToString : ∀ w, assume w .readToString (readFile w.stateFile)
  removeFile : ∀ w, assume w .removeFile (.ok ())

/-! ### Rules -/

section Rules

variable {assume : DnsWorld → (r : DnsReq) → DnsResp r → Prop} {guard : DnsWorld → DnsReq → Prop}
  {w : DnsWorld}

/-- What `load_state` returns for a state file. -/
def loadResult : Option StateText → Except DnsManagerError (Option DnsOverrideState)
  | some text => checkState text
  | none => .ok none

theorem loadResult_eq_some {file : Option StateText} {state : DnsOverrideState} :
    loadResult file = .ok (some state) ↔
      file = some (.json state) ∧ state.validate = .ok () := by
  rcases file with _ | ⟨_ | _⟩
  · simp [loadResult]
  · rename_i saved
    simp only [loadResult, checkState, parseState, Except.bind, bind, pure, Except.pure]
    cases valid : saved.validate with
    | error e =>
        simp only [reduceCtorEq, Option.some.injEq, StateText.json.injEq, false_iff, not_and]
        rintro rfl
        simp [valid]
    | ok passed =>
        simp only [Except.ok.injEq, Option.some.injEq, StateText.json.injEq]
        constructor
        · rintro rfl
          exact ⟨rfl, valid⟩
        · exact fun known => known.1
  · simp [loadResult, checkState, parseState, bind, Except.bind]

/-- A request whose answer the machine only restricts by `assume`. -/
theorem always_call (r : DnsReq) (free : ∀ x, DiskFaithful w r x)
    {post : DnsResp r → DnsWorld → Prop} :
    (Prog.ask r : DnsProg (DnsResp r)).Always (dnsMachine assume) guard post w ↔
      guard w r ∧ ∀ x, assume w r x → post x (w.effect r x) := by
  rw [Prog.always_ask]
  refine and_congr_right fun _ => ⟨fun all x allowed => all x _ ⟨free x, allowed, rfl⟩, ?_⟩
  rintro all x w' ⟨-, allowed, rfl⟩
  exact all x allowed

/-- A request the disk answers in one way. -/
theorem always_diskCall {r : DnsReq} {answer : DnsResp r}
    (only : ∀ x, DiskFaithful w r x ↔ x = answer) (allowed : assume w r answer)
    {post : DnsResp r → DnsWorld → Prop} :
    (Prog.ask r : DnsProg (DnsResp r)).Always (dnsMachine assume) guard post w ↔
      guard w r ∧ post answer (w.effect r answer) := by
  rw [Prog.always_ask]
  refine and_congr_right fun _ =>
    ⟨fun all => all answer _ ⟨(only answer).mpr rfl, allowed, rfl⟩, ?_⟩
  rintro known x w' ⟨faithful, -, rfl⟩
  rw [(only x).mp faithful]
  exact known

theorem always_isFile (disk : DiskOpen assume) {post : Bool → DnsWorld → Prop} :
    isFile.Always (dnsMachine assume) guard post w ↔
      guard w .isFile ∧ post w.stateFile.isSome w :=
  always_diskCall (fun _ => Iff.rfl) (disk.isFile w)

theorem always_readToString (disk : DiskOpen assume)
    {post : Except DnsManagerError StateText → DnsWorld → Prop} :
    readToString.Always (dnsMachine assume) guard post w ↔
      guard w .readToString ∧ post ((readFile w.stateFile).mapError .io) w := by
  rw [readToString, viaIo, Prog.always_bind]
  exact always_diskCall (fun _ => Iff.rfl) (disk.readToString w)

theorem always_removeFile (disk : DiskOpen assume) {post : Except String Unit → DnsWorld → Prop} :
    removeFile.Always (dnsMachine assume) guard post w ↔
      guard w .removeFile ∧ post (.ok ()) { w with stateFile := none } :=
  always_diskCall (fun _ => Iff.rfl) (disk.removeFile w)

theorem always_loadState (disk : DiskOpen assume)
    {post : Except DnsManagerError (Option DnsOverrideState) → DnsWorld → Prop} :
    loadState.Always (dnsMachine assume) guard post w ↔
      guard w .isFile ∧ (w.stateFile.isSome → guard w .readToString) ∧
        post (loadResult w.stateFile) w := by
  rw [loadState, Prog.always_bind, always_isFile disk]
  cases file : w.stateFile with
  | none => simp [loadResult]
  | some text => simp [always_readToString disk, file, readFile, loadResult, Except.mapError]

theorem always_clearState (disk : DiskOpen assume)
    {post : Except DnsManagerError Unit → DnsWorld → Prop} :
    clearState.Always (dnsMachine assume) guard post w ↔
      guard w .isFile ∧ (w.stateFile.isSome → guard w .removeFile) ∧
        post (.ok ()) { w with stateFile := none } := by
  rw [clearState, Prog.always_bind, always_isFile disk]
  cases file : w.stateFile with
  | none =>
      have unchanged : { w with stateFile := none } = w := by rw [← file]
      simp [unchanged]
  | some text => simp [always_removeFile disk]

theorem always_findActiveOutboundAdapter
    {post : Except DnsManagerError AdapterDnsConfig → DnsWorld → Prop} :
    findActiveOutboundAdapter.Always (dnsMachine assume) guard post w ↔
      guard w .findActiveOutboundAdapter ∧
        ∀ found, assume w .findActiveOutboundAdapter found → post found w :=
  always_call .findActiveOutboundAdapter fun _ => trivial

theorem always_unixTime {post : Option Nat → DnsWorld → Prop} :
    unixTime.Always (dnsMachine assume) guard post w ↔
      guard w .unixTime ∧ ∀ clock, assume w .unixTime clock → post clock w :=
  always_call .unixTime fun _ => trivial

theorem always_opsRestoreDns {config : AdapterDnsConfig}
    {post : Except DnsManagerError Unit → DnsWorld → Prop} :
    (opsRestoreDns config).Always (dnsMachine assume) guard post w ↔
      guard w (.restoreDns config) ∧ ∀ answer, assume w (.restoreDns config) answer →
        post answer (w.effect (.restoreDns config) answer) :=
  always_call (.restoreDns config) fun _ => trivial

theorem always_applyDnsServers {index : Nat} {v4 v6 : List String}
    {post : Except DnsManagerError Unit → DnsWorld → Prop} :
    (applyDnsServers index v4 v6).Always (dnsMachine assume) guard post w ↔
      guard w (.applyDnsServers index v4 v6) ∧
        ∀ answer, assume w (.applyDnsServers index v4 v6) answer →
          post answer (w.effect (.applyDnsServers index v4 v6) answer) :=
  always_call (.applyDnsServers index v4 v6) fun _ => trivial

/-- A state that fails validation never reaches the disk. -/
theorem always_saveState_invalid {state : DnsOverrideState} {e : DnsManagerError}
    (invalid : state.validate = .error e) {post : Except DnsManagerError Unit → DnsWorld → Prop} :
    (saveState state).Always (dnsMachine assume) guard post w ↔ post (.error e) w := by
  simp [saveState, invalid]

/-- Saving changes the temporary file, and the state file only by the final
rename; the writes may fail. -/
theorem always_saveState {state : DnsOverrideState}
    {post : Except DnsManagerError Unit → DnsWorld → Prop}
    (guards : ∀ tmp r, guard { w with tmpFile := tmp } r)
    (failed : ∀ e tmp, post (.error e) { w with tmpFile := tmp })
    (saved : state.validate = .ok () →
      post (.ok ()) { w with stateFile := some (.json state), tmpFile := none }) :
    (saveState state).Always (dnsMachine assume) guard post w := by
  cases valid : state.validate with
  | error e => exact (always_saveState_invalid valid).mpr (failed e w.tmpFile)
  | ok passed =>
      simp only [saveState, valid, createDirAll, writeTmp, rename, viaIo, Prog.always_andThen,
        Prog.always_bind, Prog.always_pure]
      rw [always_call .createDirAll fun _ => trivial]
      refine ⟨guards w.tmpFile _, fun created _ => ?_⟩
      cases created with
      | error message => exact failed _ w.tmpFile
      | ok done =>
          refine (always_call (.writeTmp (.json state)) fun _ => trivial).mpr
            ⟨guards w.tmpFile _, fun written _ => ?_⟩
          cases written with
          | error message => exact failed _ w.tmpFile
          | ok done =>
              refine (always_call .rename fun _ => trivial).mpr ⟨guards _ _, fun renamed _ => ?_⟩
              cases renamed with
              | error message => exact failed _ _
              | ok done => exact saved valid

end Rules

end ZonDpi.Dns
