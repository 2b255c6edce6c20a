import ZonDpi.Dns.Controller

/-!
Saving and loading `dns_state.json` on a disk that may fail at any step.

`save_state` writes a temporary file and renames it over the state file. Here every call
may fail: a write that fails leaves anything in the temporary file, and a rename that
reports an error has moved the file or has not. The state file may hold a state, a text
that is no state, or bytes that are no text. Only the rename is atomic.

* `always_saveState`: at each step of a save the state file is as it was before or holds
  the new state, and it holds the new state after a success.
* `saved_state_crash_safe`: so `load_state` returns what it returned before or the new
  state, whenever the process stops; and `apply_dns`, for an adapter whose configuration
  passes its validation, has a state saved that holds this configuration and passes
  validation in both directions.
-/

namespace ZonDpi.Dns

open Effects

/-- A path of the file system. -/
inductive StoredFile where
  | absent
  /-- A file that `read_to_string` refuses, for example because it is not UTF-8. -/
  | unreadable (message : String)
  | text (content : StateText)
deriving DecidableEq, Repr

namespace StoredFile

def isFile : StoredFile → Bool
  | .absent => false
  | _ => true

def read : StoredFile → Except String StateText
  | .absent => .error "The system cannot find the file specified. (os error 2)"
  | .unreadable message => .error message
  | .text content => .ok content

end StoredFile

/-- The state file and the temporary file beside it. -/
structure Disk where
  state : StoredFile
  tmp : StoredFile
deriving DecidableEq, Repr

/-- The adapter that is found, the messages with which the calls of the file system may
fail, and the errors of the adapter operations. -/
structure Surroundings where
  adapter : AdapterDnsConfig
  fault : String → Prop
  refusal : DnsManagerError → Prop

namespace Disk

def renamed (disk : Disk) : Disk := ⟨disk.tmp, .absent⟩

/-- How the calls are answered. -/
def machine (around : Surroundings) (disk : Disk) :
    (req : DnsReq) → DnsResp req → Disk → Prop
  | .isFile, present, after => present = disk.state.isFile ∧ after = disk
  | .readToString, content, after => content = disk.state.read ∧ after = disk
  | .createDirAll, .error message, after => around.fault message ∧ after = disk
  | .writeTmp content, .ok _, after => after = { disk with tmp := .text content }
  | .writeTmp _, .error message, after =>
      around.fault message ∧ ∃ rest, after = { disk with tmp := rest }
  | .rename, .ok _, after => after = disk.renamed
  | .rename, .error message, after =>
      around.fault message ∧ (after = disk ∨ after = disk.renamed)
  | .removeFile, .ok _, after => after = { disk with state := .absent }
  | .removeFile, .error message, after => around.fault message ∧ after = disk
  | .findActiveOutboundAdapter, .ok adapter, after => adapter = around.adapter ∧ after = disk
  | .findActiveOutboundAdapter, .error e, after => around.refusal e ∧ after = disk
  | .applyDnsServers _ _ _, .error e, after => around.refusal e ∧ after = disk
  | .restoreDns _, .error e, after => around.refusal e ∧ after = disk
  | _, _, after => after = disk

variable (around : Surroundings)

/-- `load_state` returns this, and changes nothing. -/
def Loads (disk : Disk) (result : Except DnsManagerError (Option DnsOverrideState)) : Prop :=
  loadState.Always (machine around) (fun _ _ => True)
    (fun loaded after => loaded = result ∧ after = disk) disk

/-- `load_state` returns what it returned before, or the new state. -/
def OldOrNew (before : Disk) (state : DnsOverrideState) (disk : Disk) : Prop :=
  (∀ result, Loads around before result → Loads around disk result) ∨
    Loads around disk (.ok (some state))

/-- Whenever the process stops and however the save ends, the old state or the new one is
loaded, and after a success it is the new one. -/
def SavesAtomically (state : DnsOverrideState) (disk : Disk) : Prop :=
  (saveState state).Always (machine around) (fun now _ => OldOrNew around disk state now)
    (fun result after => OldOrNew around disk state after ∧
      (result = .ok () → Loads around after (.ok (some state)))) disk

/-- A state that passes validation and from which the adapter can be restored. -/
def Restorable (state : DnsOverrideState) : Prop :=
  state.validate = .ok () ∧ state.originalConfig = around.adapter

/-- What is written is a state from which the adapter can be restored, and such a state is
loaded again before the adapter is changed. -/
def Watched (now : Disk) : DnsReq → Prop
  | .writeTmp content => ∃ state, content = .json state ∧ Restorable around state
  | .applyDnsServers _ _ _ => ∃ state, Loads around now (.ok (some state)) ∧
      Restorable around state
  | _ => True

/-- The state that is returned is such a state and is loaded again. An error is one that a
call of the file system or an adapter operation has failed with: no state is refused. -/
def Applied (result : Except DnsManagerError DnsOverrideState) (after : Disk) : Prop :=
  match result with
  | .ok state => Restorable around state ∧ Loads around after (.ok (some state))
  | .error e => (∃ message, around.fault message ∧ e = .io message) ∨ around.refusal e

def AppliesValid (provider : DnsProvider) (disk : Disk) : Prop :=
  (applyDns provider).Always (machine around) (Watched around) (Applied around) disk

variable {around : Surroundings} {guard : Disk → DnsReq → Prop} {disk : Disk}

/-! ### Loading -/

theorem always_isFile {post : Bool → Disk → Prop} :
    isFile.Always (machine around) guard post disk ↔
      guard disk .isFile ∧ post disk.state.isFile disk := by
  constructor
  · rintro ⟨seen, rest⟩
    exact ⟨seen, rest _ _ ⟨rfl, rfl⟩⟩
  · rintro ⟨seen, rest⟩
    refine ⟨seen, ?_⟩
    rintro _ _ ⟨rfl, rfl⟩
    exact rest

theorem always_readToString {post : Except DnsManagerError StateText → Disk → Prop} :
    readToString.Always (machine around) guard post disk ↔
      guard disk .readToString ∧ post (disk.state.read.mapError .io) disk := by
  constructor
  · rintro ⟨seen, rest⟩
    exact ⟨seen, rest _ _ ⟨rfl, rfl⟩⟩
  · rintro ⟨seen, rest⟩
    refine ⟨seen, ?_⟩
    rintro _ _ ⟨rfl, rfl⟩
    exact rest

/-- What `load_state` makes of a file. -/
def loadedFrom : StoredFile → Except DnsManagerError (Option DnsOverrideState)
  | .absent => .ok none
  | .unreadable message => .error (.io message)
  | .text content => checkState content

theorem loads_iff {result : Except DnsManagerError (Option DnsOverrideState)} :
    Loads around disk result ↔ loadedFrom disk.state = result := by
  rw [Loads, loadState, Prog.always_bind, always_isFile]
  cases file : disk.state with
  | absent => simp [StoredFile.isFile, loadedFrom]
  | unreadable message =>
      simp [StoredFile.isFile, StoredFile.read, loadedFrom, always_readToString, file,
        Except.mapError]
  | text content =>
      simp [StoredFile.isFile, StoredFile.read, loadedFrom, always_readToString, file,
        Except.mapError]

theorem loads_json {state : DnsOverrideState} (valid : state.validate = .ok ())
    (file : disk.state = .text (.json state)) : Loads around disk (.ok (some state)) := by
  rw [loads_iff, file]
  simp [loadedFrom, checkState, parseState, valid, bind, Except.bind, pure, Except.pure]

/-- Loading looks at the state file only. -/
theorem oldOrNew_of_state {state : DnsOverrideState} {now : Disk} (same : now.state = disk.state) :
    OldOrNew around disk state now := by
  left
  intro result loads
  rw [loads_iff] at loads ⊢
  rw [same, loads]

/-! ### Saving -/

theorem always_createDirAll {post : Except DnsManagerError Unit → Disk → Prop} :
    createDirAll.Always (machine around) guard post disk ↔
      guard disk .createDirAll ∧ post (.ok ()) disk ∧
        ∀ message, around.fault message → post (.error (.io message)) disk := by
  constructor
  · rintro ⟨seen, rest⟩
    exact ⟨seen, rest (.ok ()) disk rfl,
      fun message fault => rest (.error message) disk ⟨fault, rfl⟩⟩
  · rintro ⟨seen, created, failed⟩
    refine ⟨seen, ?_⟩
    rintro (message | done) after moved
    · obtain ⟨fault, rfl⟩ := moved
      exact failed message fault
    · cases moved
      exact created

/-- A write that fails may have left anything in the temporary file. -/
theorem always_writeTmp {content : StateText}
    {post : Except DnsManagerError Unit → Disk → Prop} :
    (writeTmp content).Always (machine around) guard post disk ↔
      guard disk (.writeTmp content) ∧ post (.ok ()) { disk with tmp := .text content } ∧
        ∀ message, around.fault message →
          ∀ rest, post (.error (.io message)) { disk with tmp := rest } := by
  constructor
  · rintro ⟨seen, next⟩
    exact ⟨seen, next (.ok ()) _ rfl,
      fun message fault rest => next (.error message) _ ⟨fault, rest, rfl⟩⟩
  · rintro ⟨seen, written, failed⟩
    refine ⟨seen, ?_⟩
    rintro (message | done) after moved
    · obtain ⟨fault, rest, rfl⟩ := moved
      exact failed message fault rest
    · cases moved
      exact written

theorem always_rename {post : Except DnsManagerError Unit → Disk → Prop} :
    rename.Always (machine around) guard post disk ↔
      guard disk .rename ∧ post (.ok ()) disk.renamed ∧
        ∀ message, around.fault message →
          post (.error (.io message)) disk ∧ post (.error (.io message)) disk.renamed := by
  constructor
  · rintro ⟨seen, next⟩
    exact ⟨seen, next (.ok ()) _ rfl, fun message fault =>
      ⟨next (.error message) _ ⟨fault, .inl rfl⟩, next (.error message) _ ⟨fault, .inr rfl⟩⟩⟩
  · rintro ⟨seen, moved, failed⟩
    refine ⟨seen, ?_⟩
    rintro (message | done) after step
    · obtain ⟨fault, rfl | rfl⟩ := step
      · exact (failed message fault).1
      · exact (failed message fault).2
    · cases step
      exact moved

/-- The state file is touched by the rename only, which puts the new state in its place. -/
theorem always_saveState {state : DnsOverrideState} (valid : state.validate = .ok ())
    {post : Except DnsManagerError Unit → Disk → Prop}
    (guards : ∀ rest, guard { disk with tmp := rest } .createDirAll ∧
      guard { disk with tmp := rest } (.writeTmp (.json state)) ∧
      guard { disk with tmp := rest } .rename)
    (failed : ∀ message, around.fault message →
      ∀ rest, post (.error (.io message)) { disk with tmp := rest })
    (late : ∀ message, around.fault message →
      post (.error (.io message)) ⟨.text (.json state), .absent⟩)
    (saved : post (.ok ()) ⟨.text (.json state), .absent⟩) :
    (saveState state).Always (machine around) guard post disk := by
  simp only [saveState, valid, Prog.always_andThen, always_createDirAll, always_writeTmp,
    always_rename]
  refine ⟨(guards disk.tmp).1, ⟨(guards disk.tmp).2.1, ⟨(guards _).2.2, saved, ?_⟩, failed⟩, ?_⟩
  · intro message fault
    exact ⟨failed message fault _, late message fault⟩
  · intro message fault
    exact failed message fault disk.tmp

theorem savesAtomically (state : DnsOverrideState) (disk : Disk) :
    SavesAtomically around state disk := by
  unfold SavesAtomically
  cases valid : state.validate with
  | error e =>
      -- a state that is refused reaches no file
      simp only [saveState, valid, Prog.always_pure, reduceCtorEq, false_imp_iff, and_true]
      exact oldOrNew_of_state rfl
  | ok passed =>
      have new : Loads around ⟨.text (.json state), .absent⟩ (.ok (some state)) :=
        loads_json valid rfl
      apply always_saveState valid
      · intro rest
        exact ⟨oldOrNew_of_state rfl, oldOrNew_of_state rfl, oldOrNew_of_state rfl⟩
      · intro message fault rest
        exact ⟨oldOrNew_of_state rfl, by rintro ⟨⟩⟩
      · intro message fault
        exact ⟨.inr new, by rintro ⟨⟩⟩
      · exact ⟨.inr new, fun _ => new⟩

/-! ### Applying -/

theorem always_findActiveOutboundAdapter
    {post : Except DnsManagerError AdapterDnsConfig → Disk → Prop} :
    findActiveOutboundAdapter.Always (machine around) guard post disk ↔
      guard disk .findActiveOutboundAdapter ∧
        post (.ok around.adapter) disk ∧ ∀ e, around.refusal e → post (.error e) disk := by
  constructor
  · rintro ⟨seen, next⟩
    exact ⟨seen, next (.ok around.adapter) disk ⟨rfl, rfl⟩,
      fun e refused => next (.error e) disk ⟨refused, rfl⟩⟩
  · rintro ⟨seen, found, failed⟩
    refine ⟨seen, ?_⟩
    rintro (e | adapter) after ⟨known, rfl⟩
    · exact failed e known
    · cases known
      exact found

theorem always_unixTime {post : Option Nat → Disk → Prop} :
    unixTime.Always (machine around) guard post disk ↔
      guard disk .unixTime ∧ ∀ clock, post clock disk := by
  constructor
  · rintro ⟨seen, next⟩
    exact ⟨seen, fun clock => next clock disk rfl⟩
  · rintro ⟨seen, next⟩
    refine ⟨seen, ?_⟩
    rintro clock _ rfl
    exact next clock

theorem always_applyDnsServers {index : Nat} {v4 v6 : List String}
    {post : Except DnsManagerError Unit → Disk → Prop} :
    (applyDnsServers index v4 v6).Always (machine around) guard post disk ↔
      guard disk (.applyDnsServers index v4 v6) ∧ post (.ok ()) disk ∧
        ∀ e, around.refusal e → post (.error e) disk := by
  constructor
  · rintro ⟨seen, next⟩
    exact ⟨seen, next (.ok ()) disk rfl, fun e refused => next (.error e) disk ⟨refused, rfl⟩⟩
  · rintro ⟨seen, applied, failed⟩
    refine ⟨seen, ?_⟩
    rintro (e | done) after step
    · obtain ⟨refused, rfl⟩ := step
      exact failed e refused
    · cases step
      exact applied

theorem appliesValid {provider : DnsProvider} (overrides : provider.shouldOverrideSystem = true)
    (sound : around.adapter.validate = .ok ()) (disk : Disk) :
    AppliesValid around provider disk := by
  rw [AppliesValid, applyDns, if_neg (by simp [overrides]), Prog.always_andThen,
    always_findActiveOutboundAdapter]
  refine ⟨trivial, ?_, fun e refused => .inr refused⟩
  dsimp only
  rw [Prog.always_bind, always_unixTime]
  refine ⟨trivial, fun clock => ?_⟩
  have valid : (DnsOverrideState.ofProvider clock around.adapter provider).validate = .ok () :=
    DnsOverrideState.validate_ofProvider.mpr sound
  have restorable : Restorable around (.ofProvider clock around.adapter provider) := ⟨valid, rfl⟩
  have new : Loads around ⟨.text (.json (.ofProvider clock around.adapter provider)), .absent⟩
      (.ok (some (.ofProvider clock around.adapter provider))) := loads_json valid rfl
  rw [Prog.always_andThen]
  apply always_saveState valid
  · intro rest
    exact ⟨trivial, ⟨_, rfl, restorable⟩, trivial⟩
  · intro message fault rest
    exact .inl ⟨message, fault, rfl⟩
  · intro message fault
    exact .inl ⟨message, fault, rfl⟩
  · dsimp only
    rw [Prog.always_andThen, always_applyDnsServers]
    exact ⟨⟨_, new, restorable⟩, ⟨restorable, new⟩, fun e refused => .inr refused⟩

end Disk

/-! ### The result -/

/-- Every state, every adapter that passes validation, every disk and all failures. -/
theorem saved_state_crash_safe (around : Surroundings) :
    (∀ state disk, Disk.SavesAtomically around state disk) ∧
      ∀ (provider : DnsProvider) (disk : Disk), provider.shouldOverrideSystem = true →
        around.adapter.validate = .ok () → Disk.AppliesValid around provider disk :=
  ⟨Disk.savesAtomically, fun _ disk overrides sound => Disk.appliesValid overrides sound disk⟩

/-- On a disk whose state file is not a text, with every call free to fail. -/
theorem saved_state_crash_safe_cloudflare :
    Disk.AppliesValid ⟨exampleAdapter, fun _ => True, fun _ => True⟩ .cloudflare
      ⟨.unreadable "stream did not contain valid UTF-8", .absent⟩ :=
  (saved_state_crash_safe ⟨exampleAdapter, fun _ => True, fun _ => True⟩).2 .cloudflare _ rfl
    exampleAdapter_valid

end ZonDpi.Dns
