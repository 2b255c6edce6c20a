import ZonDpi.Lib.Program
import ZonDpi.Dns.Config

/-!
`DnsStateManager` and `DnsCompatibilityController` (`core/dns/src/lib.rs`).

The functions are programs over `DnsReq`: the file system calls on
`dns_state.json` and its temporary file, the clock, and the adapter operations
of the trait `AdapterDnsOps`. The discarded results of the source (`let _ = ...`)
are discarded here too. Setting the ACL of the temporary file and the log lines
change nothing a modelled function reads and are left out.
-/

namespace ZonDpi.Dns

open Effects

/-- The content of a state file as `serde_json::from_str` sees it: a text that
parses to a state, or one that does not, with the parser's message.
`to_vec_pretty` of a state is a text that parses to it. -/
inductive StateText where
  | json (state : DnsOverrideState)
  | malformed (message : String)
deriving DecidableEq, Repr

inductive DnsReq where
  /-- `state_file_path.is_file()` -/
  | isFile
  /-- `fs::read_to_string(state_file_path)` -/
  | readToString
  /-- `fs::create_dir_all(parent)` -/
  | createDirAll
  /-- `fs::write(tmp_path, ..)` -/
  | writeTmp (text : StateText)
  /-- `fs::rename(tmp_path, state_file_path)` -/
  | rename
  /-- `fs::remove_file(state_file_path)` -/
  | removeFile
  /-- Seconds since the epoch; `none` for a clock set before it. -/
  | unixTime
  | findActiveOutboundAdapter
  | applyDnsServers (interfaceIndex : Nat) (v4 v6 : List String)
  | restoreDns (config : AdapterDnsConfig)
deriving DecidableEq, Repr

abbrev DnsResp : DnsReq → Type
  | .isFile => Bool
  | .readToString => Except String StateText
  | .createDirAll | .writeTmp _ | .rename | .removeFile => Except String Unit
  | .unixTime => Option Nat
  | .findActiveOutboundAdapter => Except DnsManagerError AdapterDnsConfig
  | .applyDnsServers _ _ _ | .restoreDns _ => Except DnsManagerError Unit

abbrev DnsProg (α : Type) : Type := Prog DnsReq DnsResp α

/-! ### The calls -/

/-- `?` on a file system call turns its error into `DnsManagerError::Io`. -/
def viaIo {α : Type} (call : DnsProg (Except String α)) : DnsProg (Except DnsManagerError α) :=
  call >>= fun answer => pure (answer.mapError .io)

def isFile : DnsProg Bool := Prog.ask DnsReq.isFile

def readToString : DnsProg (Except DnsManagerError StateText) :=
  viaIo (Prog.ask DnsReq.readToString)

def createDirAll : DnsProg (Except DnsManagerError Unit) := viaIo (Prog.ask DnsReq.createDirAll)

def writeTmp (text : StateText) : DnsProg (Except DnsManagerError Unit) :=
  viaIo (Prog.ask (DnsReq.writeTmp text))

def rename : DnsProg (Except DnsManagerError Unit) := viaIo (Prog.ask DnsReq.rename)

def removeFile : DnsProg (Except String Unit) := Prog.ask DnsReq.removeFile

def unixTime : DnsProg (Option Nat) := Prog.ask DnsReq.unixTime

def findActiveOutboundAdapter : DnsProg (Except DnsManagerError AdapterDnsConfig) :=
  Prog.ask DnsReq.findActiveOutboundAdapter

def applyDnsServers (interfaceIndex : Nat) (v4 v6 : List String) :
    DnsProg (Except DnsManagerError Unit) :=
  Prog.ask (DnsReq.applyDnsServers interfaceIndex v4 v6)

/-- `ops.restore_dns`. -/
def opsRestoreDns (config : AdapterDnsConfig) : DnsProg (Except DnsManagerError Unit) :=
  Prog.ask (DnsReq.restoreDns config)

/-! ### `DnsStateManager` -/

def saveState (state : DnsOverrideState) : DnsProg (Except DnsManagerError Unit) :=
  match state.validate with
  | .error e => pure (.error e)
  | .ok () =>
      createDirAll.andThen fun _ => (writeTmp (.json state)).andThen fun _ => rename

def parseState : StateText → Except DnsManagerError DnsOverrideState
  | .json state => .ok state
  | .malformed message =>
      .error (.stateValidationFailed s!"Malformed state JSON: {message}")

/-- Parsing and strict verification of a file that has been read. -/
def checkState (text : StateText) : Except DnsManagerError (Option DnsOverrideState) := do
  let state ← parseState text
  state.validate
  return some state

def loadState : DnsProg (Except DnsManagerError (Option DnsOverrideState)) := do
  let present ← isFile
  if present then readToString.andThen fun content => pure (checkState content)
  else return .ok none

def clearState : DnsProg (Except DnsManagerError Unit) := do
  let present ← isFile
  if present then do
    let _ ← removeFile
    return .ok ()
  else return .ok ()

/-! ### `DnsCompatibilityController` -/

def applyDns (provider : DnsProvider) : DnsProg (Except DnsManagerError DnsOverrideState) :=
  if !provider.shouldOverrideSystem then
    findActiveOutboundAdapter.andThen fun adapter => do
      let clock ← unixTime
      return .ok (DnsOverrideState.new clock adapter [] [] .system)
  else
    findActiveOutboundAdapter.andThen fun adapter => do
      let v4Endpoints := provider.endpointsV4
      let v6Endpoints := provider.endpointsV6
      let clock ← unixTime
      let state := DnsOverrideState.new clock adapter v4Endpoints v6Endpoints provider
      -- the snapshot is on disk before the adapter changes
      (saveState state).andThen fun _ =>
        (applyDnsServers adapter.interfaceIndex v4Endpoints v6Endpoints).andThen fun _ =>
          pure (.ok state)

def restoreDns : DnsProg (Except DnsManagerError Unit) :=
  loadState.andThen fun loaded =>
    match loaded with
    | none => pure (.ok ())
    | some state =>
        if state.dnsOverrideActive && state.provider.shouldOverrideSystem then
          (opsRestoreDns state.originalConfig).andThen fun _ => clearState
        else clearState

def handleBootRecovery (shouldResumeProtection : Bool) (provider : DnsProvider) :
    DnsProg (Except DnsManagerError (Option DnsOverrideState)) :=
  loadState.andThen fun loaded =>
    match loaded with
    | none => pure (.ok none)
    | some state =>
        if !state.dnsOverrideActive then pure (.ok none)
        else if !shouldResumeProtection then do
          let _ ← opsRestoreDns state.originalConfig
          let _ ← clearState
          return .ok none
        else (applyDns provider).andThen fun newState => pure (.ok (some newState))

/-- The public operations of the controller. -/
inductive ControllerOp where
  | applyDns (provider : DnsProvider)
  | restoreDns
  | handleBootRecovery (shouldResumeProtection : Bool) (provider : DnsProvider)
deriving DecidableEq, Repr

def discard {ε α : Type} (p : DnsProg (Except ε α)) : DnsProg (Except ε Unit) :=
  p >>= fun result => pure (result.map fun _ => ())

def ControllerOp.program : ControllerOp → DnsProg (Except DnsManagerError Unit)
  | .applyDns provider => discard (Dns.applyDns provider)
  | .restoreDns => Dns.restoreDns
  | .handleBootRecovery resume provider => discard (Dns.handleBootRecovery resume provider)

end ZonDpi.Dns
