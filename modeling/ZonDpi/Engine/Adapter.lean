import ZonDpi.Lib.Program
import ZonDpi.Engine.ByeDpiConfig

/-!
`GoodbyeDpiAdapter` and `ByeDpiAdapter` (`engine_adapter/`).

An adapter holds a supervisor, here its number; `start` replaces it by a new one
before it spawns. The adapters are programs over `EngineReq`: finding binaries
and libraries, the port preflight, and the supervisor's own operations, which
module `Supervisor.Process` models in full. A health check reads the
supervisor's status once and judges it; the judgement is `goodbyeHealth` and
`byedpiHealth`.
-/

namespace ZonDpi.Engine

open Effects ZonDpi.Std ZonDpi.Supervisor

/-- A resolved worker binary and the directory it lies in. -/
structure BinaryPath where
  path : String
  parent : Option String
deriving DecidableEq, Repr

/-- Where `WinDivert.dll` is looked for. -/
inductive DllPlace where
  | besideExecutable
  | distribution
  | workingDirectory
deriving DecidableEq, Repr

/-- What a health check and the status report read of `SupervisorStatus`. -/
structure SupervisorStatus where
  state : SupervisorState
  pid : Option Nat
  uptimeSeconds : Option Nat
  lastError : Option String
deriving DecidableEq, Repr

/-- How far the SOCKS5 handshake of the ByeDPI health check came. -/
inductive SocksProbe where
  | invalidAddress (message : String)
  | connectFailed (message : String)
  | writeFailed (message : String)
  | readFailed (message : String)
  | response (version method : Nat) (elapsed : Nat)
deriving DecidableEq, Repr

inductive EngineReq where
  /-- `EngineBinaryResolver::resolve` under the install root -/
  | resolveBinary (engine : EngineId)
  | dllIsFile (binary : BinaryPath) (place : DllPlace)
  /-- `TcpListener::bind` -/
  | bindPort (ip : String) (port : Nat)
  /-- `ProcessSupervisor::new` -/
  | newSupervisor (config : SupervisorConfig)
  | spawn (supervisor : Nat)
  | gracefulStop (supervisor : Nat)
  /-- status and the lines of the 50 most recent log entries -/
  | goodbyeStatus (supervisor : Nat)
  | byedpiStatus (supervisor : Nat) (ip : String) (port : Nat)
deriving DecidableEq, Repr

abbrev EngineResp : EngineReq → Type
  | .resolveBinary _ => Except String BinaryPath
  | .dllIsFile _ _ | .bindPort _ _ => Bool
  | .newSupervisor _ => Nat
  | .spawn _ | .gracefulStop _ => Except SupervisorError Unit
  | .goodbyeStatus _ => SupervisorStatus × List String
  | .byedpiStatus _ _ _ => SupervisorStatus × SocksProbe

abbrev EngineProg (α : Type) : Type := Prog EngineReq EngineResp α

/-! ### The calls -/

def resolveBinary (engine : EngineId) : EngineProg (Except String BinaryPath) :=
  Prog.ask (EngineReq.resolveBinary engine)

def dllIsFile (binary : BinaryPath) (place : DllPlace) : EngineProg Bool :=
  Prog.ask (EngineReq.dllIsFile binary place)

def bindPort (ip : String) (port : Nat) : EngineProg Bool := Prog.ask (EngineReq.bindPort ip port)

def newSupervisor (config : SupervisorConfig) : EngineProg Nat :=
  Prog.ask (EngineReq.newSupervisor config)

def spawn (supervisor : Nat) : EngineProg (Except SupervisorError Unit) :=
  Prog.ask (EngineReq.spawn supervisor)

def gracefulStop (supervisor : Nat) : EngineProg (Except SupervisorError Unit) :=
  Prog.ask (EngineReq.gracefulStop supervisor)

def goodbyeStatus (supervisor : Nat) : EngineProg (SupervisorStatus × List String) :=
  Prog.ask (EngineReq.goodbyeStatus supervisor)

def byedpiStatus (supervisor : Nat) (ip : String) (port : Nat) :
    EngineProg (SupervisorStatus × SocksProbe) :=
  Prog.ask (EngineReq.byedpiStatus supervisor ip port)

/-! ### GoodbyeDPI -/

structure GoodbyeDpiAdapter where
  supervisor : Nat
deriving DecidableEq, Repr

/-- `WinDivert.dll` beside the executable, in the distribution or in the working
directory. -/
def dllAvailable (binary : BinaryPath) : EngineProg Bool := do
  match binary.parent with
  | none => return true
  | some _ =>
      if ← dllIsFile binary .besideExecutable then return true
      else if ← dllIsFile binary .distribution then return true
      else dllIsFile binary .workingDirectory

def goodbyeName : String := "GoodbyeDPI-Worker"

/-- The worker's command line and directory. -/
def goodbyeSupervisorConfig (binary : BinaryPath) (config : GoodbyeConfig)
    (suppressDnsRedirect : Bool) : SupervisorConfig :=
  { SupervisorConfig.new goodbyeName binary.path
      (config.toCommandArgsFiltered (!suppressDnsRedirect)) with
    workingDirectory := binary.parent }

/-- Replace the supervisor and spawn, as both adapters end their `start`. -/
def spawnWith (config : SupervisorConfig) : EngineProg (Except SupervisorError Unit × Nat) := do
  let supervisor ← newSupervisor config
  let spawned ← spawn supervisor
  return (spawned, supervisor)

def GoodbyeDpiAdapter.start (adapter : GoodbyeDpiAdapter) (profile : ProfileDefinition)
    (suppressDnsRedirect : Bool) :
    EngineProg (Except GoodbyeAdapterError Unit × GoodbyeDpiAdapter) := do
  match ← resolveBinary .goodbyeDpi with
  | .error message => return (.error (.binaryNotFound message), adapter)
  | .ok binary =>
      if ← dllAvailable binary then
        match GoodbyeConfig.fromProfile profile with
        | .error e => return (.error e, adapter)
        | .ok config => do
            let (spawned, supervisor) ←
              spawnWith (goodbyeSupervisorConfig binary config suppressDnsRedirect)
            return (spawned.mapError .supervisor, ⟨supervisor⟩)
      else
        return (.error (.driverDependencyMissing
          "WinDivert.dll is missing from engine directory"), adapter)

def GoodbyeDpiAdapter.stop (adapter : GoodbyeDpiAdapter) :
    EngineProg (Except GoodbyeAdapterError Unit) := do
  let stopped ← gracefulStop adapter.supervisor
  return stopped.mapError .supervisor

/-- Walk over the log lines: the first driver error, or whether the filter was
reported active. -/
def scanLogs (activated : Bool) : List String → Except String Bool
  | [] => .ok activated
  | line :: rest =>
      let lower := toLowercase line
      let mentions := fun text : String => contains text.toList lower
      if mentions "failed to open windivert" || mentions "access is denied" ||
          mentions "error opening windivert device" then .error line
      else
        scanLogs (activated || mentions "filter activated" ||
          mentions "goodbyedpi is now running") rest

def goodbyeHealth (status : SupervisorStatus) (recentLogs : List String) : HealthCheckResult :=
  if status.state ≠ .running then
    .unhealthy (s!"ZonDPI motoru çalışmıyor (durum: {status.state.display}, " ++
      s!"son hata: {debugOption status.lastError})")
  else
    match scanLogs false recentLogs with
    | .error line => .unhealthy s!"Paket filtre sürücüsü hatası: {line}"
    | .ok activated =>
        if !activated && decide (status.uptimeSeconds.getD 0 ≥ 2) then
          .unhealthy "ZonDPI motoru başlatıldı; paket filtresinin etkinleşmesi bekleniyor."
        else .healthy 5 "ZonDPI paket filtresi etkin ve çalışıyor."

def GoodbyeDpiAdapter.healthCheck (adapter : GoodbyeDpiAdapter) :
    EngineProg HealthCheckResult := do
  let (status, recentLogs) ← goodbyeStatus adapter.supervisor
  return goodbyeHealth status recentLogs

/-! ### ByeDPI -/

structure ByeDpiAdapter where
  supervisor : Nat
  config : Option ByeDpiConfig
deriving DecidableEq, Repr

def preflightCheckPort (ip : String) (port : Nat) :
    EngineProg (Except ByeDpiAdapterError Unit) := do
  if ← bindPort ip port then return .ok () else return .error (.portAlreadyInUse port)

def byedpiName : String := "ByeDPI-Worker"

def byedpiSupervisorConfig (binary : BinaryPath) (config : ByeDpiConfig) : SupervisorConfig :=
  { SupervisorConfig.new byedpiName binary.path config.toCommandArgs with
    workingDirectory := binary.parent }

def ByeDpiAdapter.start (adapter : ByeDpiAdapter) (profile : ProfileDefinition) :
    EngineProg (Except ByeDpiAdapterError Unit × ByeDpiAdapter) := do
  match ← resolveBinary .byeDpi with
  | .error message => return (.error (.binaryNotFound message), adapter)
  | .ok binary =>
      match ByeDpiConfig.fromProfile profile with
      | .error e => return (.error e, adapter)
      | .ok config =>
          match ← preflightCheckPort config.listenIp config.port with
          | .error e => return (.error e, adapter)
          | .ok () => do
              let (spawned, supervisor) ← spawnWith (byedpiSupervisorConfig binary config)
              return (spawned.mapError .supervisor, ⟨supervisor, some config⟩)

def ByeDpiAdapter.stop (adapter : ByeDpiAdapter) :
    EngineProg (Except ByeDpiAdapterError Unit) := do
  let stopped ← gracefulStop adapter.supervisor
  return stopped.mapError .supervisor

/-- `{:#04x}` of a byte. -/
def hexByte (n : Nat) : String :=
  "0x" ++ String.ofList [Nat.digitChar (n / 16 % 16), Nat.digitChar (n % 16)]

def byedpiHealth (status : SupervisorStatus) (ip : String) (port : Nat) (probe : SocksProbe) :
    HealthCheckResult :=
  if status.state ≠ .running then
    .unhealthy (s!"ZonDPI uyumluluk servisi çalışmıyor (durum: {status.state.display}, " ++
      s!"son hata: {debugOption status.lastError})")
  else
    match probe with
    | .invalidAddress message => .unhealthy s!"Invalid socket address: {message}"
    | .connectFailed message =>
        .unhealthy (s!"ZonDPI uyumluluk bağlantı noktasına bağlanılamadı ({ip}:{port}): " ++ message)
    | .writeFailed message => .unhealthy s!"Failed to write SOCKS5 greeting probe: {message}"
    | .readFailed message =>
        .unhealthy s!"Failed to read SOCKS5 server greeting response: {message}"
    | .response version method elapsed =>
        if version = 5 ∧ method = 0 then
          .healthy elapsed s!"ZonDPI uyumluluk yöntemi etkin ({ip}:{port})."
        else
          .unhealthy ("Unexpected SOCKS5 handshake response: [" ++ hexByte version ++ ", " ++
            hexByte method ++ "]")

/-- The probe got the answer of a SOCKS5 server that asks for no authentication. -/
def SocksProbe.accepted : SocksProbe → Bool
  | .response version method _ => version == 5 && method == 0
  | _ => false

/-- The verdict of the health check does not depend on the address it reports. -/
theorem byedpiHealth_isHealthy (status : SupervisorStatus) (ip : String) (port : Nat)
    (probe : SocksProbe) :
    (byedpiHealth status ip port probe).isHealthy =
      (decide (status.state = .running) && probe.accepted) := by
  unfold byedpiHealth
  by_cases running : status.state = .running
  · cases probe with
    | response version method elapsed =>
        by_cases answer : version = 5 ∧ method = 0
        · simp [running, SocksProbe.accepted, answer]
        · have refused : (version == 5 && method == 0) = false := by simpa using answer
          simp [running, SocksProbe.accepted, answer, refused]
    | _ => simp [running, SocksProbe.accepted]
  · simp [running]

/-- The address a health check connects to. -/
def ByeDpiAdapter.target (adapter : ByeDpiAdapter) : String × Nat :=
  match adapter.config with
  | some config => (config.listenIp, config.port)
  | none => ("127.0.0.1", 1080)

def ByeDpiAdapter.healthCheck (adapter : ByeDpiAdapter) : EngineProg HealthCheckResult := do
  let (ip, port) := adapter.target
  let (status, probe) ← byedpiStatus adapter.supervisor ip port
  return byedpiHealth status ip port probe

end ZonDpi.Engine
