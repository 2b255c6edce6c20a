import ZonDpi.Dns.Controller
import ZonDpi.Engine.Adapter

/-!
`EngineManager` (`engine_mgr/mod.rs`).

The operations are programs over `MgrReq`, into which the requests of the DNS
controller and of the engine adapters are embedded. `ManagerInner` is what the
mutex `inner` protects: an operation reads it when it takes the lock, works on
its copy and publishes it when the guard is dropped, on every return path. The
outer `mutation_lock` lets one operation run at a time, so it needs no request.

The delay before a health check and the log lines are left out.
-/

namespace ZonDpi.Manager

open Effects ZonDpi.Std ZonDpi.Dns ZonDpi.Engine ZonDpi.Supervisor

inductive PathError where
  | invalidProfileId (id : String)
  | profileNotFound (id : String) (searched : List String)
deriving DecidableEq, Repr

def PathError.display : PathError → String
  | .invalidProfileId id =>
      s!"Profile identifier '{id}' contains invalid characters or directory traversal attempts"
  | .profileNotFound id searched =>
      s!"Profile '{id}' not found in candidate paths: {debugList searched}"

inductive EngineManagerError where
  | path (error : PathError)
  | profileJson (message : String)
  | goodbye (error : GoodbyeAdapterError)
  | byeDpi (error : ByeDpiAdapterError)
  | dns (error : DnsManagerError)
  | healthCheckFailed (message : String)
  | unknownEngine (name : String)
  | autoModeFailed (message : String)
  | portInUse (port : Nat)
deriving DecidableEq, Repr

def EngineManagerError.display : EngineManagerError → String
  | .path error => s!"Profile error: {error.display}"
  | .profileJson message => s!"Profile JSON deserialization error: {message}"
  | .goodbye error => s!"GoodbyeDPI engine error: {error.display}"
  | .byeDpi error => s!"ByeDPI engine error: {error.display}"
  | .dns error => s!"DNS compatibility error: {error.display}"
  | .healthCheckFailed message =>
      s!"Engine start failed health check verification: {message}"
  | .unknownEngine name =>
      s!"Unknown or unsupported engine name: '{name}' (expected 'goodbye' or 'byedpi')"
  | .autoModeFailed message =>
      s!"Auto mode failed to activate any available engine: {message}"
  | .portInUse port => s!"Port already in use: {port}"

inductive ActiveMode where
  | idle
  | manual (engine : EngineId)
  | auto (preferred : EngineId) (fallbackReason : Option String)
deriving DecidableEq, Repr

/-- The DNS controller, which has no state of its own, is not a field here. -/
structure ManagerInner where
  goodbyeAdapter : GoodbyeDpiAdapter
  byedpiAdapter : ByeDpiAdapter
  dnsProvider : DnsProvider
  kasperskyDnsOverrideApplied : Bool
  activeMode : ActiveMode
  activeEngine : Option EngineId
  requestedEngine : Option EngineId
  activeProfile : Option String
  lastError : Option String
deriving DecidableEq, Repr

/-- The functions that ask the security detector; its answer may differ between
two calls. -/
inductive DetectCaller where
  | startEngineInternal
  | resolveEffectiveProfile
  | evaluateRecommendation
deriving DecidableEq, Repr

inductive MgrReq where
  | dns (r : DnsReq)
  | engine (r : EngineReq)
  /-- `security_detector.detect()` -/
  | detect (caller : DetectCaller)
  | loadProfile (profileId : String)
  | lockInner
  /-- The guard of `inner` is dropped, or the manager has been built. -/
  | publish (inner : ManagerInner)

abbrev MgrResp : MgrReq → Type
  | .dns r => DnsResp r
  | .engine r => EngineResp r
  | .detect _ => SecurityEnvironment
  | .loadProfile _ => Except EngineManagerError ProfileDefinition
  | .lockInner => ManagerInner
  | .publish _ => Unit

abbrev MgrProg (α : Type) : Type := Prog MgrReq MgrResp α

/-! ### The calls -/

def liftDns {α : Type} (p : DnsProg α) : MgrProg α := p.embed MgrReq.dns fun _ answer => answer

def liftEngine {α : Type} (p : EngineProg α) : MgrProg α :=
  p.embed MgrReq.engine fun _ answer => answer

def detect (caller : DetectCaller) : MgrProg SecurityEnvironment :=
  Prog.ask (MgrReq.detect caller)

def loadProfile (profileId : String) : MgrProg (Except EngineManagerError ProfileDefinition) :=
  Prog.ask (MgrReq.loadProfile profileId)

def lockInner : MgrProg ManagerInner := Prog.ask MgrReq.lockInner

def publish (inner : ManagerInner) : MgrProg Unit := Prog.ask (MgrReq.publish inner)

/-- Code that runs with `inner` locked, from taking the lock to dropping it. -/
def withInner {α : Type} (body : ManagerInner → MgrProg (α × ManagerInner)) : MgrProg α := do
  let inner ← lockInner
  let (result, inner) ← body inner
  publish inner
  return result

/-! ### `EngineManager::new` -/

def ManagerInner.new (goodbye byedpi : Nat) : ManagerInner where
  goodbyeAdapter := ⟨goodbye⟩
  byedpiAdapter := ⟨byedpi, none⟩
  dnsProvider := .automatic
  kasperskyDnsOverrideApplied := false
  activeMode := .idle
  activeEngine := none
  requestedEngine := none
  activeProfile := none
  lastError := none

def newManager : MgrProg Unit := do
  let goodbye ← liftEngine (newSupervisor (.new goodbyeName "goodbyedpi.exe" []))
  let byedpi ← liftEngine (newSupervisor (.new byedpiName "ciadpi.exe" []))
  let _ ← liftDns (handleBootRecovery false .automatic)
  publish (.new goodbye byedpi)

/-! ### Starting an engine -/

/-- Give up an override that is in force; its errors are discarded. -/
def rollbackDns (inner : ManagerInner) : MgrProg ManagerInner :=
  if inner.kasperskyDnsOverrideApplied then do
    let _ ← liftDns restoreDns
    return { inner with kasperskyDnsOverrideApplied := false }
  else return inner

/-- Both adapters are stopped, whichever engine is active. -/
def stopEngines (inner : ManagerInner) : MgrProg ManagerInner := do
  let _ ← liftEngine inner.goodbyeAdapter.stop
  let _ ← liftEngine inner.byedpiAdapter.stop
  rollbackDns inner

/-- Step 1: stop any active engine and clear its override. -/
def stopActive (inner : ManagerInner) : MgrProg ManagerInner :=
  if inner.activeEngine.isSome then do
    let inner ← stopEngines inner
    return { inner with activeEngine := none }
  else return inner

/-- Step 2: the adapter override that goes with GoodbyeDPI beside Kaspersky. -/
def overrideDns (engine : EngineId) (kasperskyDetected : Bool) (inner : ManagerInner) :
    MgrProg (Except EngineManagerError Unit × ManagerInner) :=
  if engine = .goodbyeDpi ∧ kasperskyDetected = true ∧
      inner.dnsProvider.shouldOverrideSystem = true then do
    match ← liftDns (applyDns inner.dnsProvider) with
    | .ok _ => return (.ok (), { inner with kasperskyDnsOverrideApplied := true })
    | .error e => return (.error (.dns e), { inner with lastError := some e.display })
  else return (.ok (), inner)

/-- Step 3 for GoodbyeDPI. -/
def launchGoodbye (profile : ProfileDefinition) (suppressDnsRedirect : Bool)
    (inner : ManagerInner) : MgrProg (Except EngineManagerError Unit × ManagerInner) := do
  let (started, adapter) ← liftEngine (inner.goodbyeAdapter.start profile suppressDnsRedirect)
  let inner := { inner with goodbyeAdapter := adapter }
  match started with
  | .error e => do
      let inner ← rollbackDns inner
      return (.error (.goodbye e), { inner with lastError := some e.display })
  | .ok () => do
      let health ← liftEngine inner.goodbyeAdapter.healthCheck
      if health.isHealthy then return (.ok (), inner)
      else do
        let _ ← liftEngine inner.goodbyeAdapter.stop
        let inner ← rollbackDns inner
        return (.error (.healthCheckFailed health.diagnosticMessage),
          { inner with lastError := some health.diagnosticMessage })

/-- How the manager reports an error of the ByeDPI adapter. -/
def ofByeDpiError : ByeDpiAdapterError → EngineManagerError
  | .portAlreadyInUse port => .portInUse port
  | e => .byeDpi e

/-- Step 3 for ByeDPI, which has no override to roll back. -/
def launchByeDpi (profile : ProfileDefinition) (inner : ManagerInner) :
    MgrProg (Except EngineManagerError Unit × ManagerInner) := do
  let (started, adapter) ← liftEngine (inner.byedpiAdapter.start profile)
  let inner := { inner with byedpiAdapter := adapter }
  match started with
  | .error e => return (.error (ofByeDpiError e), { inner with lastError := some e.display })
  | .ok () => do
      let health ← liftEngine inner.byedpiAdapter.healthCheck
      if health.isHealthy then return (.ok (), inner)
      else do
        let _ ← liftEngine inner.byedpiAdapter.stop
        return (.error (.healthCheckFailed health.diagnosticMessage),
          { inner with lastError := some health.diagnosticMessage })

def launch (engine : EngineId) (profile : ProfileDefinition) (suppressDnsRedirect : Bool)
    (inner : ManagerInner) : MgrProg (Except EngineManagerError Unit × ManagerInner) :=
  match engine with
  | .goodbyeDpi => launchGoodbye profile suppressDnsRedirect inner
  | .byeDpi => launchByeDpi profile inner
  | .native => pure (.error (.unknownEngine "NativeRust"), inner)

def commit (engine : EngineId) (profileId : String) (mode : ActiveMode) (inner : ManagerInner) :
    ManagerInner :=
  { inner with activeEngine := some engine, activeProfile := some profileId,
               activeMode := mode, lastError := none }

/-- The part of `start_engine_internal` that holds the lock. -/
def startLocked (engine : EngineId) (kasperskyDetected : Bool) (profileId : String)
    (profile : ProfileDefinition) (mode : ActiveMode) (inner : ManagerInner) :
    MgrProg (Except EngineManagerError Unit × ManagerInner) := do
  let inner ← stopActive { inner with requestedEngine := some engine }
  match ← overrideDns engine kasperskyDetected inner with
  | (.error e, inner) => return (.error e, inner)
  | (.ok (), inner) =>
      match ← launch engine profile kasperskyDetected inner with
      | (.error e, inner) => return (.error e, inner)
      | (.ok (), inner) => return (.ok (), commit engine profileId mode inner)

def resolveEffectiveProfile (engine : EngineId) (requestedProfile : String) : MgrProg String := do
  let secEnv ← detect .resolveEffectiveProfile
  if secEnv.containsProduct "kaspersky" = true ∧ engine = .goodbyeDpi then
    return "turkey-default"
  else return requestedProfile

def startEngineInternal (engine : EngineId) (profileId : String) (mode : ActiveMode) :
    MgrProg (Except EngineManagerError Unit) := do
  let secEnv ← detect .startEngineInternal
  let kasperskyDetected := secEnv.containsProduct "kaspersky"
  let effectiveProfileId ← resolveEffectiveProfile engine profileId
  (loadProfile effectiveProfileId).andThen fun profile =>
    withInner (startLocked engine kasperskyDetected effectiveProfileId profile mode)

/-! ### The operations -/

def startEngine (engine : EngineId) (profileId : String) :
    MgrProg (Except EngineManagerError Unit) :=
  startEngineInternal engine profileId (.manual engine)

def switchEngine (targetEngine : EngineId) (profileId : String) :
    MgrProg (Except EngineManagerError Unit) :=
  startEngineInternal targetEngine profileId (.manual targetEngine)

def evaluateRecommendation : MgrProg EngineRecommendation := do
  let secEnv ← detect .evaluateRecommendation
  return evaluate secEnv .goodbyeDpi .byeDpi (.healthy 5 "Ready") (.healthy 5 "Ready")

def alternativeTo : EngineId → EngineId
  | .goodbyeDpi => .byeDpi
  | .byeDpi => .goodbyeDpi
  | .native => .byeDpi

def startAuto (profileId : String) : MgrProg (Except EngineManagerError Unit) := do
  let recommendation ← evaluateRecommendation
  let preferred := recommendation.preferredEngine.getD .goodbyeDpi
  match ← startEngineInternal preferred profileId (.auto preferred none) with
  | .ok () => return .ok ()
  | .error e =>
      let fallback := recommendation.fallbackEngine.getD (alternativeTo preferred)
      let fallbackReason := s!"{preferred.display} startup/health check failed: {e.display}"
      match ← startEngineInternal fallback profileId (.auto preferred (some fallbackReason)) with
      | .ok () => return .ok ()
      | .error fallbackErr =>
          withInner fun inner => pure
            (.error (.autoModeFailed
              (s!"Preferred ({preferred.display}) error: {e.display}; " ++
                s!"Fallback ({fallback.display}) error: {fallbackErr.display}")),
            { inner with
              activeMode := .idle
              lastError := some (s!"Both {preferred.display} and {fallback.display} failed to " ++
                s!"start. Last error: {fallbackErr.display}") })

def stopEngine : MgrProg (Except EngineManagerError Unit) :=
  withInner fun inner => do
    let inner ← stopEngines inner
    return (.ok (),
      { inner with activeEngine := none, activeProfile := none, activeMode := .idle,
                   lastError := none })

/-- The operations that hold the mutation lock. -/
inductive ManagerOp where
  | startEngine (engine : EngineId) (profileId : String)
  | startAuto (profileId : String)
  | switchEngine (targetEngine : EngineId) (profileId : String)
  | stopEngine
deriving DecidableEq, Repr

def ManagerOp.program : ManagerOp → MgrProg (Except EngineManagerError Unit)
  | .startEngine engine profileId => Manager.startEngine engine profileId
  | .startAuto profileId => Manager.startAuto profileId
  | .switchEngine engine profileId => Manager.switchEngine engine profileId
  | .stopEngine => Manager.stopEngine

/-! ### The status report -/

structure HealthStatusDto where
  isHealthy : Bool
  latencyMs : Nat
  message : String
  processHealth : String
  engineHealth : String
  networkEffectiveness : String
deriving DecidableEq, Repr

structure ServiceStatusDto where
  version : String
  uptimeSeconds : Nat
  serviceState : String
  mode : String
  activeEngine : Option String
  requestedEngine : Option String
  activeProfile : Option String
  enginePid : Option Nat
  engineUptimeSeconds : Option Nat
  health : HealthStatusDto
  compatibilityRecommendation : Option String
  fallbackReason : Option String
  lastError : Option String
  securityCompatibility : Option String
  dnsCompatibilityMethod : Option String
  dnsProvider : Option String
deriving DecidableEq, Repr

/-- What `get_status` reads besides the fields of the manager: the package's
version, the clock, status and health check of the active engine, the detector,
and the DNS probe. -/
structure StatusReadings where
  version : String
  uptimeSeconds : Nat
  supervisor : SupervisorStatus
  health : HealthCheckResult
  security : SecurityEnvironment
  dnsProbe : Except DnsManagerError Bool

/-- The report on a running engine, with the text for its health. -/
def runningHealth (readings : StatusReadings) (engineHealth : String) : HealthStatusDto where
  isHealthy := readings.health.isHealthy
  latencyMs := readings.health.latency
  message := readings.health.diagnosticMessage
  processHealth := readings.supervisor.state.display
  engineHealth := engineHealth
  networkEffectiveness := "Bilinmiyor"

def goodbyeHealthText (readings : StatusReadings) : String :=
  if readings.health.isHealthy then "Paket filtresi etkin"
  else if readings.supervisor.state = .running then "Paket filtresi hazırlanıyor"
  else "Paket filtresi etkinleştirilemedi"

def byedpiHealthText (readings : StatusReadings) : String :=
  if readings.health.isHealthy then "Uyumluluk modu etkin" else "Uyumluluk modu devre dışı"

def stoppedHealth : HealthStatusDto where
  isHealthy := true
  latencyMs := 0
  message := "ZonDPI koruması kapalı"
  processHealth := "Durduruldu"
  engineHealth := "Devre Dışı"
  networkEffectiveness := "Bilinmiyor"

def engineReport (active : Option EngineId) (readings : StatusReadings) :
    Option Nat × Option Nat × String × HealthStatusDto :=
  let supervisor := readings.supervisor
  match active with
  | some .goodbyeDpi => (supervisor.pid, supervisor.uptimeSeconds, supervisor.state.display,
      runningHealth readings (goodbyeHealthText readings))
  | some .byeDpi => (supervisor.pid, supervisor.uptimeSeconds, supervisor.state.display,
      runningHealth readings (byedpiHealthText readings))
  | _ => (none, none, SupervisorState.stopped.display, stoppedHealth)

def modeReport : ActiveMode → String × Option String
  | .idle => ("Kapalı", none)
  | .manual _ => ("Manuel", none)
  | .auto _ fallbackReason => ("Otomatik", fallbackReason)

def ManagerInner.getStatus (inner : ManagerInner) (readings : StatusReadings) : ServiceStatusDto :=
  let (enginePid, engineUptime, serviceState, health) := engineReport inner.activeEngine readings
  let (mode, fallbackReason) := modeReport inner.activeMode
  let kasperskyDetected := readings.security.containsProduct "kaspersky"
  let effectiveness :=
    if inner.kasperskyDnsOverrideApplied && health.isHealthy then
      match readings.dnsProbe with
      | .ok true => "Doğrulandı"
      | _ => "Etkin"
    else health.networkEffectiveness
  { version := readings.version
    uptimeSeconds := readings.uptimeSeconds
    serviceState := serviceState
    mode := mode
    activeEngine := inner.activeEngine.map EngineId.display
    requestedEngine := inner.requestedEngine.map EngineId.display
    activeProfile := inner.activeProfile
    enginePid := enginePid
    engineUptimeSeconds := engineUptime
    health := { health with networkEffectiveness := effectiveness }
    compatibilityRecommendation := some "Otomatik (Uyumlu)"
    fallbackReason := fallbackReason
    lastError := inner.lastError
    securityCompatibility := if kasperskyDetected then some "Kaspersky" else none
    dnsCompatibilityMethod := if kasperskyDetected then some "Sistem DNS yapılandırması" else none
    dnsProvider := if kasperskyDetected then some "Cloudflare" else none }

end ZonDpi.Manager
