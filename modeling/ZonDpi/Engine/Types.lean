import ZonDpi.Std.Text

/-!
What the engines, the compatibility policy and the manager share: engine
identifiers and profiles (`core/packet-engine`), health check results, and the
security environment with the policy on it (`core/compatibility`).

Of `EngineCapabilities` only the identifier is read by a modelled function.
-/

namespace ZonDpi.Engine

open ZonDpi.Std

inductive EngineId where
  | goodbyeDpi
  | byeDpi
  | native
deriving DecidableEq, Repr

def EngineId.display : EngineId → String
  | .goodbyeDpi => "GoodbyeDPI"
  | .byeDpi => "ByeDPI"
  | .native => "NativeRust"

structure ProfileDefinition where
  id : String
  name : String
  description : String
  targetEngine : String
  arguments : List String
deriving DecidableEq, Repr

/-- The probe results besides `is_healthy` always equal it. -/
structure HealthCheckResult where
  isHealthy : Bool
  /-- in milliseconds -/
  latency : Nat
  diagnosticMessage : String
deriving DecidableEq, Repr

namespace HealthCheckResult

def healthy (latency : Nat) (message : String) : HealthCheckResult := ⟨true, latency, message⟩

def unhealthy (message : String) : HealthCheckResult := ⟨false, 0, message⟩

@[simp] theorem healthy_isHealthy (latency : Nat) (message : String) :
    (healthy latency message).isHealthy = true := rfl

@[simp] theorem unhealthy_isHealthy (message : String) :
    (unhealthy message).isHealthy = false := rfl

end HealthCheckResult

structure EngineCapabilities where
  engineId : EngineId
deriving DecidableEq, Repr

namespace EngineCapabilities

def goodbyeDpi : EngineCapabilities := ⟨.goodbyeDpi⟩

def byeDpi : EngineCapabilities := ⟨.byeDpi⟩

end EngineCapabilities

/-! ### The security environment -/

structure SecurityProduct where
  displayName : String
  productState : Nat
  pathToSignedProductExe : Option String
  pathToSignedReportingExe : Option String
deriving DecidableEq, Repr

inductive DetectionStatus where
  | available
  | unavailable
  | failed (message : String)
deriving DecidableEq, Repr

structure SecurityEnvironment where
  products : List SecurityProduct
  detectionStatus : DetectionStatus
deriving DecidableEq, Repr

namespace SecurityEnvironment

def containsProduct (env : SecurityEnvironment) (nameSubstr : String) : Bool :=
  let needle := toLowercase nameSubstr
  env.products.any fun product => contains needle (toLowercase product.displayName)

end SecurityEnvironment

/-! ### The compatibility policy -/

/-- The confidence of a recommendation, a constant nothing computes with, is
left out. -/
structure EngineRecommendation where
  preferredEngine : Option EngineId
  fallbackEngine : Option EngineId
  reason : String
deriving DecidableEq, Repr

/-- `CompatibilityPolicy::evaluate`. -/
def evaluate (env : SecurityEnvironment) (goodbyeCaps byedpiCaps : EngineCapabilities)
    (goodbyeHealth byedpiHealth : HealthCheckResult) : EngineRecommendation :=
  let kasperskyDetected := env.containsProduct "kaspersky"
  if goodbyeHealth.isHealthy then
    { preferredEngine := some goodbyeCaps.engineId
      fallbackEngine := if byedpiHealth.isHealthy then some byedpiCaps.engineId else none
      reason :=
        if kasperskyDetected then
          "GoodbyeDPI passed system health verification. Kaspersky is active on host: WinDivert " ++
          "is operating normally, with driver-free ByeDPI as fallback if WFP interference occurs."
        else if env.detectionStatus ≠ .available then
          "GoodbyeDPI passed health verification (Security detection status: " ++
          "unavailable/failed; engine health prioritized)."
        else "GoodbyeDPI verified healthy for system-wide packet evasion." }
  else if byedpiHealth.isHealthy then
    { preferredEngine := some byedpiCaps.engineId
      fallbackEngine := none
      reason :=
        if kasperskyDetected then
          "GoodbyeDPI health check failed in Kaspersky environment (driver load / packet capture " ++
          "error). Safely switched to driver-free ByeDPI SOCKS5 engine to prevent kernel filter " ++
          "collision."
        else
          s!"GoodbyeDPI is unhealthy ({goodbyeHealth.diagnosticMessage}); using driver-free " ++
          "ByeDPI engine." }
  else
    { preferredEngine := none
      fallbackEngine := none
      reason :=
        "Both engines failed health verification. GoodbyeDPI: " ++
        s!"'{goodbyeHealth.diagnosticMessage}', ByeDPI: '{byedpiHealth.diagnosticMessage}'. " ++
        "Action required: verify file integrity and network adapter status." }

end ZonDpi.Engine
