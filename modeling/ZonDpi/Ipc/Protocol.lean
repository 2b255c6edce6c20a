import ZonDpi.Ipc.Framing
import ZonDpi.Lib.Json
import ZonDpi.Manager.Program

/-!
Requests and responses of the IPC protocol, and their JSON (`ipc-protocol/src/lib.rs`).

A struct is written with its fields in the order of their declaration. Results pass
through `serde_json::Value` first, whose objects are sorted by name, so the fields of
the result types stand in that order here.
-/

namespace ZonDpi.Ipc

open Json ZonDpi.Manager

def protocolVersion : Nat := 1

inductive IpcErrorCode where
  | engineBinaryNotFound
  | profileNotFound
  | profileInvalid
  | accessDenied
  | engineStartFailed
  | engineHealthFailed
  | portInUse
  | invalidState
  | unsupportedProtocolVersion
  | internalError
  | timeout
  | badRequest
deriving DecidableEq, Repr

def IpcErrorCode.name : IpcErrorCode → String
  | .engineBinaryNotFound => "ENGINE_BINARY_NOT_FOUND"
  | .profileNotFound => "PROFILE_NOT_FOUND"
  | .profileInvalid => "PROFILE_INVALID"
  | .accessDenied => "ACCESS_DENIED"
  | .engineStartFailed => "ENGINE_START_FAILED"
  | .engineHealthFailed => "ENGINE_HEALTH_FAILED"
  | .portInUse => "PORT_IN_USE"
  | .invalidState => "INVALID_STATE"
  | .unsupportedProtocolVersion => "UNSUPPORTED_PROTOCOL_VERSION"
  | .internalError => "INTERNAL_ERROR"
  | .timeout => "TIMEOUT"
  | .badRequest => "BAD_REQUEST"

structure IpcError where
  code : IpcErrorCode
  message : String
  details : Option String
deriving DecidableEq, Repr

def IpcError.new (code : IpcErrorCode) (message : String) : IpcError := ⟨code, message, none⟩

/-- A field that is left out when it has no value. -/
def optionalField (name : String) : Option Value → List (String × Value)
  | none => []
  | some v => [(name, v)]

def IpcError.toJson (e : IpcError) : Value :=
  .object ([("code", .string e.code.name), ("message", .string e.message)] ++
    optionalField "details" (e.details.map .string))

/-! ### Requests -/

inductive IpcCommand where
  | ping
  | getVersion
  | getStatus
  | getRecommendation
  | listProfiles
  | startEngine (engine profile : String)
  | startAuto (profile : String)
  | stopEngine
  | switchEngine (engine profile : String)
  | getRecentLogs (lines : Option Nat)
deriving DecidableEq, Repr

structure IpcRequest where
  requestId : String
  protocolVersion : Nat
  command : IpcCommand
deriving DecidableEq, Repr

def nullable : Option Value → Value
  | none => .null
  | some v => v

/-- A variant is tagged by its name, with its fields beside the tag. -/
def IpcCommand.toJson (command : IpcCommand) : Value :=
  let tagged := fun (name : String) (payload : Option (List (String × Value))) =>
    Value.object (("type", .string name) :: optionalField "payload" (payload.map .object))
  match command with
  | .ping => tagged "ping" none
  | .getVersion => tagged "get_version" none
  | .getStatus => tagged "get_status" none
  | .getRecommendation => tagged "get_recommendation" none
  | .listProfiles => tagged "list_profiles" none
  | .startEngine engine profile =>
      tagged "start_engine" (some [("engine", .string engine), ("profile", .string profile)])
  | .startAuto profile => tagged "start_auto" (some [("profile", .string profile)])
  | .stopEngine => tagged "stop_engine" none
  | .switchEngine engine profile =>
      tagged "switch_engine" (some [("engine", .string engine), ("profile", .string profile)])
  | .getRecentLogs lines =>
      tagged "get_recent_logs" (some [("lines", nullable (lines.map .number))])

def IpcRequest.toJson (request : IpcRequest) : Value :=
  .object [("request_id", .string request.requestId),
    ("protocol_version", .number request.protocolVersion), ("command", request.command.toJson)]

def IpcRequest.toVec (request : IpcRequest) : List UInt8 := render request.toJson

/-! ### Responses -/

structure IpcResponse where
  requestId : String
  protocolVersion : Nat
  success : Bool
  result : Option Value
  error : Option IpcError

/-- The result of `ok_empty`. -/
def emptyResult : Value := .object [("status", .string "ok")]

namespace IpcResponse

def ofSuccess (requestId : String) (result : Value) : IpcResponse :=
  ⟨requestId, Ipc.protocolVersion, true, some result, none⟩

def failure (requestId : String) (error : IpcError) : IpcResponse :=
  ⟨requestId, Ipc.protocolVersion, false, none, some error⟩

def toJson (response : IpcResponse) : Value :=
  .object ([("request_id", .string response.requestId),
      ("protocol_version", .number response.protocolVersion),
      ("success", .bool response.success)] ++
    optionalField "result" response.result ++
    optionalField "error" (response.error.map IpcError.toJson))

def toVec (response : IpcResponse) : List UInt8 := render response.toJson

/-- A response takes 61 bytes around the id in its quotes and the result. -/
theorem toVec_ofSuccess (requestId : String) (result : Value) :
    (ofSuccess requestId result).toVec.length = stringSize requestId + size result + 61 := by
  have names : stringSize "request_id" = 12 ∧ stringSize "protocol_version" = 18 ∧
      stringSize "success" = 9 ∧ stringSize "result" = 8 ∧ numberSize 1 = 1 := by decide
  obtain ⟨requestIdSize, versionSize, successSize, resultSize, one⟩ := names
  rw [toVec, render_length]
  simp only [toJson, ofSuccess, optionalField, Option.map_none, List.append_nil, List.cons_append,
    List.nil_append, size, sizeFields, Ipc.protocolVersion]
  omega

/-- The word for failure is one byte longer, the name of the field one byte shorter. -/
theorem toVec_failure (requestId : String) (error : IpcError) :
    (failure requestId error).toVec.length = stringSize requestId + size error.toJson + 61 := by
  have names : stringSize "request_id" = 12 ∧ stringSize "protocol_version" = 18 ∧
      stringSize "success" = 9 ∧ stringSize "error" = 7 ∧ numberSize 1 = 1 := by decide
  obtain ⟨requestIdSize, versionSize, successSize, errorSize, one⟩ := names
  rw [toVec, render_length]
  simp only [toJson, failure, optionalField, Option.map_some, List.append_nil, List.cons_append,
    List.nil_append, size, sizeFields, Ipc.protocolVersion]
  omega

end IpcResponse

/-! ### Results -/

structure ProfileSummaryDto where
  id : String
  name : String
  description : String
  targetEngine : String
deriving DecidableEq, Repr

structure RecommendationDto where
  detectedSecurityProducts : List String
  recommendedEngine : String
  rationale : String
  compatibilityRating : String
deriving DecidableEq, Repr

structure LogEntryDto where
  timestamp : String
  stream : String
  line : String
deriving DecidableEq, Repr

def ProfileSummaryDto.toJson (dto : ProfileSummaryDto) : Value :=
  .object [("description", .string dto.description), ("id", .string dto.id),
    ("name", .string dto.name), ("target_engine", .string dto.targetEngine)]

def RecommendationDto.toJson (dto : RecommendationDto) : Value :=
  .object [("compatibility_rating", .string dto.compatibilityRating),
    ("detected_security_products", .array (dto.detectedSecurityProducts.map .string)),
    ("rationale", .string dto.rationale), ("recommended_engine", .string dto.recommendedEngine)]

def LogEntryDto.toJson (dto : LogEntryDto) : Value :=
  .object [("line", .string dto.line), ("stream", .string dto.stream),
    ("timestamp", .string dto.timestamp)]

def healthToJson (dto : HealthStatusDto) : Value :=
  .object [("engine_health", .string dto.engineHealth), ("is_healthy", .bool dto.isHealthy),
    ("latency_ms", .number dto.latencyMs), ("message", .string dto.message),
    ("network_effectiveness", .string dto.networkEffectiveness),
    ("process_health", .string dto.processHealth)]

def statusToJson (dto : ServiceStatusDto) : Value :=
  let text := fun (value : Option String) => nullable (value.map Value.string)
  let count := fun (value : Option Nat) => nullable (value.map Value.number)
  .object ([("active_engine", text dto.activeEngine), ("active_profile", text dto.activeProfile),
      ("compatibility_recommendation", text dto.compatibilityRecommendation)] ++
    optionalField "dns_compatibility_method" (dto.dnsCompatibilityMethod.map .string) ++
    optionalField "dns_provider" (dto.dnsProvider.map .string) ++
    [("engine_pid", count dto.enginePid),
      ("engine_uptime_seconds", count dto.engineUptimeSeconds),
      ("fallback_reason", text dto.fallbackReason), ("health", healthToJson dto.health),
      ("last_error", text dto.lastError), ("mode", .string dto.mode),
      ("requested_engine", text dto.requestedEngine)] ++
    optionalField "security_compatibility" (dto.securityCompatibility.map .string) ++
    [("service_state", .string dto.serviceState), ("uptime_seconds", .number dto.uptimeSeconds),
      ("version", .string dto.version)])

end ZonDpi.Ipc
