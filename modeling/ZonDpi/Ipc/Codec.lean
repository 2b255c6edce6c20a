import Mathlib.Data.List.Nodup
import ZonDpi.Ipc.Protocol
import ZonDpi.Std.JsonText
import ZonDpi.Std.Serde

/-!
What the derived `Deserialize` instances of the protocol's types make of a payload
(`ipc-protocol/src/lib.rs`).

Requests and responses come back from the bytes that `to_vec` writes for them
(`fromSlice_request`, `fromSlice_response`), and so does a status from its
`serde_json::Value` (`fromDoc_status`). A response needs more than a request: its result
passes through `serde_json::Value`, which sorts the fields of objects, and a result of
`null` is read as no result at all.
-/

namespace ZonDpi.Ipc

open Json ZonDpi.Std ZonDpi.Manager

/-! ### Fields -/

def bool : Doc → Option Bool
  | .bool value => some value
  | _ => none

/-- A structure whose fields after the first `needed` have a default: an array may end
before them. -/
def membersDefaulting (needed : Nat) (names : List String) : Doc → Option (List (Option Doc))
  | .array items =>
      if needed ≤ items.length ∧ items.length ≤ names.length then
        some (items.map some ++ List.replicate (names.length - items.length) none)
      else none
  | doc => Serde.members names doc

/-- A field with a default. -/
def defaulting {α : Type} (default : α) (decode : Doc → Option α) : Option Doc → Option α
  | none => some default
  | some doc => decode doc

theorem find?_toDocFields (name : String) (fields : List (String × Value)) :
    ((toDocFields fields).find? fun field => field.1 = some name) =
      (fields.find? fun field => field.1 = name).map fun field =>
        (some field.1, field.2.toDoc) := by
  induction fields with
  | nil => rw [toDocFields, List.find?_nil, List.find?_nil, Option.map_none]
  | cons field rest ih =>
      obtain ⟨other, v⟩ := field
      rw [toDocFields, List.find?_cons, List.find?_cons, ih]
      by_cases same : other = name <;> simp [same]

theorem filter_toDocFields (name : String) (fields : List (String × Value)) :
    ((toDocFields fields).filter fun field => field.1 = some name).length =
      ((fields.map Prod.fst).filter (· = name)).length := by
  induction fields with
  | nil => rw [toDocFields, List.filter_nil, List.map_nil, List.filter_nil]; rfl
  | cons field rest ih =>
      obtain ⟨other, v⟩ := field
      rw [toDocFields, List.map_cons, List.filter_cons, List.filter_cons]
      by_cases same : other = name <;> simp [same, ih]

/-- The fields of an object that was written, by their names. -/
theorem members_toDocFields {names : List String} {fields : List (String × Value)}
    (distinct : (fields.map Prod.fst).Nodup) :
    Serde.members names (.object (toDocFields fields)) =
      some (names.map fun name =>
        (fields.find? fun field => field.1 = name).map fun field => field.2.toDoc) := by
  have named : (toDocFields fields).all (fun field => field.1.isSome) = true := by
    induction fields with
    | nil => rfl
    | cons field rest ih =>
        obtain ⟨name, v⟩ := field
        rw [toDocFields, List.all_cons, ih (List.nodup_cons.mp distinct).2]
        rfl
  have once : names.all (fun name =>
      ((toDocFields fields).filter fun field => field.1 = some name).length ≤ 1) = true := by
    rw [List.all_eq_true]
    intro name _
    have count := List.nodup_iff_count_le_one.mp distinct name
    rw [List.count_eq_length_filter] at count
    rw [filter_toDocFields, decide_eq_true_eq]
    exact count
  rw [Serde.members, named, once, Bool.and_true, if_pos rfl]
  simp only [find?_toDocFields, Option.map_map]
  rfl

/-! ### Requests -/

/-- Nothing but `null` may stand beside the tag. -/
def unitVariant (command : IpcCommand) : Option Doc → Option IpcCommand
  | none | some .null => some command
  | _ => none

/-- The fields beside the tag. They have to be an object. -/
def structVariant (names : List String) : Option Doc → Option (List (Option Doc))
  | some (.object fields) => Serde.members names (.object fields)
  | _ => none

def IpcCommand.fromDoc (doc : Doc) : Option IpcCommand :=
  match Serde.members ["type", "payload"] doc with
  | some [tag, payload] => do
      let tag ← Serde.required Serde.string tag
      if tag = "ping" then unitVariant .ping payload
      else if tag = "get_version" then unitVariant .getVersion payload
      else if tag = "get_status" then unitVariant .getStatus payload
      else if tag = "get_recommendation" then unitVariant .getRecommendation payload
      else if tag = "list_profiles" then unitVariant .listProfiles payload
      else if tag = "start_engine" then
        match structVariant ["engine", "profile"] payload with
        | some [engine, profile] => do
            let engine ← Serde.required Serde.string engine
            let profile ← Serde.required Serde.string profile
            return .startEngine engine profile
        | _ => none
      else if tag = "start_auto" then
        match structVariant ["profile"] payload with
        | some [profile] => do
            let profile ← Serde.required Serde.string profile
            return .startAuto profile
        | _ => none
      else if tag = "stop_engine" then unitVariant .stopEngine payload
      else if tag = "switch_engine" then
        match structVariant ["engine", "profile"] payload with
        | some [engine, profile] => do
            let engine ← Serde.required Serde.string engine
            let profile ← Serde.required Serde.string profile
            return .switchEngine engine profile
        | _ => none
      else if tag = "get_recent_logs" then
        match structVariant ["lines"] payload with
        | some [lines] => do
            let lines ← Serde.optional (Serde.unsigned u64Max) lines
            return .getRecentLogs lines
        | _ => none
      else none
  | _ => none

def IpcRequest.fromDoc (doc : Doc) : Option IpcRequest :=
  match Serde.members ["request_id", "protocol_version", "command"] doc with
  | some [requestId, protocolVersion, command] => do
      let requestId ← Serde.required Serde.string requestId
      let protocolVersion ← Serde.required (Serde.unsigned u32Max) protocolVersion
      let command ← Serde.required IpcCommand.fromDoc command
      return ⟨requestId, protocolVersion, command⟩
  | _ => none

/-! ### Responses -/

def IpcErrorCode.all : List IpcErrorCode :=
  [.engineBinaryNotFound, .profileNotFound, .profileInvalid, .accessDenied, .engineStartFailed,
    .engineHealthFailed, .portInUse, .invalidState, .unsupportedProtocolVersion, .internalError,
    .timeout, .badRequest]

def IpcErrorCode.ofName (name : String) : Option IpcErrorCode :=
  IpcErrorCode.all.find? fun code => code.name = name

/-- A variant without fields is its name, or an object with `null` under the name. -/
def IpcErrorCode.fromDoc : Doc → Option IpcErrorCode
  | .string name => name >>= IpcErrorCode.ofName
  | .object [(name, .null)] => name >>= IpcErrorCode.ofName
  | _ => none

def IpcError.fromDoc (doc : Doc) : Option IpcError :=
  match Serde.members ["code", "message", "details"] doc with
  | some [code, message, details] => do
      let code ← Serde.required IpcErrorCode.fromDoc code
      let message ← Serde.required Serde.string message
      let details ← Serde.optional Serde.string details
      return ⟨code, message, details⟩
  | _ => none

/-- The levels that `serde_json`'s limit of 128 leaves inside a response. -/
def resultRoom : Nat := 126

def IpcResponse.fromDoc (doc : Doc) : Option IpcResponse :=
  match Serde.members ["request_id", "protocol_version", "success", "result", "error"] doc with
  | some [requestId, protocolVersion, success, result, error] => do
      let requestId ← Serde.required Serde.string requestId
      let protocolVersion ← Serde.required (Serde.unsigned u32Max) protocolVersion
      let success ← Serde.required bool success
      let result ← Serde.optional (Doc.toValue resultRoom) result
      let error ← Serde.optional IpcError.fromDoc error
      return ⟨requestId, protocolVersion, success, result, error⟩
  | _ => none

/-! ### A status -/

def HealthStatusDto.fromDoc (doc : Doc) : Option HealthStatusDto :=
  match membersDefaulting 3 ["is_healthy", "latency_ms", "message", "process_health",
      "engine_health", "network_effectiveness"] doc with
  | some [isHealthy, latencyMs, message, processHealth, engineHealth, networkEffectiveness] => do
      let isHealthy ← Serde.required bool isHealthy
      let latencyMs ← Serde.required (Serde.unsigned u64Max) latencyMs
      let message ← Serde.required Serde.string message
      let processHealth ← defaulting "Unknown" Serde.string processHealth
      let engineHealth ← defaulting "Unknown" Serde.string engineHealth
      let networkEffectiveness ← defaulting "Unknown" Serde.string networkEffectiveness
      return ⟨isHealthy, latencyMs, message, processHealth, engineHealth, networkEffectiveness⟩
  | _ => none

def ServiceStatusDto.fromDoc (doc : Doc) : Option ServiceStatusDto :=
  match membersDefaulting 13 ["version", "uptime_seconds", "service_state", "mode",
      "active_engine", "requested_engine", "active_profile", "engine_pid",
      "engine_uptime_seconds", "health", "compatibility_recommendation", "fallback_reason",
      "last_error", "security_compatibility", "dns_compatibility_method", "dns_provider"] doc with
  | some [version, uptimeSeconds, serviceState, mode, activeEngine, requestedEngine,
      activeProfile, enginePid, engineUptimeSeconds, health, compatibilityRecommendation,
      fallbackReason, lastError, securityCompatibility, dnsCompatibilityMethod, dnsProvider] => do
      let version ← Serde.required Serde.string version
      let uptimeSeconds ← Serde.required (Serde.unsigned u64Max) uptimeSeconds
      let serviceState ← Serde.required Serde.string serviceState
      let mode ← Serde.required Serde.string mode
      let activeEngine ← Serde.optional Serde.string activeEngine
      let requestedEngine ← Serde.optional Serde.string requestedEngine
      let activeProfile ← Serde.optional Serde.string activeProfile
      let enginePid ← Serde.optional (Serde.unsigned u32Max) enginePid
      let engineUptimeSeconds ← Serde.optional (Serde.unsigned u64Max) engineUptimeSeconds
      let health ← Serde.required HealthStatusDto.fromDoc health
      let compatibilityRecommendation ← Serde.optional Serde.string compatibilityRecommendation
      let fallbackReason ← Serde.optional Serde.string fallbackReason
      let lastError ← Serde.optional Serde.string lastError
      let securityCompatibility ← Serde.optional Serde.string securityCompatibility
      let dnsCompatibilityMethod ← Serde.optional Serde.string dnsCompatibilityMethod
      let dnsProvider ← Serde.optional Serde.string dnsProvider
      return ⟨version, uptimeSeconds, serviceState, mode, activeEngine, requestedEngine,
        activeProfile, enginePid, engineUptimeSeconds, health, compatibilityRecommendation,
        fallbackReason, lastError, securityCompatibility, dnsCompatibilityMethod, dnsProvider⟩
  | _ => none

/-! ### Round trips -/

/-- The numbers in a command are of their types. -/
def IpcCommand.InRange : IpcCommand → Prop
  | .getRecentLogs (some lines) => lines ≤ u64Max
  | _ => True

theorem fromDoc_command {command : IpcCommand} (inRange : command.InRange) :
    IpcCommand.fromDoc command.toJson.toDoc = some command := by
  cases command with
  | getRecentLogs lines =>
      cases lines with
      | none =>
          simp [IpcCommand.fromDoc, IpcCommand.toJson, optionalField, members_toDocFields,
            Serde.required, Serde.string, Value.toDoc, structVariant, nullable, Serde.optional]
      | some lines =>
          have small : lines ≤ u64Max := inRange
          simp [IpcCommand.fromDoc, IpcCommand.toJson, optionalField, members_toDocFields,
            Serde.required, Serde.string, Value.toDoc, structVariant, nullable, Serde.optional,
            Serde.unsigned, small]
  | startEngine engine profile =>
      simp [IpcCommand.fromDoc, IpcCommand.toJson, optionalField, members_toDocFields,
        Serde.required, Serde.string, Value.toDoc, structVariant]
  | startAuto profile =>
      simp [IpcCommand.fromDoc, IpcCommand.toJson, optionalField, members_toDocFields,
        Serde.required, Serde.string, Value.toDoc, structVariant]
  | switchEngine engine profile =>
      simp [IpcCommand.fromDoc, IpcCommand.toJson, optionalField, members_toDocFields,
        Serde.required, Serde.string, Value.toDoc, structVariant]
  | _ =>
      simp [IpcCommand.fromDoc, IpcCommand.toJson, optionalField, members_toDocFields,
        Serde.required, Serde.string, Value.toDoc, unitVariant]

theorem fromDoc_request {request : IpcRequest} (version : request.protocolVersion ≤ u32Max)
    (inRange : request.command.InRange) :
    IpcRequest.fromDoc request.toJson.toDoc = some request := by
  simp [IpcRequest.fromDoc, IpcRequest.toJson, Value.toDoc, members_toDocFields, Serde.required,
    Serde.string, Serde.unsigned, version, fromDoc_command inRange]

theorem ofName_name (code : IpcErrorCode) : IpcErrorCode.ofName code.name = some code := by
  cases code <;> decide

theorem fromDoc_error (error : IpcError) : IpcError.fromDoc error.toJson.toDoc = some error := by
  obtain ⟨code, message, details⟩ := error
  cases details with
  | none =>
      simp [IpcError.fromDoc, IpcError.toJson, Value.toDoc, optionalField, members_toDocFields,
        Serde.required, Serde.optional, Serde.string, IpcErrorCode.fromDoc, ofName_name]
  | some details =>
      simp [IpcError.fromDoc, IpcError.toJson, Value.toDoc, optionalField, members_toDocFields,
        Serde.required, Serde.optional, Serde.string, IpcErrorCode.fromDoc, ofName_name]

theorem optional_some {α : Type} {decode : Doc → Option α} {doc : Doc} {x : α}
    (present : doc ≠ .null) (read : decode doc = some x) :
    Serde.optional decode (some doc) = some (some x) := by
  unfold Serde.optional
  split
  · rename_i same
    cases same
  · rename_i same
    exact absurd (Option.some.inj same) present
  · rename_i same
    rw [← Option.some.inj same, read, Option.map_some]

theorem toDoc_ne_null {v : Value} (notNull : v ≠ .null) : v.toDoc ≠ .null := by
  cases v with
  | null => exact absurd rfl notNull
  | _ => simp [Value.toDoc]

/-- What a response holds comes back from its text. -/
structure IpcResponse.Sendable (response : IpcResponse) : Prop where
  version : response.protocolVersion ≤ u32Max
  notNull : response.result ≠ some .null
  kept : ∀ v, response.result = some v → Kept resultRoom v

theorem fromDoc_response {response : IpcResponse} (sendable : response.Sendable) :
    IpcResponse.fromDoc response.toJson.toDoc = some response := by
  obtain ⟨requestId, protocolVersion, success, result, error⟩ := response
  obtain ⟨version, notNull, kept⟩ := sendable
  have fields : Serde.members ["request_id", "protocol_version", "success", "result", "error"]
      (IpcResponse.toJson ⟨requestId, protocolVersion, success, result, error⟩).toDoc =
        some [some (.string (some requestId)), some (.natural protocolVersion),
          some (.bool success), result.map Value.toDoc,
          (error.map IpcError.toJson).map Value.toDoc] := by
    cases result <;> cases error <;>
      simp [IpcResponse.toJson, optionalField, Value.toDoc, members_toDocFields]
  have resultRead : Serde.optional (Doc.toValue resultRoom) (result.map Value.toDoc) =
      some result := by
    cases result with
    | none => rfl
    | some v =>
        have there : v ≠ .null := fun same => notNull (congrArg some same)
        exact optional_some (toDoc_ne_null there) (toValue_toDoc (kept v rfl))
  have errorRead : Serde.optional IpcError.fromDoc
      ((error.map IpcError.toJson).map Value.toDoc) = some error := by
    cases error with
    | none => rfl
    | some e =>
        exact optional_some (by simp [IpcError.toJson, Value.toDoc]) (fromDoc_error e)
  rw [IpcResponse.fromDoc, fields]
  dsimp only
  rw [resultRead, errorRead]
  simp [Serde.required, Serde.string, Serde.unsigned, bool, version]

/-- The numbers in a status are of their types. -/
structure StatusInRange (dto : ServiceStatusDto) : Prop where
  uptime : dto.uptimeSeconds ≤ u64Max
  pid : ∀ pid, dto.enginePid = some pid → pid ≤ u32Max
  engineUptime : ∀ seconds, dto.engineUptimeSeconds = some seconds → seconds ≤ u64Max
  latency : dto.health.latencyMs ≤ u64Max

theorem fromDoc_health {dto : HealthStatusDto} (latency : dto.latencyMs ≤ u64Max) :
    HealthStatusDto.fromDoc (healthToJson dto).toDoc = some dto := by
  simp [HealthStatusDto.fromDoc, healthToJson, Value.toDoc, membersDefaulting, members_toDocFields,
    Serde.required, Serde.string, Serde.unsigned, bool, defaulting, latency]

theorem optional_nullable_string (text : Option String) :
    Serde.optional Serde.string (some (nullable (text.map Value.string)).toDoc) = some text := by
  cases text with
  | none => rfl
  | some text => simp [nullable, Value.toDoc, Serde.optional, Serde.string]

theorem optional_nullable_number {maximum : Nat} {count : Option Nat}
    (small : ∀ n, count = some n → n ≤ maximum) :
    Serde.optional (Serde.unsigned maximum) (some (nullable (count.map Value.number)).toDoc) =
      some count := by
  cases count with
  | none => rfl
  | some n => simp [nullable, Value.toDoc, Serde.optional, Serde.unsigned, small n rfl]

theorem optional_string (text : Option String) :
    Serde.optional Serde.string (text.map fun text => (Value.string text).toDoc) = some text := by
  cases text with
  | none => rfl
  | some text => simp [Value.toDoc, Serde.optional, Serde.string]

theorem fromDoc_status {dto : ServiceStatusDto} (inRange : StatusInRange dto) :
    ServiceStatusDto.fromDoc (statusToJson dto).toDoc = some dto := by
  have fields : membersDefaulting 13 ["version", "uptime_seconds", "service_state", "mode",
      "active_engine", "requested_engine", "active_profile", "engine_pid",
      "engine_uptime_seconds", "health", "compatibility_recommendation", "fallback_reason",
      "last_error", "security_compatibility", "dns_compatibility_method", "dns_provider"]
      (statusToJson dto).toDoc =
        some [some (.string (some dto.version)), some (.natural dto.uptimeSeconds),
          some (.string (some dto.serviceState)), some (.string (some dto.mode)),
          some (nullable (dto.activeEngine.map Value.string)).toDoc,
          some (nullable (dto.requestedEngine.map Value.string)).toDoc,
          some (nullable (dto.activeProfile.map Value.string)).toDoc,
          some (nullable (dto.enginePid.map Value.number)).toDoc,
          some (nullable (dto.engineUptimeSeconds.map Value.number)).toDoc,
          some (healthToJson dto.health).toDoc,
          some (nullable (dto.compatibilityRecommendation.map Value.string)).toDoc,
          some (nullable (dto.fallbackReason.map Value.string)).toDoc,
          some (nullable (dto.lastError.map Value.string)).toDoc,
          dto.securityCompatibility.map fun text => (Value.string text).toDoc,
          dto.dnsCompatibilityMethod.map fun text => (Value.string text).toDoc,
          dto.dnsProvider.map fun text => (Value.string text).toDoc] := by
    unfold statusToJson
    dsimp only
    cases dto.securityCompatibility <;> cases dto.dnsCompatibilityMethod <;>
      cases dto.dnsProvider <;>
        simp [membersDefaulting, optionalField, Value.toDoc, members_toDocFields]
  rw [ServiceStatusDto.fromDoc, fields]
  dsimp only
  rw [optional_nullable_string, optional_nullable_string, optional_nullable_string,
    optional_nullable_number inRange.pid, optional_nullable_number inRange.engineUptime,
    optional_nullable_string, optional_nullable_string, optional_nullable_string,
    optional_string, optional_string, optional_string]
  simp [Serde.required, Serde.string, Serde.unsigned, inRange.uptime,
    fromDoc_health inRange.latency]

/-! ### Payloads -/

/-- `serde_json::from_slice`. The text of an error is left open. -/
def fromSlice {α : Type} (decode : Doc → Option α) (explain : List UInt8 → String)
    (payload : List UInt8) : Except String α :=
  match readBytes payload >>= decode with
  | some value => .ok value
  | none => .error (explain payload)

theorem fromSlice_render {α : Type} {decode : Doc → Option α} {v : Value} {value : α}
    (explain : List UInt8 → String) (read : decode v.toDoc = some value) :
    fromSlice decode explain (render v) = .ok value := by
  rw [fromSlice, readBytes_render, Option.bind_eq_bind, Option.bind_some, read]

variable {explain : List UInt8 → String}

theorem fromSlice_request {request : IpcRequest} (version : request.protocolVersion ≤ u32Max)
    (inRange : request.command.InRange) :
    fromSlice IpcRequest.fromDoc explain request.toVec = .ok request :=
  fromSlice_render explain (fromDoc_request version inRange)

theorem fromSlice_response {response : IpcResponse} (sendable : response.Sendable) :
    fromSlice IpcResponse.fromDoc explain response.toVec = .ok response :=
  fromSlice_render explain (fromDoc_response sendable)

end ZonDpi.Ipc
