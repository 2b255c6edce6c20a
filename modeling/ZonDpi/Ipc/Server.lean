import Mathlib.Data.List.Forall2
import ZonDpi.Ipc.Protocol
import ZonDpi.Manager.Runs

/-!
The IPC server's side of a connection (`ipc_server/mod.rs`).

`handle_client` reads a request, lets the manager answer it and writes the response,
until the connection ends. Requests and responses share the limit on a frame, but a
response quotes the request's id and may be longer than the request: then nothing is
written and the connection ends, although the command has taken effect. Every request
is answered exactly when id and answer leave room for the response's own 61 bytes
(`every_request_answered_iff`).

`serde_json::from_slice` is a parameter: what it makes of a payload is the request.
-/

namespace ZonDpi.Ipc

open Bytes Effects Json ZonDpi.Std ZonDpi.Engine ZonDpi.Manager

/-! ### `dispatch_command` -/

/-- The manager's own requests, and what its queries read besides. -/
inductive ServerReq where
  | mgr (r : MgrReq)
  | statusReadings
  /-- The detection that `get_recommendation` makes itself. -/
  | detect
  | profileFiles
  | recentLogs (engine : EngineId) (lines : Option Nat)

abbrev ServerResp : ServerReq → Type
  | .mgr r => MgrResp r
  | .statusReadings => StatusReadings
  | .detect => SecurityEnvironment
  | .profileFiles => List ProfileSummaryDto
  | .recentLogs _ _ => List LogEntryDto

abbrev ServerProg (α : Type) : Type := Prog ServerReq ServerResp α

def liftMgr {α : Type} (p : MgrProg α) : ServerProg α :=
  p.embed ServerReq.mgr fun _ answer => answer

def getStatus : ServerProg ServiceStatusDto := do
  let inner ← liftMgr lockInner
  let readings ← Prog.ask ServerReq.statusReadings
  liftMgr (publish inner)
  return inner.getStatus readings

/-- The confidence of the policy when both engines count as healthy, in percent. -/
def confidence (env : SecurityEnvironment) : Nat :=
  if env.containsProduct "kaspersky" then 85
  else if env.detectionStatus ≠ .available then 90
  else 95

def getRecommendation : ServerProg RecommendationDto := do
  let sec ← Prog.ask ServerReq.detect
  let secEnv ← liftMgr (Manager.detect .evaluateRecommendation)
  let recommendation :=
    evaluate secEnv .goodbyeDpi .byeDpi (.healthy 5 "Ready") (.healthy 5 "Ready")
  return {
    detectedSecurityProducts := sec.products.map SecurityProduct.displayName
    recommendedEngine := (recommendation.preferredEngine.map EngineId.display).getD "None"
    rationale := recommendation.reason
    compatibilityRating := s!"Confidence: {confidence secEnv}%" }

def getRecentLogs (lines : Option Nat) : ServerProg (List LogEntryDto) := do
  let inner ← liftMgr lockInner
  let logs ← match inner.activeEngine with
    | some .goodbyeDpi => Prog.ask (ServerReq.recentLogs .goodbyeDpi lines)
    | some .byeDpi => Prog.ask (ServerReq.recentLogs .byeDpi lines)
    | _ => pure []
  liftMgr (publish inner)
  return logs

def parseEngineName (name : String) : Option EngineId :=
  let lower := toLowercase name
  if lower = "goodbye".toList ∨ lower = "goodbyedpi".toList then some .goodbyeDpi
  else if lower = "byedpi".toList ∨ lower = "ciadpi".toList then some .byeDpi
  else if lower = "native".toList ∨ lower = "rust".toList then some .native
  else none

def mapManagerError : EngineManagerError → IpcError
  | .path error => .new .profileNotFound error.display
  | .profileJson message => .new .profileInvalid s!"Failed to parse profile JSON: {message}"
  | .portInUse port =>
      ⟨.portInUse, s!"Local port {port} is already in use by another service",
        some "Configure a different port in profile or stop conflicting process"⟩
  | .healthCheckFailed message =>
      .new .engineHealthFailed
        s!"Engine started but failed post-launch health check: {message}"
  | .goodbye error => .new .engineStartFailed s!"GoodbyeDPI worker error: {error.display}"
  | .byeDpi error => .new .engineStartFailed s!"ByeDPI worker error: {error.display}"
  | .dns error => .new .internalError s!"DNS compatibility error: {error.display}"
  | .autoModeFailed message => .new .engineStartFailed s!"Auto mode selection failed: {message}"
  | .unknownEngine name => .new .badRequest s!"Unsupported engine: {name}"

def unknownEngineName (engine : String) : IpcError :=
  .new .badRequest s!"Unknown engine name '{engine}'"

/-- The version in the workspace's manifest. -/
def serviceVersion : String := "1.0.5"

/-- A mutating operation of the manager. -/
def operate (op : ManagerOp) : ServerProg (Except IpcError Value) := do
  match ← liftMgr op.program with
  | .ok () => return .ok emptyResult
  | .error e => return .error (mapManagerError e)

/-- The result or error a request comes to. -/
def answer (request : IpcRequest) : ServerProg (Except IpcError Value) :=
  if request.protocolVersion ≠ protocolVersion then
    return .error (.new .unsupportedProtocolVersion
      (s!"Client protocol version {request.protocolVersion} is unsupported. " ++
        s!"Server supports version {protocolVersion}."))
  else
    match request.command with
    | .ping => return .ok emptyResult
    | .getVersion =>
        return .ok (.object [("protocol_version", .number protocolVersion),
          ("service_version", .string serviceVersion)])
    | .getStatus => do return .ok (statusToJson (← getStatus))
    | .getRecommendation => do return .ok (← getRecommendation).toJson
    | .listProfiles => do
        let profiles ← Prog.ask ServerReq.profileFiles
        return .ok (.array (profiles.map ProfileSummaryDto.toJson))
    | .startEngine engine profile =>
        match parseEngineName engine with
        | some engineId => operate (.startEngine engineId profile)
        | none => return .error (unknownEngineName engine)
    | .startAuto profile => operate (.startAuto profile)
    | .stopEngine => operate .stopEngine
    | .switchEngine engine profile =>
        match parseEngineName engine with
        | some engineId => operate (.switchEngine engineId profile)
        | none => return .error (unknownEngineName engine)
    | .getRecentLogs lines => do
        return .ok (.array ((← getRecentLogs lines).map LogEntryDto.toJson))

/-- `success` or `failure`, with the id of the request. -/
def IpcResponse.of (requestId : String) : Except IpcError Value → IpcResponse
  | .ok result => .ofSuccess requestId result
  | .error error => .failure requestId error

def dispatchCommand (request : IpcRequest) : ServerProg IpcResponse := do
  return .of request.requestId (← answer request)

/-! ### `handle_client` -/

def writeResponse (response : IpcResponse) (w : Writer) : Except ProtocolFrameError Unit × Writer :=
  writeRawFrame response.toVec w

/-- The reader, the writer, and the world the manager lives in. -/
structure Conn (W : Type) where
  reader : Reader
  writer : Writer
  world : W

inductive Ended where
  | closed
  /-- The read has not returned yet. -/
  | waiting
deriving DecidableEq, Repr

/-- A turn of the loop. -/
inductive Turn (W : Type) where
  | next (conn : Conn W)
  | last (ended : Ended) (conn : Conn W)

section

variable (fromSlice : List UInt8 → Except String IpcRequest)

def readRequest (reader : Reader) : Option (Except ProtocolFrameError (IpcRequest × Reader)) :=
  match (readRawFrame reader).result with
  | some (.ok (raw, reader)) =>
      match fromSlice raw with
      | .ok request => some (.ok (request, reader))
      | .error message => some (.error (.json message))
  | some (.error e) => some (.error e)
  | none => none

variable {W : Type} (h : Prog.Handler ServerReq ServerResp W)

def serveOne (conn : Conn W) : Turn W :=
  match readRequest fromSlice conn.reader with
  | some (.ok (request, reader)) =>
      let (response, world) := (dispatchCommand request).run h conn.world
      match writeResponse response conn.writer with
      | (.ok (), writer) => .next ⟨reader, writer, world⟩
      | (.error _, writer) => .last .closed ⟨reader, writer, world⟩
  | some (.error .connectionClosed) => .last .closed conn
  | some (.error e) =>
      let response := IpcResponse.failure "invalid-request"
        (.new .badRequest s!"Malformed frame: {e.display}")
      .last .closed { conn with writer := (writeResponse response conn.writer).2 }
  | none => .last .waiting conn

variable {fromSlice h} {conn conn' : Conn W}

theorem readRequest_lt {reader left : Reader} {request : IpcRequest}
    (read : readRequest fromSlice reader = some (.ok (request, left))) :
    left.items.length < reader.items.length := by
  unfold readRequest at read
  split at read
  · rename_i raw rest accepted
    obtain ⟨-, consumed⟩ := frame_of_readRawFrame accepted
    split at read
    · cases read
      rw [consumed, frame, List.length_append, List.length_append, toLe_length]
      omega
    · cases read
  all_goals cases read

/-- Every turn but the last consumes a frame. -/
theorem serveOne_lt (turn : serveOne fromSlice h conn = .next conn') :
    conn'.reader.items.length < conn.reader.items.length := by
  unfold serveOne at turn
  split at turn
  · rename_i request reader read
    dsimp only at turn
    split at turn
    · cases turn
      exact readRequest_lt read
    · cases turn
  all_goals cases turn

variable (fromSlice h) in
def handleClient (conn : Conn W) : Ended × Conn W :=
  match _turn : serveOne fromSlice h conn with
  | .next conn' => handleClient conn'
  | .last ended conn' => (ended, conn')
termination_by conn.reader.items.length
decreasing_by exact serveOne_lt ‹_›

theorem handleClient_next (turn : serveOne fromSlice h conn = .next conn') :
    handleClient fromSlice h conn = handleClient fromSlice h conn' := by
  rw [handleClient]
  split
  · rename_i taken
    rw [turn] at taken
    cases taken
    rfl
  · rename_i taken
    rw [turn] at taken
    cases taken

theorem handleClient_last {ended : Ended} (turn : serveOne fromSlice h conn = .last ended conn') :
    handleClient fromSlice h conn = (ended, conn') := by
  rw [handleClient]
  split
  · rename_i taken
    rw [turn] at taken
    cases taken
  · rename_i taken
    rw [turn] at taken
    cases taken
    rfl

/-! ### Room for the response -/

/-- The size of the result or error inside a response. -/
def answerSize : Except IpcError Value → Nat
  | .ok result => size result
  | .error error => size error.toJson

/-- The id of the request and the manager's answer leave room for the rest of the
response. -/
def Fits (request : IpcRequest) (answered : Except IpcError Value) : Prop :=
  stringSize request.requestId + answerSize answered + 61 ≤ maxFrameSize

instance (request : IpcRequest) (answered : Except IpcError Value) :
    Decidable (Fits request answered) :=
  inferInstanceAs (Decidable (_ ≤ _))

theorem toVec_of_length (request : IpcRequest) (answered : Except IpcError Value) :
    (IpcResponse.of request.requestId answered).toVec.length =
      stringSize request.requestId + answerSize answered + 61 := by
  cases answered with
  | ok result => exact IpcResponse.toVec_ofSuccess _ _
  | error error => exact IpcResponse.toVec_failure _ _

theorem dispatchCommand_run (request : IpcRequest) (w : W) :
    (dispatchCommand request).run h w =
      (.of request.requestId ((answer request).run h w).1, ((answer request).run h w).2) := by
  simp [dispatchCommand]

variable {request : IpcRequest} {payload back : List UInt8}

theorem readRequest_frame {reader : Reader} (fits : payload.length ≤ maxFrameSize)
    (wellFormed : fromSlice payload = .ok request)
    (given : reader.items = frame payload ++ back) :
    ∃ left, readRequest fromSlice reader = some (.ok (request, left)) ∧
      left.items = back ∧ left.ending = reader.ending := by
  obtain ⟨left, read, remains, ends⟩ := readRawFrame_frame fits given
  refine ⟨left, ?_, remains, ends⟩
  simp only [readRequest, read, wellFormed]

/-- The frame of a response. -/
def reply (request : IpcRequest) (answered : Except IpcError Value) : List UInt8 :=
  frame (IpcResponse.of request.requestId answered).toVec

/-- A request is answered, and the loop goes on. -/
theorem serveOne_fits (healthy : conn.writer.Healthy) {left : Reader}
    (read : readRequest fromSlice conn.reader = some (.ok (request, left)))
    (room : Fits request ((answer request).run h conn.world).1) :
    serveOne fromSlice h conn =
      .next ⟨left,
        { conn.writer with
          written := conn.writer.written ++ reply request ((answer request).run h conn.world).1 },
        ((answer request).run h conn.world).2⟩ := by
  have fits := room
  unfold Fits at fits
  rw [← toVec_of_length] at fits
  simp only [serveOne, read, dispatchCommand_run, writeResponse, reply,
    writeRawFrame_healthy healthy fits]

/-- A request is carried out and not answered, and the loop ends. -/
theorem serveOne_lost {left : Reader}
    (read : readRequest fromSlice conn.reader = some (.ok (request, left)))
    (full : ¬ Fits request ((answer request).run h conn.world).1) :
    serveOne fromSlice h conn =
      .last .closed ⟨left, conn.writer, ((answer request).run h conn.world).2⟩ := by
  have long := full
  unfold Fits at long
  rw [← toVec_of_length, Nat.not_le] at long
  simp only [serveOne, read, dispatchCommand_run, writeResponse, writeRawFrame_oversized long]

theorem serveOne_silent (empty : conn.reader.items = [])
    (stays : conn.reader.ending = .silent) : serveOne fromSlice h conn = .last .waiting conn := by
  have short : conn.reader.items.length < 4 := by
    rw [empty]
    decide
  simp only [serveOne, readRequest, readRawFrame, Source.readExact_of_lt short, stays,
    Source.atEnd]

/-! ### A whole connection -/

variable (h) in
/-- Every request in turn, with what the manager answers to it, leaves room. -/
def AllFit : W → List IpcRequest → Prop
  | _, [] => True
  | w, request :: rest =>
      Fits request ((answer request).run h w).1 ∧ AllFit ((answer request).run h w).2 rest

variable (h) in
/-- The responses up to the first for which there is no room. -/
def responses : W → List IpcRequest → List IpcResponse
  | _, [] => []
  | w, request :: rest =>
      if Fits request ((answer request).run h w).1 then
        .of request.requestId ((answer request).run h w).1 ::
          responses ((answer request).run h w).2 rest
      else []

/-- Frames that carry these requests. -/
def Sent (fromSlice : List UInt8 → Except String IpcRequest) :
    List (List UInt8) → List IpcRequest → Prop :=
  List.Forall₂ fun payload request =>
    payload.length ≤ maxFrameSize ∧ fromSlice payload = .ok request

theorem handleClient_written {payloads : List (List UInt8)} {requests : List IpcRequest}
    (healthy : conn.writer.Healthy) (stays : conn.reader.ending = .silent)
    (sent : Sent fromSlice payloads requests)
    (given : conn.reader.items = payloads.flatMap frame) :
    (handleClient fromSlice h conn).2.writer.written = conn.writer.written ++
      (responses h conn.world requests).flatMap fun response => frame response.toVec := by
  induction sent generalizing conn with
  | nil =>
      rw [handleClient_last (serveOne_silent given stays)]
      simp [responses]
  | @cons payload request payloads requests wellFormed _ ih =>
      obtain ⟨left, read, remains, ends⟩ := readRequest_frame wellFormed.1 wellFormed.2 given
      by_cases room : Fits request ((answer request).run h conn.world).1
      · have still : ({ conn.writer with
            written := conn.writer.written ++
              reply request ((answer request).run h conn.world).1 } : Writer).Healthy := healthy
        rw [handleClient_next (serveOne_fits healthy read room),
          @ih ⟨left, _, _⟩ still (ends.trans stays) remains]
        simp [responses, room, reply]
      · rw [handleClient_last (serveOne_lost read room)]
        simp [responses, room]

theorem responses_fit (w : W) (requests : List IpcRequest) :
    ∀ response ∈ responses h w requests, response.toVec.length ≤ maxFrameSize := by
  induction requests generalizing w with
  | nil =>
      intro response member
      cases member
  | cons request rest ih =>
      intro response member
      rw [responses] at member
      split at member
      · rename_i room
        obtain rfl | later := List.mem_cons.mp member
        · rw [toVec_of_length]
          exact room
        · exact ih _ response later
      · cases member

/-- Every request has a response exactly when there is room for all of them. -/
theorem responses_length_iff (w : W) (requests : List IpcRequest) :
    (responses h w requests).length = requests.length ↔ AllFit h w requests := by
  induction requests generalizing w with
  | nil => exact iff_of_true rfl trivial
  | cons request rest ih =>
      rw [responses, AllFit]
      split
      · rename_i room
        rw [List.length_cons, List.length_cons, Nat.add_right_cancel_iff, ih]
        exact (and_iff_right room).symm
      · rename_i full
        exact iff_of_false (by simp) fun fit => full fit.1

/-- A response belongs to its request and has a result or an error, not both. -/
def Answers (request : IpcRequest) (response : IpcResponse) : Prop :=
  response.requestId = request.requestId ∧ (response.result.isSome ↔ response.error = none)

theorem answers_of (request : IpcRequest) (answered : Except IpcError Value) :
    Answers request (.of request.requestId answered) := by
  cases answered with
  | ok result => exact ⟨rfl, by simp [IpcResponse.of, IpcResponse.ofSuccess]⟩
  | error error => exact ⟨rfl, by simp [IpcResponse.of, IpcResponse.failure]⟩

theorem responses_answer {w : W} {requests : List IpcRequest} (fit : AllFit h w requests) :
    List.Forall₂ Answers requests (responses h w requests) := by
  induction requests generalizing w with
  | nil => exact .nil
  | cons request rest ih =>
      rw [responses, if_pos fit.1]
      exact .cons (answers_of _ _) (ih fit.2)

/-- The bytes added to the writer are one frame for each request, in order, with a
response that answers it. -/
def Answered (requests : List IpcRequest) (before after : Writer) : Prop :=
  ∃ written : List IpcResponse, List.Forall₂ Answers requests written ∧
    (∀ response ∈ written, response.toVec.length ≤ maxFrameSize) ∧
    after.written = before.written ++ written.flatMap fun response => frame response.toVec

/-- On a connection that stays open, a client that has sent any requests gets exactly
one response for each, in order, if and only if each request's id and the manager's
answer to it, in the state in which it finds the manager, leave room for the rest of
the response. For every manager and every decoder of requests. -/
theorem every_request_answered_iff (fromSlice : List UInt8 → Except String IpcRequest)
    (h : Prog.Handler ServerReq ServerResp W) (conn : Conn W) (payloads : List (List UInt8))
    (requests : List IpcRequest) (healthy : conn.writer.Healthy)
    (stays : conn.reader.ending = .silent) (sent : Sent fromSlice payloads requests)
    (given : conn.reader.items = payloads.flatMap frame) :
    Answered requests conn.writer (handleClient fromSlice h conn).2.writer ↔
      AllFit h conn.world requests := by
  have bytes := handleClient_written (h := h) healthy stays sent given
  constructor
  · rintro ⟨written, answers, fit, same⟩
    rw [bytes] at same
    -- the frames written are the responses with room, so none of the others is among them
    have encoded : (responses h conn.world requests).map IpcResponse.toVec =
        written.map IpcResponse.toVec := by
      refine flatMap_frame_inj ?_ ?_ ?_
      · simpa using responses_fit conn.world requests
      · simpa using fit
      · simpa [List.flatMap_map] using same
    have count := congrArg List.length encoded
    rw [List.length_map, List.length_map, ← answers.length_eq] at count
    exact (responses_length_iff conn.world requests).mp count
  · intro fit
    exact ⟨responses h conn.world requests, responses_answer fit, responses_fit _ _, bytes⟩

end

/-! ### A command without a response -/

/-- The server on the example computer. -/
def serverPc : Prog.Handler ServerReq ServerResp World where
  answer w
    | .mgr r => kasperskyPc.answer findEthernet w r
    | .statusReadings => ⟨serviceVersion, 0, kasperskyPc.goodbyeStatus.1, .healthy 5 "Ready",
        kasperskyPc.security .startEngineInternal, .ok true⟩
    | .detect => kasperskyPc.security .evaluateRecommendation
    | .profileFiles => []
    | .recentLogs _ _ => []
  effect w
    | .mgr r => fun x => w.effect r x
    | _ => fun _ => w

/-- A connection on which the bytes have arrived at once. -/
def connWith (bytes : List UInt8) (given : bytes ≠ []) : Conn World :=
  ⟨⟨[⟨bytes, given⟩], .silent⟩, ⟨[], none, ⟨""⟩, .ok ()⟩, startedWorld⟩

theorem frame_ne_nil (payload : List UInt8) : frame payload ≠ [] := by
  simp [frame, toLe]

def pingRequest : IpcRequest := ⟨"1", protocolVersion, .ping⟩

theorem every_request_answered_iff_ping :
    Answered [pingRequest] ⟨[], none, ⟨""⟩, .ok ()⟩
      (handleClient (fun _ => .ok pingRequest) serverPc
        (connWith (frame pingRequest.toVec) (frame_ne_nil _))).2.writer := by
  refine (every_request_answered_iff (fun _ => .ok pingRequest) serverPc
    (connWith (frame pingRequest.toVec) (frame_ne_nil _)) [pingRequest.toVec] [pingRequest]
    ⟨rfl, rfl⟩ rfl (.cons ⟨?_, rfl⟩ .nil) (by simp [connWith, Source.items])).mpr ⟨?_, trivial⟩
  · decide
  · decide

theorem stringSize_replicate (n : Nat) :
    stringSize (String.ofList (List.replicate n 'a')) = n + 2 := by
  have one : charSize 'a' = 1 := by decide
  simp [stringSize, one]

theorem toVec_stopEngine (requestId : String) :
    (IpcRequest.mk requestId protocolVersion .stopEngine).toVec.length =
      stringSize requestId + 69 := by
  have names : stringSize "request_id" = 12 ∧ stringSize "protocol_version" = 18 ∧
      stringSize "command" = 9 ∧ stringSize "type" = 6 ∧ stringSize "stop_engine" = 13 ∧
      numberSize 1 = 1 := by decide
  obtain ⟨requestIdSize, versionSize, commandSize, typeSize, stopSize, one⟩ := names
  rw [IpcRequest.toVec, render_length]
  simp only [IpcRequest.toJson, IpcCommand.toJson, optionalField, Option.map_none, protocolVersion,
    size, sizeFields]
  omega

def stopRequest (requestId : String) : IpcRequest := ⟨requestId, protocolVersion, .stopEngine⟩

theorem stopRequest_answer (requestId : String) :
    ((answer (stopRequest requestId)).run serverPc startedWorld).1 = .ok emptyResult ∧
      ((answer (stopRequest requestId)).run serverPc startedWorld).2.inner.activeEngine = none :=
  ⟨rfl, rfl⟩

/-- The response to a stop is seven bytes longer than the request. -/
theorem stop_unanswered {requestId : String} {conn : Conn World}
    {fromSlice : List UInt8 → Except String IpcRequest}
    (started : conn.world = startedWorld) (unwritten : conn.writer = ⟨[], none, ⟨""⟩, .ok ()⟩)
    (given : conn.reader.items = frame (stopRequest requestId).toVec)
    (fits : (stopRequest requestId).toVec.length ≤ maxFrameSize)
    (decodes : fromSlice (stopRequest requestId).toVec = .ok (stopRequest requestId))
    (long : maxFrameSize < stringSize requestId + 76) :
    (handleClient fromSlice serverPc conn).2.world.inner.activeEngine = none ∧
      ¬ Answered [stopRequest requestId] ⟨[], none, ⟨""⟩, .ok ()⟩
        (handleClient fromSlice serverPc conn).2.writer := by
  obtain ⟨answered, stopped⟩ := stopRequest_answer requestId
  rw [← started] at answered stopped
  have full : ¬ Fits (stopRequest requestId)
      ((answer (stopRequest requestId)).run serverPc conn.world).1 := by
    have small : size emptyResult = 15 := by decide
    have same : stringSize (stopRequest requestId).requestId = stringSize requestId := rfl
    rw [Fits, answered, answerSize, small, same]
    omega
  rw [← List.append_nil (frame (stopRequest requestId).toVec)] at given
  obtain ⟨left, read, -, -⟩ := readRequest_frame fits decodes given
  rw [handleClient_last (serveOne_lost read full)]
  dsimp only
  refine ⟨stopped, ?_⟩
  rintro ⟨written, answers, -, same⟩
  cases answers with
  | cons _ none =>
      cases none
      simp [unwritten, frame, toLe] at same

theorem stop_takes_effect_unanswered :
    ∃ requestId, (stopRequest requestId).toVec.length ≤ maxFrameSize ∧
      startedWorld.inner.activeEngine = some .goodbyeDpi ∧
      ∀ fromSlice : List UInt8 → Except String IpcRequest,
        fromSlice (stopRequest requestId).toVec = .ok (stopRequest requestId) →
        (handleClient fromSlice serverPc (connWith (frame (stopRequest requestId).toVec)
          (frame_ne_nil _))).2.world.inner.activeEngine = none ∧
        ¬ Answered [stopRequest requestId] ⟨[], none, ⟨""⟩, .ok ()⟩
          (handleClient fromSlice serverPc (connWith (frame (stopRequest requestId).toVec)
            (frame_ne_nil _))).2.writer := by
  have room : 71 ≤ maxFrameSize := by decide
  obtain ⟨requestId, length⟩ : ∃ requestId, stringSize requestId = maxFrameSize - 71 + 2 :=
    ⟨_, stringSize_replicate _⟩
  have fits : (stopRequest requestId).toVec.length ≤ maxFrameSize := by
    rw [stopRequest, toVec_stopEngine, length]
    omega
  refine ⟨requestId, fits, startedWorld_started.engine, fun fromSlice decodes => ?_⟩
  refine stop_unanswered (by simp only [connWith]) rfl ?_ fits decodes ?_
  · simp [connWith, Source.items]
  · rw [length]
    omega

end ZonDpi.Ipc
