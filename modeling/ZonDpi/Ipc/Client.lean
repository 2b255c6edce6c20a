import ZonDpi.Ipc.Codec
import ZonDpi.Ipc.Server

/-!
The client's side of a connection (`send_command` of the GUI, `send_ipc_request` of the CLI),
and what a client learns of the manager over the wire.

A client opens a connection for each command, writes one request and reads one response.
Between the two lie JSON, frames, and a pipe that cuts the bytes as it likes and may break at
any point. Whatever breaks, a command is carried out once or not at all, and a response that
the client gets is the manager's answer to that command (`sendCommands_at_most_once`). On
connections that hold, nothing of the wire can be seen but the limit on a frame.
-/

namespace ZonDpi.Ipc

open Bytes Effects Json ZonDpi.Std ZonDpi.Engine ZonDpi.Manager

/-! ### `send_command` -/

/-- The id is made from the clock, in milliseconds. -/
def IpcRequest.new (millis : Nat) (command : IpcCommand) : IpcRequest :=
  ⟨s!"req-{millis}", Ipc.protocolVersion, command⟩

def writeRequest (request : IpcRequest) (w : Writer) : Except ProtocolFrameError Unit × Writer :=
  writeRawFrame request.toVec w

def readResponse (explain : List UInt8 → String) (reader : Reader) :
    Option (Except ProtocolFrameError (IpcResponse × Reader)) :=
  match (readRawFrame reader).result with
  | some (.ok (raw, reader)) =>
      match fromSlice IpcResponse.fromDoc explain raw with
      | .ok response => some (.ok (response, reader))
      | .error message => some (.error (.json message))
  | some (.error e) => some (.error e)
  | none => none

/-- One direction of a connection. It brings the bytes in order, in chunks of its own
choice, and may break off after some of them: then the reader finds an ending of the pipe's
own. -/
structure Pipe where
  chunks : List UInt8 → List (Chunk UInt8)
  whole : ∀ bytes, (chunks bytes).flatMap Subtype.val = bytes
  cut : Option (Nat × Ending IoError)

/-- The reader at the other end of a pipe. -/
def Pipe.reader (pipe : Pipe) (bytes : List UInt8) (ending : Ending IoError) : Reader :=
  match pipe.cut with
  | none => ⟨pipe.chunks bytes, ending⟩
  | some (count, ending) => ⟨pipe.chunks (bytes.take count), ending⟩

theorem Pipe.reader_items {pipe : Pipe} (unbroken : pipe.cut = none) (bytes : List UInt8)
    (ending : Ending IoError) : (pipe.reader bytes ending).items = bytes := by
  rw [Pipe.reader, unbroken]
  exact pipe.whole bytes

theorem Pipe.reader_ending {pipe : Pipe} (unbroken : pipe.cut = none) (bytes : List UInt8)
    (ending : Ending IoError) : (pipe.reader bytes ending).ending = ending := by
  rw [Pipe.reader, unbroken]

/-- Nothing is added on the way. -/
theorem Pipe.reader_prefix (pipe : Pipe) (bytes : List UInt8) (ending : Ending IoError) :
    (pipe.reader bytes ending).items <+: bytes := by
  unfold Pipe.reader Source.items
  split
  · exact ⟨[], by rw [List.append_nil]; exact pipe.whole bytes⟩
  · rw [pipe.whole]
    exact List.take_prefix _ _

/-- How the writes of one side go: after some bytes they may fail, and so may the flush. -/
structure Outlet where
  room : Option Nat
  broken : IoError
  flushed : Except IoError Unit

def Outlet.writer (outlet : Outlet) : Writer := ⟨[], outlet.room, outlet.broken, outlet.flushed⟩

/-- What the system makes of a connection: the answer to its opening, the writes of the two
sides, both directions, and the texts of `serde_json`'s errors. -/
structure Link where
  opened : Except IoError Unit
  sending : Outlet
  answering : Outlet
  up : Pipe
  down : Pipe
  explain : List UInt8 → String

/-- The connection comes about and holds. -/
structure Link.Sound (link : Link) : Prop where
  opened : link.opened = .ok ()
  sending : link.sending.writer.Healthy
  answering : link.answering.writer.Healthy
  up : link.up.cut = none
  down : link.down.cut = none

/-- What the client finds behind the bytes it was sent. -/
def Ended.ending : Ended → Ending IoError
  | .closed => .closed
  | .waiting => .silent

variable {W : Type}

/-- The server's side of a connection on which the client has written some bytes. -/
def Link.serve (link : Link) (h : Prog.Handler ServerReq ServerResp W) (bytes : List UInt8)
    (ending : Ending IoError) (w : W) : Ended × Conn W :=
  handleClient (fromSlice IpcRequest.fromDoc link.explain) h
    ⟨link.up.reader bytes ending, link.answering.writer, w⟩

/-- One command over a new connection, and the world afterwards. The client waits for the
response before it closes its end; if it cannot write its request it closes it at once, and
the server is left with what has been written. A command for which there is no result yet is
one that waits for ever. -/
def sendCommand (link : Link) (h : Prog.Handler ServerReq ServerResp W) (millis : Nat)
    (command : IpcCommand) (w : W) : Option (Except String IpcResponse) × W :=
  match link.opened with
  | .error e => (some (.error s!"Failed to connect to backend: {e.message}"), w)
  | .ok () =>
    match writeRequest (.new millis command) link.sending.writer with
    | (.error e, writer) =>
        (some (.error s!"IPC write error: {e.display}"),
          (link.serve h writer.written .closed w).2.world)
    | (.ok (), writer) =>
        let (ended, conn) := link.serve h writer.written .silent w
        let outcome := readResponse link.explain
          (link.down.reader conn.writer.written ended.ending)
        (outcome.map fun
          | .ok (response, _) => .ok response
          | .error e => .error s!"IPC read error: {e.display}", conn.world)

/-- One command after the other, each at its time and over a connection of its own. -/
def sendCommands (h : Prog.Handler ServerReq ServerResp W) :
    List (Link × Nat × IpcCommand) → W → List (Option (Except String IpcResponse)) × W
  | [], w => ([], w)
  | (link, millis, command) :: rest, w =>
      let (outcome, w) := sendCommand link h millis command w
      let (outcomes, w) := sendCommands h rest w
      (outcome :: outcomes, w)

/-! ### The manager without the wire -/

/-- What a client gets of the manager's answer. A response without room is not sent, though
the command has been carried out. -/
def direct (h : Prog.Handler ServerReq ServerResp W) (request : IpcRequest) (w : W) :
    Except String IpcResponse × W :=
  if maxFrameSize < request.toVec.length then
    (.error s!"IPC write error: {(ProtocolFrameError.oversizedFrame request.toVec.length).display}",
      w)
  else
    let (answered, w) := (answer request).run h w
    if Fits request answered then (.ok (.of request.requestId answered), w)
    else (.error s!"IPC read error: {ProtocolFrameError.connectionClosed.display}", w)

def directs (h : Prog.Handler ServerReq ServerResp W) :
    List (Link × Nat × IpcCommand) → W → List (Except String IpcResponse) × W
  | [], w => ([], w)
  | (_, millis, command) :: rest, w =>
      let (outcome, w) := direct h (.new millis command) w
      let (outcomes, w) := directs h rest w
      (outcome :: outcomes, w)

/-! ### Answers can be sent -/

/-- The numbers a status is made of are of their types. -/
structure ReadingsInRange (readings : StatusReadings) : Prop where
  uptime : readings.uptimeSeconds ≤ u64Max
  pid : ∀ pid, readings.supervisor.pid = some pid → pid ≤ u32Max
  engineUptime : ∀ seconds, readings.supervisor.uptimeSeconds = some seconds → seconds ≤ u64Max
  latency : readings.health.latency ≤ u64Max

/-- A computer on which every number is of its type. -/
def TypedHandler (h : Prog.Handler ServerReq ServerResp W) : Prop :=
  ∀ w, ReadingsInRange (h.answer w .statusReadings)

theorem engineReport_inRange (active : Option EngineId) {readings : StatusReadings}
    (inRange : ReadingsInRange readings) :
    (∀ pid, (engineReport active readings).1 = some pid → pid ≤ u32Max) ∧
      (∀ seconds, (engineReport active readings).2.1 = some seconds → seconds ≤ u64Max) ∧
      (engineReport active readings).2.2.2.latencyMs ≤ u64Max := by
  unfold engineReport
  split
  · exact ⟨inRange.pid, inRange.engineUptime, inRange.latency⟩
  · exact ⟨inRange.pid, inRange.engineUptime, inRange.latency⟩
  · exact ⟨by simp, by simp, Nat.zero_le _⟩

theorem getStatus_inRange (inner : ManagerInner) {readings : StatusReadings}
    (inRange : ReadingsInRange readings) : StatusInRange (inner.getStatus readings) := by
  obtain ⟨pid, engineUptime, latency⟩ := engineReport_inRange inner.activeEngine inRange
  exact ⟨inRange.uptime, pid, engineUptime, latency⟩

theorem keptItems_map {α : Type} {room : Nat} {toJson : α → Value}
    (kept : ∀ x, Kept room (toJson x)) (items : List α) : KeptItems room (items.map toJson) := by
  induction items with
  | nil => exact trivial
  | cons x rest ih => exact ⟨kept x, ih⟩

theorem keptFields_append {room : Nat} {front back : List (String × Value)}
    (first : KeptFields room front) (second : KeptFields room back) :
    KeptFields room (front ++ back) := by
  induction front with
  | nil => exact second
  | cons field rest ih => exact ⟨first.1, ih first.2⟩

theorem kept_nullable_string {room : Nat} (text : Option String) :
    Kept room (nullable (text.map Value.string)) := by
  cases text <;> simp [nullable, Kept]

theorem kept_nullable_number {room maximum : Nat} (machine : maximum ≤ u64Max)
    {count : Option Nat} (small : ∀ n, count = some n → n ≤ maximum) :
    Kept room (nullable (count.map Value.number)) := by
  cases count with
  | none => simp [nullable, Kept]
  | some n =>
      rw [Option.map_some, nullable, Kept]
      exact Nat.le_trans (small n rfl) machine

theorem keptFields_optional {room : Nat} (name : String) (text : Option String) :
    KeptFields room (optionalField name (text.map Value.string)) := by
  cases text <;> simp [optionalField, KeptFields, Kept]

theorem kept_health {room : Nat} {dto : HealthStatusDto} (latency : dto.latencyMs ≤ u64Max) :
    Kept (room + 1) (healthToJson dto) := by
  have sorted : ["engine_health", "is_healthy", "latency_ms", "message", "network_effectiveness",
      "process_health"].Pairwise (· < ·) := by decide
  rw [healthToJson, Kept]
  exact ⟨sorted, by simp [KeptFields, Kept, latency]⟩

theorem names_optionalField (name : String) (v : Option Value) :
    ((optionalField name v).map Prod.fst).Sublist [name] := by
  cases v <;> simp [optionalField]

theorem kept_status {dto : ServiceStatusDto} (inRange : StatusInRange dto) :
    Kept resultRoom (statusToJson dto) := by
  have machine : u32Max ≤ u64Max := by decide
  unfold statusToJson
  dsimp only
  rw [resultRoom, Kept]
  constructor
  · have sorted : (["active_engine", "active_profile", "compatibility_recommendation"] ++
        ["dns_compatibility_method"] ++ ["dns_provider"] ++
        ["engine_pid", "engine_uptime_seconds", "fallback_reason", "health", "last_error", "mode",
          "requested_engine"] ++ ["security_compatibility"] ++
        ["service_state", "uptime_seconds", "version"]).Pairwise (· < ·) := by decide
    simp only [List.map_append]
    exact sorted.sublist (((((List.Sublist.refl _).append (names_optionalField _ _)).append
      (names_optionalField _ _)).append (.refl _)).append (names_optionalField _ _) |>.append
        (.refl _))
  · refine keptFields_append (keptFields_append (keptFields_append (keptFields_append
      (keptFields_append ?_ (keptFields_optional _ _)) (keptFields_optional _ _)) ?_)
        (keptFields_optional _ _)) ?_
    · simp [KeptFields, kept_nullable_string]
    · simp [KeptFields, kept_nullable_string, kept_nullable_number machine inRange.pid,
        kept_nullable_number (Nat.le_refl _) inRange.engineUptime, kept_health inRange.latency,
        Kept]
    · simp [KeptFields, Kept, inRange.uptime]

/-- A result that a client gets as it was sent. -/
def Deliverable (result : Value) : Prop := Kept resultRoom result ∧ result ≠ .null

theorem deliverable_empty : Deliverable emptyResult := by
  refine ⟨?_, by simp [emptyResult]⟩
  rw [emptyResult, resultRoom, Kept]
  exact ⟨by simp, by simp [KeptFields, Kept]⟩

theorem deliverable_array {α : Type} {toJson : α → Value}
    (kept : ∀ x, Kept 125 (toJson x)) (items : List α) :
    Deliverable (.array (items.map toJson)) := by
  refine ⟨?_, by simp⟩
  rw [resultRoom, Kept]
  exact keptItems_map kept items

theorem kept_profile (dto : ProfileSummaryDto) : Kept 125 dto.toJson := by
  have sorted : ["description", "id", "name", "target_engine"].Pairwise (· < ·) := by decide
  rw [ProfileSummaryDto.toJson, Kept]
  exact ⟨sorted, by simp [KeptFields, Kept]⟩

theorem kept_log (dto : LogEntryDto) : Kept 125 dto.toJson := by
  have sorted : ["line", "stream", "timestamp"].Pairwise (· < ·) := by decide
  rw [LogEntryDto.toJson, Kept]
  exact ⟨sorted, by simp [KeptFields, Kept]⟩

theorem deliverable_recommendation (dto : RecommendationDto) : Deliverable dto.toJson := by
  have sorted : ["compatibility_rating", "detected_security_products", "rationale",
      "recommended_engine"].Pairwise (· < ·) := by decide
  have text : ∀ text : String, Kept 124 (.string text) := by simp [Kept]
  refine ⟨?_, by simp [RecommendationDto.toJson]⟩
  rw [RecommendationDto.toJson, resultRoom, Kept]
  exact ⟨sorted, by simp [KeptFields, Kept, keptItems_map text]⟩

theorem deliverable_status {dto : ServiceStatusDto} (inRange : StatusInRange dto) :
    Deliverable (statusToJson dto) :=
  ⟨kept_status inRange, by simp [statusToJson]⟩

variable {h : Prog.Handler ServerReq ServerResp W}

theorem operate_deliverable {op : ManagerOp} {w : W} {result : Value}
    (answered : ((operate op).run h w).1 = .ok result) : Deliverable result := by
  rw [operate, Prog.run_bind] at answered
  split at answered
  · cases answered
    exact deliverable_empty
  · cases answered

/-- Whatever the manager answers, a client can read it. -/
theorem answer_deliverable (typed : TypedHandler h) {request : IpcRequest} {w : W} {result : Value}
    (answered : ((answer request).run h w).1 = .ok result) : Deliverable result := by
  unfold answer at answered
  split at answered
  · cases answered
  · cases command : request.command with
    | ping =>
        rw [command] at answered
        cases answered
        exact deliverable_empty
    | getVersion =>
        rw [command] at answered
        cases answered
        have sorted : ["protocol_version", "service_version"].Pairwise (· < ·) := by decide
        refine ⟨?_, by simp⟩
        rw [resultRoom, Kept]
        exact ⟨sorted, by simp [KeptFields, Kept, protocolVersion, u64Max]⟩
    | getStatus =>
        simp only [command, getStatus, Prog.run_bind, Prog.run_ask, Prog.run_pure] at answered
        cases answered
        exact deliverable_status (getStatus_inRange _ (typed _))
    | getRecommendation =>
        simp only [command, Prog.run_bind, Prog.run_pure] at answered
        cases answered
        exact deliverable_recommendation _
    | listProfiles =>
        simp only [command, Prog.run_bind, Prog.run_pure] at answered
        cases answered
        exact deliverable_array kept_profile _
    | startEngine engine profile =>
        rw [command] at answered
        dsimp only at answered
        split at answered
        · exact operate_deliverable answered
        · cases answered
    | startAuto profile =>
        rw [command] at answered
        exact operate_deliverable answered
    | stopEngine =>
        rw [command] at answered
        exact operate_deliverable answered
    | switchEngine engine profile =>
        rw [command] at answered
        dsimp only at answered
        split at answered
        · exact operate_deliverable answered
        · cases answered
    | getRecentLogs lines =>
        simp only [command, Prog.run_bind, Prog.run_pure] at answered
        cases answered
        exact deliverable_array kept_log _

theorem sendable_of (typed : TypedHandler h) (request : IpcRequest) (w : W) :
    (IpcResponse.of request.requestId ((answer request).run h w).1).Sendable := by
  have version : Ipc.protocolVersion ≤ u32Max := by decide
  cases answered : ((answer request).run h w).1 with
  | error e =>
      exact ⟨version, by simp [IpcResponse.of, IpcResponse.failure],
        by simp [IpcResponse.of, IpcResponse.failure]⟩
  | ok result =>
      obtain ⟨kept, notNull⟩ := answer_deliverable typed answered
      refine ⟨version, ?_, ?_⟩
      · simpa [IpcResponse.of, IpcResponse.ofSuccess] using notNull
      · simpa [IpcResponse.of, IpcResponse.ofSuccess] using kept

/-! ### A conversation -/

theorem readResponse_frame (explain : List UInt8 → String) {response : IpcResponse}
    {reader : Reader} (sendable : response.Sendable)
    (fits : response.toVec.length ≤ maxFrameSize) (given : reader.items = frame response.toVec) :
    ∃ left, readResponse explain reader = some (.ok (response, left)) := by
  rw [← List.append_nil (frame response.toVec)] at given
  obtain ⟨left, read, -, -⟩ := readRawFrame_frame fits given
  exact ⟨left, by simp only [readResponse, read, fromSlice_response sendable]⟩

theorem readResponse_closed {explain : List UInt8 → String} {reader : Reader}
    (empty : reader.items = []) (closed : reader.ending = .closed) :
    readResponse explain reader = some (.error .connectionClosed) := by
  have short : reader.items.length < 4 := by
    rw [empty]
    decide
  simp only [readResponse, readRawFrame, Source.readExact_of_lt short, closed, Source.atEnd]

section

variable {decode : List UInt8 → Except String IpcRequest} (conn : Conn W) {request : IpcRequest}
  {payload : List UInt8}

/-- A connection with one request for whose response there is room. -/
theorem handleClient_one (healthy : conn.writer.Healthy) (stays : conn.reader.ending = .silent)
    (given : conn.reader.items = frame payload) (fits : payload.length ≤ maxFrameSize)
    (decodes : decode payload = .ok request)
    (room : Fits request ((answer request).run h conn.world).1) :
    ∃ left, handleClient decode h conn =
      (.waiting, ⟨left, { conn.writer with
        written := conn.writer.written ++ reply request ((answer request).run h conn.world).1 },
        ((answer request).run h conn.world).2⟩) := by
  rw [← List.append_nil (frame payload)] at given
  obtain ⟨left, read, behind, ends⟩ := readRequest_frame fits decodes given
  refine ⟨left, ?_⟩
  rw [handleClient_next (serveOne_fits healthy read room)]
  exact handleClient_last (serveOne_silent behind (ends.trans stays))

theorem serveOne_closed {conn : Conn W} (empty : conn.reader.items = [])
    (closed : conn.reader.ending = .closed) : serveOne decode h conn = .last .closed conn := by
  have short : conn.reader.items.length < 4 := by
    rw [empty]
    decide
  simp only [serveOne, readRequest, readRawFrame, Source.readExact_of_lt short, closed,
    Source.atEnd]

theorem handleClient_one_lost (given : conn.reader.items = frame payload)
    (fits : payload.length ≤ maxFrameSize) (decodes : decode payload = .ok request)
    (full : ¬ Fits request ((answer request).run h conn.world).1) :
    ∃ left, handleClient decode h conn =
      (.closed, ⟨left, conn.writer, ((answer request).run h conn.world).2⟩) := by
  rw [← List.append_nil (frame payload)] at given
  obtain ⟨left, read, -, -⟩ := readRequest_frame fits decodes given
  exact ⟨left, handleClient_last (serveOne_lost read full)⟩

end

/-- One command over a connection that holds: the wire adds nothing and takes nothing away. -/
theorem sendCommand_eq_direct {link : Link} (sound : link.Sound) (typed : TypedHandler h)
    (millis : Nat) (command : IpcCommand) (inRange : command.InRange) (w : W) :
    sendCommand link h millis command w =
      (some (direct h (.new millis command) w).1, (direct h (.new millis command) w).2) := by
  have version : Ipc.protocolVersion ≤ u32Max := by decide
  unfold sendCommand writeRequest direct
  rw [sound.opened]
  dsimp only
  generalize made : IpcRequest.new millis command = request
  have decodes : fromSlice IpcRequest.fromDoc link.explain request.toVec = .ok request := by
    subst made
    exact fromSlice_request version inRange
  by_cases long : maxFrameSize < request.toVec.length
  · rw [writeRawFrame_oversized long, if_pos long]
    have nothing : link.serve h [] .closed w =
        (.closed, ⟨link.up.reader [] .closed, link.answering.writer, w⟩) :=
      handleClient_last (serveOne_closed (Pipe.reader_items sound.up _ _)
        (Pipe.reader_ending sound.up _ _))
    exact congrArg (fun served : Ended × Conn W => (_, served.2.world)) nothing
  have fits : request.toVec.length ≤ maxFrameSize := Nat.le_of_not_lt long
  rw [writeRawFrame_healthy sound.sending fits, if_neg long]
  dsimp only
  have given : (link.up.reader (link.sending.writer.written ++ frame request.toVec)
      .silent).items = frame request.toVec := Pipe.reader_items sound.up _ _
  have stays : (link.up.reader (link.sending.writer.written ++ frame request.toVec)
      .silent).ending = .silent := Pipe.reader_ending sound.up _ _
  unfold Link.serve
  generalize link.up.reader (link.sending.writer.written ++ frame request.toVec) .silent = reader
    at given stays ⊢
  by_cases room : Fits request ((answer request).run h w).1
  · obtain ⟨left, served⟩ :=
      handleClient_one ⟨reader, link.answering.writer, w⟩ sound.answering stays given fits decodes
        room
    have short : (IpcResponse.of request.requestId ((answer request).run h w).1).toVec.length ≤
        maxFrameSize := by
      rw [toVec_of_length]
      exact room
    have back : (link.down.reader (link.answering.writer.written ++
        reply request ((answer request).run h w).1) .silent).items =
          frame (IpcResponse.of request.requestId ((answer request).run h w).1).toVec :=
      Pipe.reader_items sound.down _ _
    obtain ⟨left', read⟩ :=
      readResponse_frame link.explain (sendable_of typed request w) short back
    rw [served, if_pos room]
    simp only [Ended.ending, read, Option.map_some]
  · obtain ⟨left, served⟩ :=
      handleClient_one_lost ⟨reader, link.answering.writer, w⟩ given fits decodes room
    have read : readResponse link.explain (link.down.reader link.answering.writer.written .closed) =
        some (.error .connectionClosed) :=
      readResponse_closed (Pipe.reader_items sound.down _ _) (Pipe.reader_ending sound.down _ _)
    rw [served, if_neg room]
    simp only [Ended.ending, read, Option.map_some]

/-! ### Connections that break -/

theorem writeAll_prefix (writer : Writer) (bytes : List UInt8) :
    ∃ front, front <+: bytes ∧ (writer.writeAll bytes).2.written = writer.written ++ front ∧
      ((writer.writeAll bytes).1 = .ok () → front = bytes) := by
  unfold Writer.writeAll
  split
  · exact ⟨bytes, List.prefix_rfl, rfl, fun _ => rfl⟩
  · split_ifs
    · exact ⟨bytes, List.prefix_rfl, rfl, fun _ => rfl⟩
    · exact ⟨bytes.take _, List.take_prefix _ _, rfl, nofun⟩

/-- However a writer breaks, what it has written of a frame is a beginning of it, and all of
it if there was no error. -/
theorem writeRawFrame_prefix (payload : List UInt8) (writer : Writer) :
    ∃ front, front <+: frame payload ∧
      (writeRawFrame payload writer).2.written = writer.written ++ front ∧
      ((writeRawFrame payload writer).1 = .ok () →
        payload.length ≤ maxFrameSize ∧ front = frame payload) := by
  unfold writeRawFrame
  split_ifs with long
  · exact ⟨[], List.nil_prefix, (List.append_nil _).symm, nofun⟩
  · obtain ⟨header, isHeader, written, complete⟩ := writeAll_prefix writer (toLe 4 payload.length)
    generalize writer.writeAll (toLe 4 payload.length) = first at written complete ⊢
    obtain ⟨_ | _, writer'⟩ := first
    · exact ⟨header, isHeader.trans (List.prefix_append _ _), written, nofun⟩
    · obtain ⟨body, isBody, written', complete'⟩ := writeAll_prefix writer' payload
      rw [complete rfl] at written
      refine ⟨toLe 4 payload.length ++ body, (List.prefix_append_right_inj _).mpr isBody, ?_⟩
      dsimp only
      generalize writer'.writeAll payload = second at written' complete' ⊢
      dsimp only at written written'
      rw [written, List.append_assoc] at written'
      obtain ⟨_ | _, _⟩ := second
      · exact ⟨written', nofun⟩
      · exact ⟨written', fun _ => ⟨Nat.le_of_not_lt long, by rw [complete' rfl, frame]⟩⟩

/-- The bytes begin like the frame of this response, so no other can be read from them. -/
def Carries (bytes : List UInt8) (response : IpcResponse) : Prop :=
  bytes = [] ∨ response.toVec.length ≤ maxFrameSize ∧ ∃ more, bytes <+: frame response.toVec ++ more

theorem writeResponse_carries (response : IpcResponse) {writer : Writer}
    (fresh : writer.written = []) : Carries (writeResponse response writer).2.written response := by
  by_cases long : maxFrameSize < response.toVec.length
  · left
    rw [writeResponse, writeRawFrame_oversized long]
    exact fresh
  · obtain ⟨front, begins, written, -⟩ := writeRawFrame_prefix response.toVec writer
    rw [fresh, List.nil_append] at written
    refine .inr ⟨Nat.le_of_not_lt long, [], ?_⟩
    rw [writeResponse, written, List.append_nil]
    exact begins

theorem Carries.readResponse {bytes : List UInt8} {response found : IpcResponse}
    {reader left : Reader} {explain : List UInt8 → String} (carries : Carries bytes response)
    (sendable : response.Sendable) (front : reader.items <+: bytes)
    (read : readResponse explain reader = some (.ok (found, left))) : found = response := by
  unfold Ipc.readResponse at read
  split at read
  · rename_i raw rest accepted
    obtain ⟨small, consumed⟩ := frame_of_readRawFrame accepted
    rw [consumed] at front
    obtain rfl | ⟨fits, more, begins⟩ := carries
    · have some : (frame raw).length = 0 := by
        have := List.prefix_nil.mp front
        rw [List.append_eq_nil_iff] at this
        rw [this.1, List.length_nil]
      rw [frame, List.length_append, toLe_length] at some
      omega
    · obtain ⟨behind, same⟩ := front.trans begins
      rw [List.append_assoc] at same
      obtain ⟨rfl, -⟩ := frame_append_inj small fits same
      rw [fromSlice_response sendable] at read
      cases read
      rfl
  all_goals cases read

/-- The response to what cannot be read. -/
def malformed (e : ProtocolFrameError) : IpcResponse :=
  .failure "invalid-request" (.new .badRequest s!"Malformed frame: {e.display}")

theorem sendable_malformed (e : ProtocolFrameError) : (malformed e).Sendable :=
  ⟨(by decide : Ipc.protocolVersion ≤ u32Max), by simp [malformed, IpcResponse.failure],
    by simp [malformed, IpcResponse.failure]⟩

section Served

variable {decode : List UInt8 → Except String IpcRequest} {request : IpcRequest} {conn : Conn W}

/-- A turn without a request ends the connection and leaves the world alone. -/
theorem serveOne_unread (unread : ∀ both, readRequest decode conn.reader ≠ some (.ok both)) :
    ∃ ended conn', serveOne decode h conn = .last ended conn' ∧ conn'.world = conn.world ∧
      (conn'.writer = conn.writer ∨
        ∃ e, conn'.writer = (writeResponse (malformed e) conn.writer).2) := by
  unfold serveOne
  cases read : readRequest decode conn.reader with
  | none => exact ⟨_, _, rfl, rfl, .inl rfl⟩
  | some outcome =>
      cases outcome with
      | ok both => exact absurd read (unread both)
      | error e =>
          by_cases closed : e = .connectionClosed
          · subst closed
            exact ⟨_, _, rfl, rfl, .inl rfl⟩
          · refine ⟨.closed, { conn with writer := (writeResponse (malformed e) conn.writer).2 },
              ?_, rfl, .inr ⟨e, rfl⟩⟩
            cases e with
            | connectionClosed => exact absurd rfl closed
            | io _ | oversizedFrame _ | json _ | invalidHeader => simp only [malformed]

theorem readRequest_empty (empty : conn.reader.items = []) :
    ∀ both, readRequest decode conn.reader ≠ some (.ok both) := by
  rintro ⟨_, _⟩ read
  have shorter := readRequest_lt read
  rw [empty] at shorter
  exact absurd shorter (Nat.not_lt_zero _)

/-- From a beginning of a request nothing but the request can be read. -/
theorem readRequest_prefix {reader left : Reader} {found : IpcRequest}
    (fits : request.toVec.length ≤ maxFrameSize) (decodes : decode request.toVec = .ok request)
    (front : reader.items <+: frame request.toVec)
    (read : readRequest decode reader = some (.ok (found, left))) :
    found = request ∧ left.items = [] := by
  unfold readRequest at read
  split at read
  · rename_i raw rest accepted
    obtain ⟨small, consumed⟩ := frame_of_readRawFrame accepted
    obtain ⟨behind, same⟩ := front
    rw [consumed, List.append_assoc, ← List.append_nil (frame request.toVec)] at same
    obtain ⟨rfl, nothing⟩ := frame_append_inj small fits same
    rw [decodes] at read
    cases read
    exact ⟨rfl, (List.append_eq_nil_iff.mp nothing).1⟩
  all_goals cases read

/-- A connection on which a beginning of one request arrives: the request is carried out and
nothing but its response is sent, or nothing is carried out. -/
theorem handleClient_prefix (fits : request.toVec.length ≤ maxFrameSize)
    (decodes : decode request.toVec = .ok request) (fresh : conn.writer.written = [])
    (front : conn.reader.items <+: frame request.toVec) :
    ((handleClient decode h conn).2.world = ((answer request).run h conn.world).2 ∧
      Carries (handleClient decode h conn).2.writer.written
        (.of request.requestId ((answer request).run h conn.world).1)) ∨
    ((handleClient decode h conn).2.world = conn.world ∧
      ∃ e, Carries (handleClient decode h conn).2.writer.written (malformed e)) := by
  by_cases unread : ∀ both, readRequest decode conn.reader ≠ some (.ok both)
  · obtain ⟨ended, conn', turn, world, writer⟩ := serveOne_unread (h := h) unread
    rw [handleClient_last turn]
    refine .inr ⟨world, ?_⟩
    obtain same | ⟨e, same⟩ := writer
    · exact ⟨.connectionClosed, .inl (by rw [same, fresh])⟩
    · exact ⟨e, by rw [same]; exact writeResponse_carries _ fresh⟩
  · simp only [not_forall, not_not] at unread
    obtain ⟨⟨found, left⟩, read⟩ := unread
    obtain ⟨rfl, empty⟩ := readRequest_prefix fits decodes front read
    have carries := writeResponse_carries
      (.of found.requestId ((answer found).run h conn.world).1) fresh
    obtain ⟨front, -, written, complete⟩ := writeRawFrame_prefix
      (IpcResponse.of found.requestId ((answer found).run h conn.world).1).toVec conn.writer
    rw [← writeResponse] at written complete
    left
    cases sent : writeResponse (.of found.requestId ((answer found).run h conn.world).1)
      conn.writer with
    | mk result writer =>
        rw [sent] at carries written complete
        cases result with
        | error e =>
            have turn : serveOne decode h conn =
                .last .closed ⟨left, writer, ((answer found).run h conn.world).2⟩ := by
              simp only [serveOne, read, dispatchCommand_run, sent]
            rw [handleClient_last turn]
            exact ⟨rfl, carries⟩
        | ok _ =>
            have turn : serveOne decode h conn =
                .next ⟨left, writer, ((answer found).run h conn.world).2⟩ := by
              simp only [serveOne, read, dispatchCommand_run, sent]
            -- the loop goes on, but there is nothing left to read
            obtain ⟨small, rfl⟩ := complete rfl
            rw [fresh, List.nil_append] at written
            have unread : ∀ both, readRequest decode
                (⟨left, writer, ((answer found).run h conn.world).2⟩ : Conn W).reader ≠
                some (.ok both) := readRequest_empty empty
            obtain ⟨ended, conn', turn', world, wrote⟩ := serveOne_unread (h := h) unread
            rw [handleClient_next turn, handleClient_last turn']
            refine ⟨world, .inr ⟨small, ?_⟩⟩
            obtain same | ⟨e, same⟩ := wrote
            · refine ⟨[], ?_⟩
              rw [same, List.append_nil]
              exact written ▸ List.prefix_rfl
            · obtain ⟨more, -, added, -⟩ := writeRawFrame_prefix (malformed e).toVec writer
              refine ⟨more, ?_⟩
              rw [same, writeResponse, added]
              exact written ▸ List.prefix_rfl

end Served

/-- What can become of one command: it was not carried out, and the client has at most the
server's complaint that it cannot read; or it was carried out once, and the client has at most
the manager's answer. -/
def Exchanged (h : Prog.Handler ServerReq ServerResp W) (request : IpcRequest) (w : W)
    (outcome : Option (Except String IpcResponse)) (w' : W) : Prop :=
  (w' = w ∧ ∀ response, outcome = some (.ok response) → ∃ e, response = malformed e) ∨
  (w' = ((answer request).run h w).2 ∧ ∀ response, outcome = some (.ok response) →
    response = .of request.requestId ((answer request).run h w).1)

theorem sendCommand_exchanged (link : Link) (typed : TypedHandler h) (millis : Nat)
    (command : IpcCommand) (inRange : command.InRange) (w : W) :
    Exchanged h (.new millis command) w (sendCommand link h millis command w).1
      (sendCommand link h millis command w).2 := by
  have version : Ipc.protocolVersion ≤ u32Max := by decide
  unfold sendCommand
  cases link.opened with
  | error e => exact .inl ⟨rfl, by rintro _ ⟨⟩⟩
  | ok =>
      dsimp only
      generalize made : IpcRequest.new millis command = request
      have decodes : fromSlice IpcRequest.fromDoc link.explain request.toVec = .ok request := by
        subst made
        exact fromSlice_request version inRange
      have fresh : link.sending.writer.written = [] := rfl
      obtain ⟨front, begins, written, -⟩ := writeRawFrame_prefix request.toVec link.sending.writer
      rw [fresh, List.nil_append] at written
      have served : ∀ ending,
          ((link.serve h front ending w).2.world = ((answer request).run h w).2 ∧
            Carries (link.serve h front ending w).2.writer.written
              (.of request.requestId ((answer request).run h w).1)) ∨
          ((link.serve h front ending w).2.world = w ∧
            ∃ e, Carries (link.serve h front ending w).2.writer.written (malformed e)) := by
        intro ending
        by_cases long : maxFrameSize < request.toVec.length
        · rw [writeRawFrame_oversized long] at written
          have nothing : (link.up.reader front ending).items = [] :=
            List.prefix_nil.mp (written.symm.trans fresh ▸ link.up.reader_prefix front ending)
          have unread : ∀ both, readRequest (fromSlice IpcRequest.fromDoc link.explain)
              (⟨link.up.reader front ending, link.answering.writer, w⟩ : Conn W).reader ≠
              some (.ok both) := readRequest_empty nothing
          obtain ⟨ended, conn', turn, world, wrote⟩ := serveOne_unread (h := h) unread
          rw [Link.serve, handleClient_last turn]
          refine .inr ⟨world, ?_⟩
          obtain same | ⟨e, same⟩ := wrote
          · exact ⟨.connectionClosed, .inl (by rw [same]; rfl)⟩
          · exact ⟨e, by rw [same]; exact writeResponse_carries _ rfl⟩
        · exact handleClient_prefix (Nat.le_of_not_lt long) decodes rfl
            ((link.up.reader_prefix front ending).trans begins)
      unfold writeRequest
      generalize writeRawFrame request.toVec link.sending.writer = sent at written
      obtain ⟨_ | _, writer⟩ := sent <;> dsimp only at written ⊢ <;> rw [written]
      · rcases served .closed with ⟨world, -⟩ | ⟨world, -⟩
        · exact .inr ⟨world, by rintro _ ⟨⟩⟩
        · exact .inl ⟨world, by rintro _ ⟨⟩⟩
      · have read : ∀ (ended : Ended) (bytes : List UInt8) (response : IpcResponse)
            (of : IpcResponse), Carries bytes of → of.Sendable →
            ((readResponse link.explain (link.down.reader bytes ended.ending)).map fun
              | .ok (response, _) => Except.ok response
              | .error e => .error s!"IPC read error: {e.display}") = some (.ok response) →
            response = of := by
          intro ended bytes response of carries sendable outcome
          obtain ⟨result, got, same⟩ := Option.map_eq_some_iff.mp outcome
          obtain _ | ⟨found, left⟩ := result
          · cases same
          · cases same
            exact carries.readResponse sendable (link.down.reader_prefix _ _) got
        rcases served .silent with ⟨world, carries⟩ | ⟨world, e, carries⟩
        · exact .inr ⟨world, fun response outcome =>
            read _ _ response _ carries (sendable_of typed request w) outcome⟩
        · exact .inl ⟨world, fun response outcome =>
            ⟨e, read _ _ response _ carries (sendable_malformed e) outcome⟩⟩

/-! ### A conversation over any connections -/

/-- Every command in turn was carried out once or not at all. -/
inductive ExchangedAll (h : Prog.Handler ServerReq ServerResp W) :
    List (Link × Nat × IpcCommand) → W → List (Option (Except String IpcResponse)) → W → Prop
  | nil (w : W) : ExchangedAll h [] w [] w
  | cons {link : Link} {millis : Nat} {command : IpcCommand}
      {rest : List (Link × Nat × IpcCommand)} {outcome : Option (Except String IpcResponse)}
      {outcomes : List (Option (Except String IpcResponse))} {w w' w'' : W}
      (first : Exchanged h (.new millis command) w outcome w')
      (later : ExchangedAll h rest w' outcomes w'') :
      ExchangedAll h ((link, millis, command) :: rest) w (outcome :: outcomes) w''

theorem sendCommands_exchanged (typed : TypedHandler h)
    (commands : List (Link × Nat × IpcCommand)) (inRange : ∀ entry ∈ commands, entry.2.2.InRange)
    (w : W) :
    ExchangedAll h commands w (sendCommands h commands w).1 (sendCommands h commands w).2 := by
  induction commands generalizing w with
  | nil => exact .nil w
  | cons entry rest ih =>
      obtain ⟨link, millis, command⟩ := entry
      exact .cons (sendCommand_exchanged link typed millis command
        (inRange _ List.mem_cons_self) w)
        (ih (fun entry member => inRange entry (List.mem_cons_of_mem _ member)) _)

theorem sendCommands_eq_direct (typed : TypedHandler h)
    (commands : List (Link × Nat × IpcCommand)) (inRange : ∀ entry ∈ commands, entry.2.2.InRange)
    (sound : ∀ entry ∈ commands, entry.1.Sound) (w : W) :
    sendCommands h commands w =
      ((directs h commands w).1.map some, (directs h commands w).2) := by
  induction commands generalizing w with
  | nil => rfl
  | cons entry rest ih =>
      obtain ⟨link, millis, command⟩ := entry
      have first := sendCommand_eq_direct (sound _ List.mem_cons_self) typed millis command
        (inRange _ List.mem_cons_self) w
      have later := ih (fun entry member => inRange entry (List.mem_cons_of_mem _ member))
        fun entry member => sound entry (List.mem_cons_of_mem _ member)
      simp only [sendCommands, directs, first, later, List.map_cons]

/-- A pipe that keeps everything together. -/
def wholePipe : Pipe where
  chunks bytes := Source.putBack bytes []
  whole bytes := by rw [Source.putBack_items]; simp
  cut := none

def steadyOutlet : Outlet := ⟨none, ⟨""⟩, .ok ()⟩

def wholeLink : Link :=
  ⟨.ok (), steadyOutlet, steadyOutlet, wholePipe, wholePipe, fun _ => "expected value"⟩

theorem wholeLink_sound : wholeLink.Sound := ⟨rfl, ⟨rfl, rfl⟩, ⟨rfl, rfl⟩, rfl, rfl⟩

theorem serverPc_typed : TypedHandler serverPc := by
  have pid : 4711 ≤ u32Max := by decide
  have latency : 5 ≤ u64Max := by decide
  intro w
  refine ⟨Nat.zero_le _, ?_, ?_, latency⟩
  · rintro _ ⟨⟩
    exact pid
  · rintro _ ⟨⟩
    exact Nat.zero_le _

end ZonDpi.Ipc
