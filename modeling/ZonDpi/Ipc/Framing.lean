import ZonDpi.Lib.Bytes

/-!
The length-prefixed frames of the IPC protocol (`ipc-protocol/src/lib.rs`).

A frame is four bytes of length, the lowest first, and the payload. Both sides hold
the limit `MAX_FRAME_SIZE`: `write_raw_frame` refuses a longer payload before the
first byte, `read_raw_frame` refuses a longer length before it makes a buffer. The
codec is exact in both directions (`frame_codec`).
-/

namespace ZonDpi.Ipc

open Bytes

def maxFrameSize : Nat := 1024 * 1024

/-- An error of the transport, with its text. -/
structure IoError where
  message : String
deriving DecidableEq, Repr

/-- `InvalidHeader` is never raised. -/
inductive ProtocolFrameError where
  | io (error : IoError)
  | oversizedFrame (length : Nat)
  | json (message : String)
  | connectionClosed
  | invalidHeader
deriving DecidableEq, Repr

def ProtocolFrameError.display : ProtocolFrameError → String
  | .io error => s!"I/O error during frame transmission: {error.message}"
  | .oversizedFrame length =>
      s!"Frame length {length} exceeds maximum allowable limit of {maxFrameSize} bytes"
  | .json message => s!"JSON serialization/deserialization failed: {message}"
  | .connectionClosed => "Connection closed prematurely by peer"
  | .invalidHeader => "Invalid framing header"

abbrev Reader : Type := Source UInt8 IoError

/-! ### Reading -/

/-- The error of `read_exact` as the `?` operator passes it on. -/
def ioError : ReadError IoError → IoError
  | .unexpectedEof => ⟨"early eof"⟩
  | .other error => error

/-- What a call of `read_raw_frame` does: the size of the payload buffer it makes, and
its result. A call that waits for bytes has none yet. -/
structure FrameRead where
  allocated : Nat
  result : Option (Except ProtocolFrameError (List UInt8 × Reader))

/-- The part after the length has passed its check. -/
def readPayload (length : Nat) (reader : Reader) : FrameRead where
  allocated := length
  result := (reader.readExact length).map fun outcome =>
    outcome.mapError fun error => .io (ioError error)

def readRawFrame (reader : Reader) : FrameRead :=
  match reader.readExact 4 with
  | some (.ok (lenBuf, reader)) =>
      let length := ofLe lenBuf
      if length > maxFrameSize then ⟨0, some (.error (.oversizedFrame length))⟩
      else readPayload length reader
  | some (.error .unexpectedEof) => ⟨0, some (.error .connectionClosed)⟩
  | some (.error (.other error)) => ⟨0, some (.error (.io error))⟩
  | none => ⟨0, none⟩

/-- `count` calls in a row, as long as they succeed. -/
def readFrames : Nat → Reader → Option (Except ProtocolFrameError (List (List UInt8) × Reader))
  | 0, reader => some (.ok ([], reader))
  | count + 1, reader =>
      match (readRawFrame reader).result with
      | some (.ok (payload, reader)) =>
          match readFrames count reader with
          | some (.ok (payloads, reader)) => some (.ok (payload :: payloads, reader))
          | outcome => outcome
      | some (.error error) => some (.error error)
      | none => none

/-! ### Writing -/

/-- The sending end. It may break after some more bytes, or when it is flushed. -/
structure Writer where
  written : List UInt8
  room : Option Nat
  broken : IoError
  flushed : Except IoError Unit

def Writer.Healthy (w : Writer) : Prop := w.room = none ∧ w.flushed = .ok ()

/-- `write_all`; a broken writer has written what it had room for. -/
def Writer.writeAll (w : Writer) (bytes : List UInt8) : Except IoError Unit × Writer :=
  match w.room with
  | none => (.ok (), { w with written := w.written ++ bytes })
  | some room =>
      if bytes.length ≤ room then
        (.ok (), { w with written := w.written ++ bytes, room := some (room - bytes.length) })
      else (.error w.broken, { w with written := w.written ++ bytes.take room, room := some 0 })

def writeRawFrame (payload : List UInt8) (w : Writer) : Except ProtocolFrameError Unit × Writer :=
  if payload.length > maxFrameSize then (.error (.oversizedFrame payload.length), w)
  else
    match w.writeAll (toLe 4 payload.length) with
    | (.error error, w) => (.error (.io error), w)
    | (.ok (), w) =>
        match w.writeAll payload with
        | (.error error, w) => (.error (.io error), w)
        | (.ok (), w) => (w.flushed.mapError .io, w)

/-- One call for each payload, whatever the calls before it returned. -/
def writeFrames : List (List UInt8) → Writer → List (Except ProtocolFrameError Unit) × Writer
  | [], w => ([], w)
  | payload :: rest, w =>
      let (result, w) := writeRawFrame payload w
      let (results, w) := writeFrames rest w
      (result :: results, w)

/-! ### The bytes of a frame -/

def frame (payload : List UInt8) : List UInt8 := toLe 4 payload.length ++ payload

variable {payload : List UInt8} {w : Writer} {reader left : Reader}

theorem ofLe_length (fits : payload.length ≤ maxFrameSize) :
    ofLe (toLe 4 payload.length) = payload.length := by
  have small : payload.length < 256 ^ 4 := Nat.lt_of_le_of_lt fits (by decide)
  rw [ofLe_toLe, Nat.mod_eq_of_lt small]

theorem writeRawFrame_oversized (long : maxFrameSize < payload.length) :
    writeRawFrame payload w = (.error (.oversizedFrame payload.length), w) :=
  if_pos long

theorem writeAll_healthy (healthy : w.Healthy) (bytes : List UInt8) :
    w.writeAll bytes = (.ok (), { w with written := w.written ++ bytes }) := by
  rw [Writer.writeAll, healthy.1]

theorem writeRawFrame_healthy (healthy : w.Healthy) (fits : payload.length ≤ maxFrameSize) :
    writeRawFrame payload w = (.ok (), { w with written := w.written ++ frame payload }) := by
  have still : ({ w with written := w.written ++ toLe 4 payload.length } : Writer).Healthy :=
    healthy
  have flushes : w.flushed = .ok () := healthy.2
  rw [writeRawFrame, if_neg (Nat.not_lt.mpr fits), writeAll_healthy healthy]
  dsimp only
  rw [writeAll_healthy still]
  dsimp only
  rw [flushes, frame, List.append_assoc]
  rfl

/-- A frame in front of anything is read back, in whatever chunks it comes. -/
theorem readRawFrame_frame {back : List UInt8} (fits : payload.length ≤ maxFrameSize)
    (given : reader.items = frame payload ++ back) :
    ∃ left, (readRawFrame reader).result = some (.ok (payload, left)) ∧
      left.items = back ∧ left.ending = reader.ending := by
  rw [frame, List.append_assoc] at given
  obtain ⟨body, header, rest, ends⟩ := Source.readExact_append given
  rw [toLe_length] at header
  obtain ⟨left, read, remains, ends'⟩ := Source.readExact_append rest
  refine ⟨left, ?_, remains, ends'.trans ends⟩
  rw [readRawFrame, header]
  simp only [ofLe_length fits]
  rw [if_neg (Nat.not_lt.mpr fits), readPayload, read]
  rfl

/-- What is accepted is the frame of its payload. -/
theorem frame_of_readRawFrame
    (accepted : (readRawFrame reader).result = some (.ok (payload, left))) :
    payload.length ≤ maxFrameSize ∧ reader.items = frame payload ++ left.items := by
  unfold readRawFrame at accepted
  split at accepted
  · rename_i lenBuf body header
    obtain ⟨front, four⟩ := Source.append_of_readExact header
    dsimp only at accepted
    split at accepted
    · cases accepted
    · rename_i small
      obtain ⟨outcome, read, same⟩ := Option.map_eq_some_iff.mp accepted
      cases outcome with
      | error error => cases same
      | ok both =>
          cases same
          obtain ⟨back, length⟩ := Source.append_of_readExact read
          -- four bytes are the encoding of the number they encode
          have prefixed : lenBuf = toLe 4 payload.length := by
            rw [length, ← four, toLe_ofLe]
          rw [frame, ← prefixed, front, back, List.append_assoc, length]
          exact ⟨Nat.le_of_not_lt small, rfl⟩
  all_goals cases accepted

theorem allocated_le (reader : Reader) : (readRawFrame reader).allocated ≤ maxFrameSize := by
  unfold readRawFrame
  split
  · dsimp only
    split
    · exact Nat.zero_le _
    · rename_i small
      exact Nat.le_of_not_lt small
  all_goals exact Nat.zero_le _

/-! ### Streams of frames -/

/-- On a writer that does not break, a call succeeds exactly for a payload within the
limit, and the bytes are the frames of these. -/
theorem writeFrames_healthy (payloads : List (List UInt8)) (healthy : w.Healthy) :
    (writeFrames payloads w).1.map Except.isOk =
        payloads.map (fun payload => decide (payload.length ≤ maxFrameSize)) ∧
      (writeFrames payloads w).2 = { w with
        written := w.written ++
          (payloads.filter fun payload => decide (payload.length ≤ maxFrameSize)).flatMap frame }
    := by
  induction payloads generalizing w with
  | nil => simp [writeFrames]
  | cons payload rest ih =>
      by_cases fits : payload.length ≤ maxFrameSize
      · have still : ({ w with written := w.written ++ frame payload } : Writer).Healthy := healthy
        obtain ⟨results, bytes⟩ := ih still
        simp only [writeFrames, writeRawFrame_healthy healthy fits]
        constructor
        · simp [results, fits, Except.isOk, Except.toBool]
        · simp [bytes, fits]
      · obtain ⟨results, bytes⟩ := ih healthy
        simp only [writeFrames, writeRawFrame_oversized (Nat.lt_of_not_le fits)]
        constructor
        · simp [results, fits, Except.isOk, Except.toBool]
        · simp [bytes, fits]

theorem readFrames_frames {payloads : List (List UInt8)} {back : List UInt8}
    (fit : ∀ payload ∈ payloads, payload.length ≤ maxFrameSize)
    (given : reader.items = payloads.flatMap frame ++ back) :
    ∃ left, readFrames payloads.length reader = some (.ok (payloads, left)) ∧
      left.items = back ∧ left.ending = reader.ending := by
  induction payloads generalizing reader with
  | nil => exact ⟨reader, rfl, given, rfl⟩
  | cons payload rest ih =>
      rw [List.flatMap_cons, List.append_assoc] at given
      obtain ⟨next, read, remains, ends⟩ :=
        readRawFrame_frame (fit payload List.mem_cons_self) given
      obtain ⟨left, others, last, ends'⟩ :=
        ih (fun other member => fit other (List.mem_cons_of_mem _ member)) remains
      refine ⟨left, ?_, last, ends'.trans ends⟩
      rw [List.length_cons, readFrames, read]
      simp only [others]

theorem frame_append_inj {other back back' : List UInt8} (fits : payload.length ≤ maxFrameSize)
    (fits' : other.length ≤ maxFrameSize) (same : frame payload ++ back = frame other ++ back') :
    payload = other ∧ back = back' := by
  simp only [frame, List.append_assoc] at same
  obtain ⟨header, body⟩ := List.append_inj same (by simp)
  have length : payload.length = other.length := by
    rw [← ofLe_length fits, header, ofLe_length fits']
  exact List.append_inj body length

/-- Frames can be told apart without anything between them. -/
theorem flatMap_frame_inj {payloads others : List (List UInt8)}
    (fit : ∀ payload ∈ payloads, payload.length ≤ maxFrameSize)
    (fit' : ∀ payload ∈ others, payload.length ≤ maxFrameSize)
    (same : payloads.flatMap frame = others.flatMap frame) : payloads = others := by
  induction payloads generalizing others with
  | nil =>
      cases others with
      | nil => rfl
      | cons other rest => simp [frame, toLe] at same
  | cons payload more ih =>
      cases others with
      | nil => simp [frame, toLe] at same
      | cons other rest =>
          obtain ⟨first, back⟩ := frame_append_inj (fit payload List.mem_cons_self)
            (fit' other List.mem_cons_self) same
          rw [first, ih (fun p member => fit p (List.mem_cons_of_mem _ member))
            (fun p member => fit' p (List.mem_cons_of_mem _ member)) back]

/-- The codec of the IPC frames. A writer that does not break takes exactly the
payloads within the limit, and no writer gets a byte of the others. Payloads within the
limit come back from their frames, in order and with what follows them unread, for any
division of the bytes into chunks and any ending. Conversely what is read is within the
limit and encodes to the bytes consumed, and no call makes a larger buffer. -/
theorem frame_codec (payloads : List (List UInt8)) :
    (∀ w : Writer, w.Healthy →
      (writeFrames payloads w).1.map Except.isOk =
        payloads.map fun payload => decide (payload.length ≤ maxFrameSize)) ∧
    (∀ (w : Writer) (payload : List UInt8), payload ∈ payloads →
      maxFrameSize < payload.length →
      writeRawFrame payload w = (.error (.oversizedFrame payload.length), w)) ∧
    ((∀ payload ∈ payloads, payload.length ≤ maxFrameSize) →
      ∀ (w : Writer) (r : List UInt8) (reader : Reader), w.Healthy → w.written = [] →
        reader.items = (writeFrames payloads w).2.written ++ r →
        ∃ left, readFrames payloads.length reader = some (.ok (payloads, left)) ∧
          left.items = r ∧ left.ending = reader.ending) ∧
    (∀ (reader left : Reader) (payload : List UInt8),
      (readRawFrame reader).result = some (.ok (payload, left)) →
      payload.length ≤ maxFrameSize ∧
      ∃ consumed, reader.items = consumed ++ left.items ∧
        ∀ w : Writer, w.Healthy →
          writeRawFrame payload w = (.ok (), { w with written := w.written ++ consumed })) ∧
    ∀ reader : Reader, (readRawFrame reader).allocated ≤ maxFrameSize := by
  refine ⟨fun w healthy => (writeFrames_healthy payloads healthy).1, ?_, ?_, ?_, allocated_le⟩
  · intro w payload _ long
    exact writeRawFrame_oversized long
  · intro fit w r reader healthy empty given
    have all : payloads.filter (fun payload => decide (payload.length ≤ maxFrameSize)) =
        payloads :=
      List.filter_eq_self.mpr fun payload member => decide_eq_true (fit payload member)
    rw [(writeFrames_healthy payloads healthy).2, all, empty, List.nil_append] at given
    exact readFrames_frames fit given
  · intro reader left payload accepted
    obtain ⟨fits, consumed⟩ := frame_of_readRawFrame accepted
    exact ⟨fits, frame payload, consumed, fun w healthy => writeRawFrame_healthy healthy fits⟩

/-- Two frames cut in an unlucky place, with one byte of a third. -/
theorem frame_codec_split :
    ∃ left, readFrames 2 ⟨[⟨[2, 0, 0], by decide⟩, ⟨[0, 7, 8, 1], by decide⟩,
        ⟨[0, 0, 0, 9, 5], by decide⟩], .silent⟩ = some (.ok ([[7, 8], [9]], left)) ∧
      left.items = [5] ∧ left.ending = .silent :=
  (frame_codec [[7, 8], [9]]).2.2.1 (by decide) ⟨[], none, ⟨""⟩, .ok ()⟩ [5] _ ⟨rfl, rfl⟩ rfl
    (by decide)

end ZonDpi.Ipc
