import ZonDpi.Lib.BoundedQueue
import ZonDpi.Lib.Components
import ZonDpi.Ipc.Protocol

/-!
The log of a worker (`supervisor/ring_buffer.rs`).

`LogRingBuffer` keeps the newest lines, each with wallet addresses taken out as far as
`sanitize_log_presentation` finds them (module `Supervisor.Redaction` says how far that is).
Whatever is pushed and cleared, the buffer holds the tail of the lines since the last
clear, and a query returns the tail of that (`ring_buffer_keeps_newest`).

The mutex around the entries makes each call one step. Nothing panics while it is held, so it
is never poisoned.
-/

namespace ZonDpi.Supervisor

open BoundedQueue Components ZonDpi.Std ZonDpi.Ipc

/-! ### `sanitize_log_presentation` -/

def donationKeywords : List String := ["donate", "bitcoin", "btc", "wallet", "monero"]

/-- The lower-cased line contains one of the keywords. -/
def mentionsDonation (line : String) : Bool :=
  donationKeywords.any fun keyword => contains keyword.toList (toLowercase line)

/-- `str::split_whitespace` -/
def splitWhitespace (line : String) : List (List Char) := components isWhitespace line.toList

def startsLikeBtc (text : List Char) : Bool :=
  "bc1".toList.isPrefixOf text || ['1'].isPrefixOf text || ['3'].isPrefixOf text

def startsLikeEth (text : List Char) : Bool := "0x".toList.isPrefixOf text

/-- The word is replaced: without what surrounds it, it looks like an address. -/
def isRedacted (chars : WordChars) (word : List Char) : Bool :=
  let cleanW := trimMatches (fun c => !chars.test c) word
  let isBtc := startsLikeBtc cleanW && decide (26 ≤ byteLen cleanW) && decide (byteLen cleanW ≤ 45)
  let isEth := startsLikeEth cleanW && decide (byteLen cleanW = 42)
  isBtc || isEth

def redactedMark : List Char := "[redacted]".toList

def redact (chars : WordChars) (word : List Char) : List Char :=
  if isRedacted chars word then redactedMark else word

def sanitizeLogPresentation (chars : WordChars) (line : String) : String :=
  if mentionsDonation line then
    String.ofList ([' '].intercalate ((splitWhitespace line).map (redact chars)))
  else line

/-! ### `LogRingBuffer` -/

/-- `format!` with a width and leading zeros. -/
def zeroPadded (width n : Nat) : String :=
  String.ofList ((Nat.toDigits 10 n).leftpad width '0')

/-- The time of day, from the milliseconds since 1970 if the clock is not before that. -/
def chronoTimestamp (sinceEpoch : Option Nat) : String :=
  let duration := sinceEpoch.getD 0
  let secs := duration / 1000
  let millis := duration % 1000
  let s := secs % 86400
  let hours := s / 3600
  let mins := s % 3600 / 60
  let sec := s % 60
  zeroPadded 2 hours ++ ":" ++ zeroPadded 2 mins ++ ":" ++ zeroPadded 2 sec ++ "." ++
    zeroPadded 3 millis

example : chronoTimestamp (some 45296007) = "12:34:56.007" := by decide +kernel

structure LogRingBuffer where
  capacity : Nat
  entries : List LogEntryDto
deriving DecidableEq, Repr

namespace LogRingBuffer

def new (capacity : Nat) : LogRingBuffer := ⟨capacity, []⟩

/-- What a line is stored as: a blank line not at all. -/
def stored (chars : WordChars) (line : String) : Option String :=
  let trimmed := trimEnd line
  if trimmed = "" then none else some (sanitizeLogPresentation chars trimmed)

def push (chars : WordChars) (stream line : String) (sinceEpoch : Option Nat)
    (buffer : LogRingBuffer) : LogRingBuffer :=
  match stored chars line with
  | none => buffer
  | some sanitizedLine =>
      let entry := ⟨chronoTimestamp sinceEpoch, stream, sanitizedLine⟩
      { buffer with entries := BoundedQueue.push buffer.capacity buffer.entries entry }

/-- How many entries a query returns. -/
def limit (count : Option Nat) (buffer : LogRingBuffer) : Nat :=
  min (count.getD buffer.capacity) buffer.entries.length

/-- How many entries it passes over; the subtraction of the source saturates, as this one
does. -/
def skip (count : Option Nat) (buffer : LogRingBuffer) : Nat :=
  buffer.entries.length - buffer.limit count

def recentEntries (count : Option Nat) (buffer : LogRingBuffer) : List LogEntryDto :=
  buffer.entries.drop (buffer.skip count)

def clear (buffer : LogRingBuffer) : LogRingBuffer := { buffer with entries := [] }

end LogRingBuffer

/-! ### Sequences of calls -/

inductive LogCall where
  | push (stream line : String) (sinceEpoch : Option Nat)
  | clear
deriving DecidableEq, Repr

namespace LogCall

def run (chars : WordChars) (buffer : LogRingBuffer) : LogCall → LogRingBuffer
  | .push stream line sinceEpoch => buffer.push chars stream line sinceEpoch
  | .clear => buffer.clear

def isPush : LogCall → Bool
  | .push _ _ _ => true
  | .clear => false

/-- The entry a call adds: none for a blank line. -/
def entry (chars : WordChars) : LogCall → Option LogEntryDto
  | .push stream line sinceEpoch =>
      if trimEnd line = "" then none
      else some ⟨chronoTimestamp sinceEpoch, stream, sanitizeLogPresentation chars (trimEnd line)⟩
  | .clear => none

end LogCall

/-- The entries of all non-blank lines pushed since the last clear, oldest first. -/
def sinceClear (chars : WordChars) (calls : List LogCall) : List LogEntryDto :=
  (calls.rtakeWhile LogCall.isPush).filterMap (LogCall.entry chars)

namespace LogRingBuffer

def runAll (chars : WordChars) (buffer : LogRingBuffer) (calls : List LogCall) : LogRingBuffer :=
  calls.foldl (LogCall.run chars) buffer

variable {chars : WordChars} {buffer : LogRingBuffer}

theorem entry_push (stream line : String) (sinceEpoch : Option Nat) :
    LogCall.entry chars (.push stream line sinceEpoch) =
      (stored chars line).map fun text => ⟨chronoTimestamp sinceEpoch, stream, text⟩ := by
  unfold stored LogCall.entry
  by_cases blank : trimEnd line = ""
  · simp only [if_pos blank, Option.map_none]
  · simp only [if_neg blank, Option.map_some]

theorem push_eq (stream line : String) (sinceEpoch : Option Nat) :
    buffer.push chars stream line sinceEpoch =
      match LogCall.entry chars (.push stream line sinceEpoch) with
      | none => buffer
      | some entry =>
          { buffer with entries := BoundedQueue.push buffer.capacity buffer.entries entry } := by
  rw [entry_push, push]
  cases stored chars line <;> rfl

theorem sinceClear_push (calls : List LogCall) (stream line : String) (sinceEpoch : Option Nat) :
    sinceClear chars (calls ++ [.push stream line sinceEpoch]) =
      sinceClear chars calls ++
        (LogCall.entry chars (.push stream line sinceEpoch)).toList := by
  rw [sinceClear, List.rtakeWhile_concat_pos _ _ _ rfl, List.filterMap_append, ← sinceClear]
  cases entry : LogCall.entry chars (.push stream line sinceEpoch) <;> simp [entry]

theorem sinceClear_clear (calls : List LogCall) : sinceClear chars (calls ++ [.clear]) = [] := by
  rw [sinceClear, List.rtakeWhile_concat]
  rfl

/-- The buffer is the tail of the lines since the last clear. -/
theorem runAll_eq {c : Nat} (positive : 1 ≤ c) (calls : List LogCall) :
    runAll chars (new c) calls = ⟨c, (sinceClear chars calls).rtake c⟩ := by
  induction calls using List.reverseRecOn with
  | nil => simp [runAll, new, sinceClear]
  | append_singleton calls call ih =>
      have step : runAll chars (new c) (calls ++ [call]) =
          LogCall.run chars (runAll chars (new c) calls) call := List.foldl_concat ..
      rw [step, ih]
      cases call with
      | clear =>
          rw [sinceClear_clear]
          simp [LogCall.run, clear]
      | push stream line sinceEpoch =>
          rw [sinceClear_push]
          refine (push_eq stream line sinceEpoch).trans ?_
          cases LogCall.entry chars (.push stream line sinceEpoch) with
          | none => simp
          | some entry => exact congrArg (LogRingBuffer.mk c) (push_rtake positive entry)

/-- A query returns the newest entries, and all it asks for if there are so many. -/
theorem recentEntries_eq (count : Option Nat) :
    buffer.recentEntries count = buffer.entries.rtake (count.getD buffer.capacity) := by
  have skipped : buffer.skip count =
      buffer.entries.length - count.getD buffer.capacity := by
    unfold skip limit
    omega
  rw [recentEntries, skipped, List.rtake]

end LogRingBuffer

/-- After any calls the buffer holds the last of the lines since the last clear, and a query
returns the last of these. The subtraction of the query never saturates. -/
theorem ring_buffer_keeps_newest (chars : WordChars) (c : Nat) (positive : 1 ≤ c)
    (calls : List LogCall) (count : Option Nat) :
    let lines := sinceClear chars calls
    let buffer := (LogRingBuffer.new c).runAll chars calls
    buffer.entries = lines.rtake (min c lines.length) ∧
      buffer.entries.length = min c lines.length ∧
      buffer.recentEntries count =
        buffer.entries.rtake (min (count.getD c) buffer.entries.length) ∧
      (buffer.recentEntries count).length = min (count.getD c) buffer.entries.length ∧
      buffer.skip count + buffer.limit count = buffer.entries.length ∧
      (buffer.recentEntries count).length ≤ c := by
  intro lines buffer
  have held : buffer = ⟨c, lines.rtake c⟩ := LogRingBuffer.runAll_eq positive calls
  have recent : buffer.recentEntries count = buffer.entries.rtake (count.getD c) := by
    rw [LogRingBuffer.recentEntries_eq, held]
  have entries : buffer.entries = lines.rtake c := by rw [held]
  have within : buffer.limit count ≤ buffer.entries.length := Nat.min_le_right ..
  refine ⟨?_, ?_, ?_, ?_, Nat.sub_add_cancel within, ?_⟩
  · rw [entries]
    exact (rtake_min_length ..).symm
  · rw [entries, length_rtake]
  · rw [recent, rtake_min_length]
  · rw [recent, length_rtake]
  · rw [recent, length_rtake, entries, length_rtake]
    omega

/-- Four lines, and a blank one among them. -/
def fourLines : List LogCall :=
  [.push "stdout" "line 1" none, .push "stderr" "line 2" none, .push "stdout" "  " none,
    .push "stdout" "line 3\r" none, .push "stdout" "line 4" none]

theorem ring_buffer_keeps_newest_three :
    1 ≤ 3 ∧ ((LogRingBuffer.new 3).runAll asciiWordChars fourLines).entries.map
      (fun entry => (entry.stream, entry.line)) =
        [("stderr", "line 2"), ("stdout", "line 3"), ("stdout", "line 4")] := by
  refine ⟨by decide, ?_⟩
  rw [(ring_buffer_keeps_newest asciiWordChars 3 (by decide) fourLines none).1]
  decide +kernel

end ZonDpi.Supervisor
