import ZonDpi.Ipc.Client

/-!
The tray icon's switch (`"toggle"` in `app/gui/src-tauri/src/lib.rs`).

The handler asks the service for its status, reads the status from the response, and sends
one more command. It holds nothing of its own between two clicks: what a click can do is
decided by the manager's state alone, and it does that or, where a connection fails, less
(`toggle_at_most_once`).
-/

namespace ZonDpi.Gui

open Effects Json ZonDpi.Std ZonDpi.Engine ZonDpi.Manager ZonDpi.Ipc

variable {W : Type}

def trayProfile : String := "turkey-default"

/-- A click, with the connections and the times of its two commands. Errors end the handler
in silence. -/
def toggle (asking sending : Link) (h : Prog.Handler ServerReq ServerResp W) (asked sent : Nat)
    (w : W) : W :=
  match sendCommand asking h asked .getStatus w with
  | (some (.ok response), w) =>
      match response.result >>= fun result => ServiceStatusDto.fromDoc result.toDoc with
      | some status =>
          if status.activeEngine.isSome then (sendCommand sending h sent .stopEngine w).2
          else (sendCommand sending h sent (.startAuto trayProfile) w).2
      | none => w
  | (_, w) => w

/-- The clock counts milliseconds in a `u128`. -/
def clockMax : Nat := 2 ^ 128 - 1

theorem charSize_le (c : Char) : charSize c ≤ 6 := by
  have four := c.utf8Size_le_four
  unfold charSize
  split_ifs <;> omega

theorem stringSize_le (s : String) : stringSize s ≤ 6 * s.toList.length + 2 := by
  rw [stringSize]
  generalize s.toList = text
  induction text with
  | nil => exact Nat.le_refl 2
  | cons c text ih =>
      have first := charSize_le c
      rw [List.map_cons, List.sum_cons, List.length_cons]
      omega

/-- An id is short, whatever the time. -/
theorem stringSize_id {millis : Nat} (clock : millis ≤ clockMax) :
    stringSize s!"req-{millis}" ≤ 260 := by
  have digits : (Nat.toDigits 10 millis).length ≤ 39 :=
    (Nat.length_toDigits_le_iff (by decide) (by decide)).mpr
      (Nat.lt_of_le_of_lt clock (by decide))
  have length : (s!"req-{millis}").toList.length = 4 + (Nat.toDigits 10 millis).length := by
    rw [String.toList_append, List.length_append, Nat.toString_eq_repr, Nat.toList_repr]
    rfl
  have bound := stringSize_le s!"req-{millis}"
  omega

theorem toVec_new {millis : Nat} (clock : millis ≤ clockMax) {command : IpcCommand}
    (short : size command.toJson ≤ 1000) :
    (IpcRequest.new millis command).toVec.length ≤ maxFrameSize := by
  have id := stringSize_id clock
  have names : stringSize "request_id" = 12 ∧ stringSize "protocol_version" = 18 ∧
      stringSize "command" = 9 ∧ numberSize 1 = 1 ∧ 2000 ≤ maxFrameSize := by decide
  obtain ⟨requestIdSize, versionSize, commandSize, one, enough⟩ := names
  rw [IpcRequest.toVec, render_length]
  simp only [IpcRequest.toJson, IpcRequest.new, size, sizeFields, Ipc.protocolVersion]
  omega

variable {h : Prog.Handler ServerReq ServerResp W}

theorem answer_getStatus (asked : Nat) (w : W) :
    (answer (.new asked .getStatus)).run h w =
      (.ok (statusToJson (getStatus.run h w).1), (getStatus.run h w).2) := by
  rw [answer, if_neg (by simp [IpcRequest.new])]
  simp [IpcRequest.new]

theorem getStatus_run_inRange (typed : TypedHandler h) (w : W) :
    StatusInRange (getStatus.run h w).1 := by
  simp only [getStatus, Prog.run_bind, Prog.run_ask, Prog.run_pure]
  exact getStatus_inRange _ (typed _)

/-- What a click asks of the manager after the status. -/
def switched (status : ServiceStatusDto) : ManagerOp :=
  if status.activeEngine.isSome then .stopEngine else .startAuto trayProfile

/-- The command for it. -/
def switching (status : ServiceStatusDto) : IpcCommand :=
  if status.activeEngine.isSome then .stopEngine else .startAuto trayProfile

theorem answer_switching (status : ServiceStatusDto) (sent : Nat) (w : W) :
    (answer (.new sent (switching status))).run h w = (operate (switched status)).run h w := by
  unfold switching switched
  split_ifs
  · rfl
  · rfl

theorem switching_inRange (status : ServiceStatusDto) : (switching status).InRange := by
  unfold switching
  split_ifs <;> exact trivial

theorem switching_short (status : ServiceStatusDto) : size (switching status).toJson ≤ 1000 := by
  unfold switching
  split_ifs <;> decide

/-- A click with an answer to its question goes on to the other command. -/
theorem toggle_of_answer {asking : Link} (sending : Link) (typed : TypedHandler h)
    {asked : Nat} (sent : Nat) {w told : W}
    (outcome : sendCommand asking h asked .getStatus w =
      (some (.ok (.of (IpcRequest.new asked .getStatus).requestId
        (.ok (statusToJson (getStatus.run h w).1)))), told)) :
    toggle asking sending h asked sent w =
      (sendCommand sending h sent (switching (getStatus.run h w).1) told).2 := by
  rw [toggle, outcome]
  simp only [IpcResponse.of, IpcResponse.ofSuccess, Option.bind_eq_bind, Option.bind_some,
    fromDoc_status (getStatus_run_inRange typed w), switching]
  split_ifs <;> rfl

theorem toggle_eq {asking sending : Link} (asks : asking.Sound) (sends : sending.Sound)
    (typed : TypedHandler h) {asked sent : Nat} (askedClock : asked ≤ clockMax)
    (sentClock : sent ≤ clockMax) (w : W) :
    toggle asking sending h asked sent w =
      let (status, told) := getStatus.run h w
      if Fits (.new asked .getStatus) (.ok (statusToJson status)) then
        ((operate (switched status)).run h told).2
      else told := by
  have statusShort : size IpcCommand.getStatus.toJson ≤ 1000 := by decide
  have first := sendCommand_eq_direct asks typed asked .getStatus trivial w
  rw [direct, if_neg (Nat.not_lt.mpr (toVec_new askedClock statusShort)),
    answer_getStatus] at first
  dsimp only at first ⊢
  split_ifs at first ⊢ with room
  · rw [toggle_of_answer sending typed sent first, sendCommand_eq_direct sends typed sent _
      (switching_inRange _), direct, if_neg (Nat.not_lt.mpr (toVec_new sentClock
        (switching_short _))), answer_switching]
    dsimp only
    split_ifs <;> rfl
  · rw [toggle, first]

/-- Over any two connections a click does nothing, asks for the status and does nothing more,
or goes on to stop the protection if the manager names an active engine and otherwise to start
it with the default profile. Where both connections hold it does the last, unless the status
leaves no room in a frame: then it does nothing more. -/
theorem toggle_at_most_once (asking sending : Link) (h : Prog.Handler ServerReq ServerResp W)
    (typed : TypedHandler h) (asked sent : Nat) (askedClock : asked ≤ clockMax)
    (sentClock : sent ≤ clockMax) (w : W) :
    let (status, told) := getStatus.run h w
    let switchedWorld := ((operate (switched status)).run h told).2
    (toggle asking sending h asked sent w = w ∨ toggle asking sending h asked sent w = told ∨
      toggle asking sending h asked sent w = switchedWorld) ∧
    (asking.Sound → sending.Sound → toggle asking sending h asked sent w =
      if Fits (.new asked .getStatus) (.ok (statusToJson status)) then switchedWorld
      else told) := by
  refine ⟨?_, fun asks sends => toggle_eq asks sends typed askedClock sentClock w⟩
  have first := sendCommand_exchanged asking typed asked .getStatus trivial w
  cases outcome : sendCommand asking h asked .getStatus w with
  | mk answered told =>
      rw [outcome] at first
      rcases first with ⟨rfl, complaint⟩ | ⟨rfl, answers⟩
      · -- not carried out: a complaint has no result
        left
        rw [toggle, outcome]
        rcases answered with _ | _ | response
        · rfl
        · rfl
        · obtain ⟨e, rfl⟩ := complaint response rfl
          rfl
      · rw [answer_getStatus] at answers outcome
        rcases answered with _ | _ | response
        · right
          left
          rw [toggle, outcome]
          rfl
        · right
          left
          rw [toggle, outcome]
          rfl
        · obtain rfl := answers response rfl
          rw [toggle_of_answer sending typed sent outcome]
          have second := sendCommand_exchanged sending typed sent
            (switching (getStatus.run h w).1) (switching_inRange _) (getStatus.run h w).2
          rw [Exchanged, answer_switching] at second
          rcases second with ⟨same, -⟩ | ⟨same, -⟩
          · exact .inr (.inl same)
          · exact .inr (.inr same)

/-- A click on the example computer with a running engine. -/
theorem toggle_at_most_once_started :
    TypedHandler serverPc ∧
      (toggle wholeLink wholeLink serverPc 7 8 startedWorld).inner.activeEngine = none := by
  refine ⟨serverPc_typed, ?_⟩
  rw [(toggle_at_most_once wholeLink wholeLink serverPc serverPc_typed 7 8 (by decide) (by decide)
    startedWorld).2 wholeLink_sound wholeLink_sound]
  decide +kernel

end ZonDpi.Gui
