import ZonDpi.Ipc.Protocol

/-!
The status poll of the window (`app/gui/src/App.tsx`) against the service's report.

The poll starts the protection once, if the user wants that, when it finds no engine active
and the service running. It takes `service_state` for the state of the service, but
`get_status` fills this field with the state of the active engine's supervisor, and with
`Stopped` when no engine is active. So the two halves of the guard exclude each other
(`run_silent`), and the protection starts as it should only in sessions that never
find it off (`auto_protects_iff`).
-/

namespace ZonDpi.Gui

open Json ZonDpi.Ipc ZonDpi.Manager

/-! ### Values of JavaScript

`undefined` is no value. -/

/-- The property of an object, `undefined` if it has none of that name. -/
def field (name : String) : Option Value → Option Value
  | some (.object fields) => fields.lookup name
  | _ => none

def truthy : Option Value → Bool
  | none | some .null => false
  | some (.bool value) => value
  | some (.number value) => value ≠ 0
  | some (.string value) => value ≠ ""
  | some (.array _) | some (.object _) => true

/-- `||` -/
def orElse (value : Option Value) (fallback : Value) : Value :=
  match truthy value, value with
  | true, some value => value
  | _, _ => fallback

/-- `===` with a string. -/
def isText (text : String) : Option Value → Bool
  | some (.string value) => value = text
  | _ => false

/-! ### The window -/

inductive GuiStatus where
  | connecting
  | active
  | idle
  | starting
  | stopping
  | disconnected
  | error
deriving DecidableEq, Repr

/-- The state and the reference that the poll reads or writes. -/
structure App where
  status : GuiStatus
  isRunning : Bool
  activeEngine : Value
  activeProfile : Value
  selectedProfile : String
  autoProtect : Bool
  autoProtectTriggered : Bool

/-- The window when it opens, with the stored preference. -/
def App.opened (autoProtect : Bool) : App where
  status := .connecting
  isRunning := false
  activeEngine := .string ""
  activeProfile := .string "turkey-default"
  selectedProfile := "turkey-default"
  autoProtect := autoProtect
  autoProtectTriggered := false

/-- What `ipc_start_auto` sends. -/
def App.startAuto (app : App) : IpcCommand :=
  .startAuto (if app.selectedProfile = "" then "turkey-default" else app.selectedProfile)

/-- `check`, from the answer on: an exception, or what `ipc_status` returned. With it the
commands it sends. -/
def App.check (app : App) : Option Value → App × List IpcCommand
  | none => ({ app with status := .disconnected, isRunning := false }, [])
  | some res =>
      if truthy (field "success" (some res)) && truthy (field "result" (some res)) then
        let r := field "result" (some res)
        let running := truthy (field "active_engine" r)
        let profile := field "active_profile" r
        let app :=
          { app with
            isRunning := running
            activeEngine := orElse (field "active_engine" r) (.string "")
            activeProfile := orElse profile app.activeProfile
            status := if running then .active else .idle }
        if app.autoProtect && !app.autoProtectTriggered && !running &&
            isText "Running" (field "service_state" r) then
          ({ app with autoProtectTriggered := true }, [app.startAuto])
        else (app, [])
      else ({ app with status := .error, isRunning := false }, [])

/-! ### Sessions -/

/-- A poll that the service answers, with the profile selected at that time and the state in
which it finds the manager. -/
structure Poll where
  selectedProfile : String
  requestId : String
  inner : ManagerInner
  readings : StatusReadings

namespace Poll

def status (poll : Poll) : ServiceStatusDto := poll.inner.getStatus poll.readings

def answer (poll : Poll) : Value :=
  (IpcResponse.ofSuccess poll.requestId (statusToJson poll.status)).toJson

/-- The poll reports no active engine. -/
def findsOff (poll : Poll) : Bool := poll.status.activeEngine.isNone

def run (app : App) (poll : Poll) : App × List IpcCommand :=
  { app with selectedProfile := poll.selectedProfile }.check (some poll.answer)

/-- The window after these polls. -/
def after (polls : List Poll) : App := polls.foldl (fun app poll => (poll.run app).1) (.opened true)

/-- The poll sends `ipc_start_auto` when it comes after the others. -/
def Starts (before : List Poll) (poll : Poll) : Prop :=
  ∃ profile, .startAuto profile ∈ (poll.run (after before)).2

end Poll

/-- The first poll that finds the protection off starts it, and no later one does. -/
def AutoProtects (polls : List Poll) : Prop :=
  ∀ before poll later, polls = before ++ poll :: later → poll.findsOff = true →
    (∀ earlier ∈ before, earlier.findsOff = false) →
      poll.Starts before ∧
        ∀ between next rest, later = between ++ next :: rest →
          ¬ next.Starts (before ++ poll :: between)

/-! ### What the poll finds -/

section

variable {poll : Poll}

theorem field_active_engine (dto : ServiceStatusDto) :
    field "active_engine" (some (statusToJson dto)) =
      some (nullable (dto.activeEngine.map Value.string)) := rfl

theorem field_service_state (dto : ServiceStatusDto) :
    field "service_state" (some (statusToJson dto)) = some (.string dto.serviceState) := by
  obtain ⟨_, _, _, _, _, _, _, _, _, _, _, _, _, security, method, provider⟩ := dto
  cases security <;> cases method <;> cases provider <;> rfl

/-- The window takes an engine for active exactly if the manager does. -/
theorem truthy_active_engine :
    truthy (field "active_engine" (some (statusToJson poll.status))) = !poll.findsOff := by
  rw [field_active_engine]
  unfold Poll.findsOff Poll.status ManagerInner.getStatus
  rcases poll.inner.activeEngine with _ | engine
  · rfl
  · cases engine <;> rfl

theorem findsOff_iff : poll.findsOff = true ↔ poll.inner.activeEngine = none := by
  rw [Poll.findsOff, Option.isNone_iff_eq_none]
  exact Option.map_eq_none_iff

/-- A manager without an active engine reports the service as stopped. -/
theorem serviceState_of_findsOff (off : poll.findsOff = true) :
    poll.status.serviceState = "Stopped" := by
  unfold Poll.status ManagerInner.getStatus
  rw [findsOff_iff.mp off]
  rfl

/-- Whatever state the poll finds, it sends nothing. -/
theorem run_silent (app : App) : (poll.run app).2 = [] := by
  have guarded : (!truthy (field "active_engine" (some (statusToJson poll.status))) &&
      isText "Running" (field "service_state" (some (statusToJson poll.status)))) = false := by
    rw [truthy_active_engine, Bool.not_not, field_service_state]
    cases off : poll.findsOff with
    | false => rfl
    | true =>
        rw [serviceState_of_findsOff off]
        decide
  have result : field "result" (some poll.answer) = some (statusToJson poll.status) := rfl
  have answered : (truthy (field "success" (some poll.answer)) &&
      truthy (some (statusToJson poll.status))) = true := rfl
  unfold Poll.run App.check
  simp only [result, answered, Bool.and_assoc, guarded, Bool.and_false, if_true,
    Bool.false_eq_true, if_false]

end

/-- The protection starts as it should exactly in the sessions that never find it off. -/
theorem auto_protects_iff (polls : List Poll) :
    AutoProtects polls ↔ ∀ poll ∈ polls, poll.inner.activeEngine ≠ none := by
  constructor
  · intro protects poll member none
    -- the first poll that finds the protection off
    have found : (polls.find? Poll.findsOff).isSome = true :=
      List.find?_isSome.mpr ⟨poll, member, findsOff_iff.mpr none⟩
    obtain ⟨first, found⟩ := Option.isSome_iff_exists.mp found
    obtain ⟨off, before, later, split, earlier⟩ := List.find?_eq_some_iff_append.mp found
    have on : ∀ poll ∈ before, poll.findsOff = false := by
      intro poll member
      simpa using earlier poll member
    obtain ⟨⟨profile, sent⟩, -⟩ := protects before first later split off on
    rw [run_silent] at sent
    cases sent
  · intro active before poll later split off
    exact absurd (findsOff_iff.mp off) (active poll (by simp [split]))

/-- The service has just started and no engine is active. -/
def firstPoll : Poll where
  selectedProfile := "turkey-default"
  requestId := "1"
  inner := .new 0 1
  readings :=
    { version := "1.0.5"
      uptimeSeconds := 3
      supervisor := ⟨.stopped, none, none, none⟩
      health := .unhealthy ""
      security := ⟨[], .available⟩
      dnsProbe := .ok true }

theorem auto_protect_never_fires : ¬ AutoProtects [firstPoll] := by
  intro protects
  obtain ⟨⟨profile, sent⟩, -⟩ := protects [] firstPoll [] rfl rfl (by simp)
  rw [run_silent] at sent
  cases sent

end ZonDpi.Gui
