import ZonDpi.Engine.ByeDpiLoop
import ZonDpi.Engine.CiadpiCopies

/-!
How `ciadpi` reads a command line that the service has written.

A `ByeDpiConfig` is written option by option (`ByeDpiConfig.options`), and behind these
options `getopt_long` reads the arguments that were passed through as if they stood alone.
The options of the first group, and with them the address and the port, can be copied by
what is passed through (`ByeDpiConfig.division`).
-/

namespace ZonDpi.Engine

open Getopt Fold ZonDpi.Std

/-- The options that act on a group and that the service knows. -/
def CiadpiOpt.isGroupTyped : CiadpiOpt → Bool
  | split | disorder | fake | ttl | auto | autoMode => true
  | _ => false

namespace ByeDpiConfig

/-- The address, the port and the limit on connections. -/
def listenOptions (config : ByeDpiConfig) : List (CiadpiOpt × Option String) :=
  (.ip, some config.listenIp) :: (.port, some (toString config.port)) ::
    valueOptions .maxConn (config.maxConn.map toString)

/-- The parts and the TTL of the first group. -/
def partOptions (config : ByeDpiConfig) : List (CiadpiOpt × Option String) :=
  valueOptions .split config.splitPos ++ (valueOptions .disorder config.disorderPos ++
    (valueOptions .fake config.fakePos ++ valueOptions .ttl (config.fakeTtl.map toString)))

def autoOptions (config : ByeDpiConfig) : List (CiadpiOpt × Option String) :=
  valueOptions .auto config.autoParams ++ valueOptions .autoMode config.autoMode

def options (config : ByeDpiConfig) : List (CiadpiOpt × Option String) :=
  config.listenOptions ++ (config.partOptions ++ config.autoOptions)

theorem parses_listen (config : ByeDpiConfig) :
    Parses ciadpiTable ciadpiLook
      (["-i", config.listenIp, "-p", toString config.port] ++ numberArg "-c" config.maxConn)
      config.listenOptions := by
  have address : Parses ciadpiTable ciadpiLook ["-i", config.listenIp]
      [(.ip, some config.listenIp)] := parses_value rfl fun _ => rfl
  have port : Parses ciadpiTable ciadpiLook ["-p", toString config.port]
      [(.port, some (toString config.port))] := parses_value rfl fun _ => rfl
  exact (address.append port).append (parses_textArg _ rfl fun _ _ => rfl)

theorem parses_parts (config : ByeDpiConfig) :
    Parses ciadpiTable ciadpiLook
      (textArg "-s" config.splitPos ++ (textArg "-d" config.disorderPos ++
        (textArg "-f" config.fakePos ++ numberArg "-t" config.fakeTtl)))
      config.partOptions := by
  have ttl : Parses ciadpiTable ciadpiLook (numberArg "-t" config.fakeTtl) _ :=
    parses_textArg _ rfl fun _ _ => rfl
  exact (parses_textArg config.splitPos rfl fun _ _ => rfl).append
    ((parses_textArg config.disorderPos rfl fun _ _ => rfl).append
      ((parses_textArg config.fakePos rfl fun _ _ => rfl).append ttl))

theorem parses_auto (config : ByeDpiConfig) :
    Parses ciadpiTable ciadpiLook
      (textArg "-A" config.autoParams ++ textArg "-L" config.autoMode) config.autoOptions :=
  (parses_textArg config.autoParams rfl fun _ _ => rfl).append
    (parses_textArg config.autoMode rfl fun _ _ => rfl)

theorem parse_toCommandArgs (config : ByeDpiConfig) :
    ciadpiTable.parse ciadpiLook config.toCommandArgs =
      (ciadpiTable.parse ciadpiLook config.customArgs).map (config.options ++ ·) := by
  have line := config.parses_listen.append (config.parses_parts.append config.parses_auto)
    config.customArgs
  simpa only [toCommandArgs, options, List.append_assoc] using line

/-! ### The groups that are written -/

def firstGroup (config : ByeDpiConfig) : List (CiadpiOpt × Option String) :=
  config.listenOptions ++ config.partOptions

/-- The groups behind the options that are written. -/
def division (config : ByeDpiConfig) : Division :=
  match config.autoParams with
  | none => ⟨[], config.firstGroup ++ valueOptions .autoMode config.autoMode⟩
  | some _ => ⟨[config.firstGroup], valueOptions .autoMode config.autoMode⟩

theorem partOptions_typed (config : ByeDpiConfig) :
    ∀ o ∈ config.partOptions, o.1.isGroupTyped = true ∧ o.1 ≠ .auto := by
  intro o member
  simp only [partOptions, List.mem_append] at member
  rcases member with member | member | member | member <;> rw [mem_valueOptions member] <;>
    exact ⟨rfl, nofun⟩

theorem autoOptions_typed (config : ByeDpiConfig) :
    ∀ o ∈ config.autoOptions, o.1.isGroupTyped = true := by
  intro o member
  rcases List.mem_append.mp member with member | member <;> rw [mem_valueOptions member] <;> rfl

theorem listenOptions_plain (config : ByeDpiConfig) :
    ∀ o ∈ config.listenOptions, o.1 = .ip ∨ o.1 = .port ∨ o.1 = .maxConn := by
  intro o member
  rcases List.mem_cons.mp member with rfl | member
  · exact .inl rfl
  rcases List.mem_cons.mp member with rfl | member
  · exact .inr (.inl rfl)
  · exact .inr (.inr (mem_valueOptions member))

theorem firstGroup_plain (config : ByeDpiConfig) :
    ∀ o ∈ config.firstGroup, o.1 ≠ .auto ∧ o.1 ≠ .copy := by
  intro o member
  rcases List.mem_append.mp member with listen | part
  · rcases config.listenOptions_plain o listen with opt | opt | opt <;> rw [opt] <;>
      exact ⟨nofun, nofun⟩
  · obtain ⟨typed, other⟩ := config.partOptions_typed o part
    refine ⟨other, fun copy => ?_⟩
    rw [copy] at typed
    cases typed

theorem options_eq (config : ByeDpiConfig) :
    config.options = config.firstGroup ++ config.autoOptions := by
  simp [options, firstGroup]

theorem foldl_add_options (config : ByeDpiConfig) :
    config.options.foldl Division.add .start = config.division := by
  have mode : ∀ o ∈ valueOptions CiadpiOpt.autoMode config.autoMode,
      o.1 ≠ .auto ∧ o.1 ≠ .copy := by
    intro o member
    rw [mem_valueOptions member]
    exact ⟨nofun, nofun⟩
  rw [options_eq, autoOptions, List.foldl_append, List.foldl_append,
    Division.foldl_add_plain _ config.firstGroup_plain, Division.foldl_add_plain _ mode, division]
  cases config.autoParams <;> rfl

theorem options_jumpless (config : ByeDpiConfig) : ∀ o ∈ config.options, jumpless o = true := by
  intro o member
  have other : o.1 ≠ .copy := by
    rw [options_eq] at member
    rcases List.mem_append.mp member with first | auto
    · exact (config.firstGroup_plain o first).2
    · intro copy
      have typed := config.autoOptions_typed o auto
      rw [copy] at typed
      cases typed
  simp [jumpless, other]

/-- What can be copied of the written options is among them. -/
theorem mem_options_of_division {config : ByeDpiConfig} {o : CiadpiOpt × Option String}
    (member : o ∈ config.division.current ∨ ∃ group ∈ config.division.finished, o ∈ group) :
    o ∈ config.options := by
  have mode : o ∈ valueOptions .autoMode config.autoMode → o ∈ config.autoOptions :=
    fun member => List.mem_append_right _ member
  rw [options_eq, List.mem_append]
  unfold division at member
  split at member
  · simp only [List.not_mem_nil, false_and, exists_false, or_false, List.mem_append] at member
    exact member.imp_right mode
  · simp only [List.mem_singleton, exists_eq_left] at member
    exact member.symm.imp_right mode

/-! ### What is given outside the groups -/

section Outside

variable {α : Type} {given : CiadpiOpt × Option String → Option α}
  (outside : ∀ o, o.1.isGroupTyped = true → given o = none)

include outside

theorem lastSome_firstGroup (config : ByeDpiConfig) :
    lastSome given config.firstGroup = lastSome given config.listenOptions := by
  have none : lastSome given config.partOptions = none :=
    lastSome_eq_none.mpr fun o member => outside o (config.partOptions_typed o member).1
  rw [firstGroup, lastSome_append, none, Option.none_or]

theorem lastSome_autoMode (value : Option String) :
    lastSome given (valueOptions .autoMode value) = none := by
  refine lastSome_eq_none.mpr fun o member => outside o ?_
  rw [mem_valueOptions member]
  rfl

theorem lastSome_options (config : ByeDpiConfig) :
    lastSome given config.options = lastSome given config.listenOptions := by
  have none : lastSome given config.autoOptions = none :=
    lastSome_eq_none.mpr fun o member => outside o (config.autoOptions_typed o member)
  rw [options_eq, lastSome_append, none, Option.none_or, lastSome_firstGroup outside]

end Outside

end ByeDpiConfig

/-- A line that the service has written is accepted if what is passed through can be
expanded behind the options that are written. -/
theorem accepts_written_iff {host : CiadpiHost} {config : ByeDpiConfig} {p : CiadpiParams} :
    host.Accepts config.toCommandArgs p ↔
      ∃ custom expanded v, ciadpiTable.parse ciadpiLook config.customArgs = some custom ∧
        config.division.expand custom = some expanded ∧
        (config.options ++ expanded).foldlM host.effect .initial = .ok v ∧ p = v.finish := by
  have expands : ∀ custom, Division.start.expand (config.options ++ custom) =
      (config.division.expand custom).map (config.options ++ ·) := by
    intro custom
    rw [Division.expand_append, Division.expand_jumpless _ config.options_jumpless,
      config.foldl_add_options]
    rfl
  rw [accepts_iff, config.parse_toCommandArgs]
  constructor
  · rintro ⟨_, _, v, parsed, expanded, applied, rfl⟩
    obtain ⟨custom, read, rfl⟩ := Option.map_eq_some_iff.mp parsed
    rw [expands] at expanded
    obtain ⟨more, behind, rfl⟩ := Option.map_eq_some_iff.mp expanded
    exact ⟨custom, more, v, read, behind, applied, rfl⟩
  · rintro ⟨custom, more, v, parsed, expanded, applied, rfl⟩
    refine ⟨config.options ++ custom, config.options ++ more, v, ?_, ?_, applied, rfl⟩
    · rw [parsed]
      rfl
    · rw [expands, expanded]
      rfl

end ZonDpi.Engine
