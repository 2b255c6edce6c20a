import ZonDpi.Engine.GoodbyeCodec
import ZonDpi.Engine.GoodbyeLine

/-!
# The TTL modes of GoodbyeDPI

A fixed TTL and an automatic one exclude each other. `from_profile` sees to it in its
fields: the last of `--set-ttl`, `--auto-ttl` and `-5` decides (`Decided.readArgs`). It does not
in the arguments that it passes through, and among these may be a TTL option in another
spelling, as `--set-ttl=5` or `--auto`. `MixesTtl` says when such an option meets one of the
other kind, and only then the written line holds both (`ttl_modes_exclusive_iff`).
-/

namespace ZonDpi.Engine

open Getopt ZonDpi.Std

/-! ### The last TTL option -/

inductive TtlOption where
  | setTtl (value : String)
  /-- with the value, if one follows -/
  | autoTtl (value : Option String)
  | mode5
deriving DecidableEq, Repr

namespace TtlOption

def isFixed : TtlOption → Bool
  | setTtl _ => true
  | _ => false

end TtlOption

namespace GoodbyeConfig

/-- The last TTL option of an argument list, if `last` stands before it. -/
def lastTtl (last : Option TtlOption) : List String → Option TtlOption
  | [] => last
  | arg :: rest =>
      if arg = "--auto-ttl" then
        match rest with
        | [] => some (.autoTtl none)
        | value :: beyond =>
            if value.toList.head? = some '-' then lastTtl (some (.autoTtl none)) (value :: beyond)
            else lastTtl (some (.autoTtl (some value))) beyond
      else
        match flagOption arg with
        | some _ => lastTtl (if arg = "-5" then some .mode5 else last) rest
        | none =>
            match valueOption arg with
            | some _ =>
                match rest with
                | [] => last
                | value :: beyond =>
                    lastTtl (if arg = "--set-ttl" then some (.setTtl value) else last) beyond
            | none => lastTtl last rest

/-- The TTL fields are as the last TTL option says. -/
def Decided (config : GoodbyeConfig) : Option TtlOption → Prop
  | none => config.setTtl = none ∧ config.autoTtl = none
  | some (.setTtl value) =>
      (∃ n, parseUnsigned u8Max value = some n ∧ config.setTtl = some n) ∧ config.autoTtl = none
  | some (.autoTtl value) =>
      config.setTtl = none ∧ config.autoTtl = some (value.getD "1-4-10")
  | some .mode5 => config.setTtl = none ∧ config.autoTtl = some "1-4-10"

variable {config config' : GoodbyeConfig} {args : List String} {last : Option TtlOption}

theorem Decided.flag {arg : String} {set : GoodbyeConfig → GoodbyeConfig}
    (flag : flagOption arg = some set) (decided : config.Decided last) :
    (set config).Decided (if arg = "-5" then some .mode5 else last) := by
  unfold flagOption at flag
  split at flag <;> cases flag
  case h_11 => exact ⟨rfl, rfl⟩
  all_goals exact decided

theorem Decided.value {arg text : String}
    {read : GoodbyeConfig → String → Except GoodbyeAdapterError GoodbyeConfig}
    (option : valueOption arg = some read) (ok : read config text = .ok config')
    (decided : config.Decided last) :
    config'.Decided (if arg = "--set-ttl" then some (.setTtl text) else last) := by
  unfold valueOption at option
  split at option <;> cases option <;>
    simp only [parseNumber_map_eq_ok, Except.ok.injEq] at ok <;>
    obtain ⟨n, parsed, rfl⟩ := ok
  case h_3 => exact ⟨⟨n, parsed, rfl⟩, rfl⟩
  all_goals exact decided

/-- The last TTL option decides. -/
theorem Decided.readArgs (ok : readArgs config args = .ok config')
    (decided : config.Decided last) : config'.Decided (lastTtl last args) := by
  fun_induction lastTtl last args generalizing config with
  | case1 last =>
      cases ok
      exact decided
  | case2 last =>
      cases ok
      exact ⟨rfl, rfl⟩
  | case3 last value beyond dash ih =>
      rw [readArgs_auto_alone dash] at ok
      exact ih ok ⟨rfl, rfl⟩
  | case4 last value beyond begins ih =>
      rw [readArgs_auto begins] at ok
      exact ih ok ⟨rfl, rfl⟩
  | case5 last arg rest other set flag ih =>
      rw [readArgs_flag other flag] at ok
      exact ih ok (decided.flag flag)
  | case6 last arg other flag read option =>
      rw [readArgs_lacking other flag option] at ok
      cases ok
      exact decided
  | case7 last arg other flag read option value beyond ih =>
      cases done : read config value with
      | error e =>
          rw [readArgs_error other flag option done] at ok
          cases ok
      | ok next =>
          rw [readArgs_value other flag option done] at ok
          exact ih ok (decided.value option done)
  | case8 last arg rest other flag option ih =>
      rw [readArgs_pass other flag option] at ok
      exact ih ok decided

theorem Decided.exclusive (decided : config.Decided last) :
    config.setTtl = none ∨ config.autoTtl = none := by
  cases last with
  | none => exact .inl decided.1
  | some option =>
      cases option with
      | setTtl value => exact .inr decided.2
      | autoTtl value => exact .inl decided.1
      | mode5 => exact .inl decided.1

theorem Decided.setTtl_isSome (decided : config.Decided last) :
    config.setTtl.isSome = true ↔ ∃ option ∈ last, option.isFixed = true := by
  cases last with
  | none => simp [decided.1]
  | some option =>
      cases option with
      | setTtl value =>
          obtain ⟨⟨n, _, fixed⟩, _⟩ := decided
          simp [fixed, TtlOption.isFixed]
      | autoTtl value => simp [decided.1, TtlOption.isFixed]
      | mode5 => simp [decided.1, TtlOption.isFixed]

theorem Decided.autoTtl_isSome (decided : config.Decided last) :
    config.autoTtl.isSome = true ↔ ∃ option ∈ last, option.isFixed = false := by
  cases last with
  | none => simp [decided.2]
  | some option =>
      cases option with
      | setTtl value => simp [decided.2, TtlOption.isFixed]
      | autoTtl value => simp [decided.2, TtlOption.isFixed]
      | mode5 => simp [decided.2, TtlOption.isFixed]

/-! ### The options on the written line -/

theorem reports_flagArg {name : String} {opt : GoodbyeOpt} (present : Bool)
    (heard : goodbyeTable.heard name = some ([opt], none)) :
    Reports goodbyeTable (flagArg name present) ((flagOptions opt present).map Prod.fst) := by
  cases present with
  | false => exact reports_nil
  | true => exact reports_arg heard

theorem reports_textArg {name : String} {opt : GoodbyeOpt} (value : Option String)
    (heard : goodbyeTable.heard name = some ([], some opt)) :
    Reports goodbyeTable (textArg name value) ((valueOptions opt value).map Prod.fst) := by
  cases value with
  | none => exact reports_nil
  | some text => exact reports_value heard text

theorem reports_aheadArg {name : String} {opt : GoodbyeOpt} (value : Option String)
    (heard : goodbyeTable.heard name = some ([opt], none))
    (plain : ∀ text ∈ value, text.toList.head? ≠ some '-') :
    Reports goodbyeTable (textArg name value) ((valueOptions opt value).map Prod.fst) := by
  cases value with
  | none => exact reports_nil
  | some text => exact (reports_arg heard).append (reports_arg (heard_plain (plain text rfl)))

theorem reports_ttl (plain : config.Plain) :
    Reports goodbyeTable
      (match config.setTtl with
        | some ttl => ["--set-ttl", toString ttl]
        | none => textArg "--auto-ttl" config.autoTtl)
      (config.ttlOptions.map Prod.fst) := by
  unfold GoodbyeConfig.ttlOptions
  cases config.setTtl with
  | some ttl => exact reports_value rfl (toString ttl)
  | none => exact reports_aheadArg _ rfl plain

theorem reports_typed (plain : config.Plain) :
    Reports goodbyeTable
      (flagArg "-p" config.blockPassiveDpi ++ flagArg "-q" config.blockQuic ++
        flagArg "-r" config.replaceHost ++ flagArg "-s" config.removeSpace ++
        flagArg "-m" config.mixHostCase ++ numberArg "-f" config.httpFragSize ++
        numberArg "-e" config.httpsFragSize ++ flagArg "--native-frag" config.nativeFrag ++
        flagArg "--reverse-frag" config.reverseFrag ++ flagArg "--wrong-seq" config.wrongSeq ++
        flagArg "--wrong-chksum" config.wrongChksum ++
        (match config.setTtl with
          | some ttl => ["--set-ttl", toString ttl]
          | none => textArg "--auto-ttl" config.autoTtl) ++
        numberArg "--min-ttl" config.minTtl ++ numberArg "--max-payload" config.maxPayload)
      (config.typedOptions.map Prod.fst) := by
  simp only [typedOptions, List.map_append]
  exact reports_flagArg config.blockPassiveDpi rfl
    |>.append (reports_flagArg config.blockQuic rfl)
    |>.append (reports_flagArg config.replaceHost rfl)
    |>.append (reports_flagArg config.removeSpace rfl)
    |>.append (reports_flagArg config.mixHostCase rfl)
    |>.append (reports_textArg _ rfl)
    |>.append (reports_textArg _ rfl)
    |>.append (reports_flagArg config.nativeFrag rfl)
    |>.append (reports_flagArg config.reverseFrag rfl)
    |>.append (reports_flagArg config.wrongSeq rfl)
    |>.append (reports_flagArg config.wrongChksum rfl)
    |>.append (reports_ttl plain)
    |>.append (reports_textArg _ rfl)
    |>.append (reports_aheadArg _ rfl (number_plain config.maxPayload))

theorem reports_dns (config : GoodbyeConfig) :
    Reports goodbyeTable
      (textArg "--dns-addr" config.dnsAddr ++ numberArg "--dns-port" config.dnsPort ++
        textArg "--dnsv6-addr" config.dnsv6Addr ++ numberArg "--dnsv6-port" config.dnsv6Port)
      (config.dnsOptions.map Prod.fst) := by
  simp only [dnsOptions, List.map_append]
  exact reports_textArg config.dnsAddr rfl
    |>.append (reports_textArg _ rfl)
    |>.append (reports_textArg config.dnsv6Addr rfl)
    |>.append (reports_textArg _ rfl)

/-- The options of the written line: the typed ones, and those passed through. -/
theorem reported_toCommandArgs (plain : config.Plain) :
    goodbyeTable.reported none config.toCommandArgs =
      config.typedOptions.map Prod.fst ++ config.dnsOptions.map Prod.fst ++
        goodbyeTable.reported none config.customArgs :=
  (reports_typed plain).append (reports_dns config) config.customArgs

theorem mem_flagOptions {opt other : GoodbyeOpt} {present : Bool} :
    opt ∈ (flagOptions other present).map Prod.fst ↔ present = true ∧ opt = other := by
  cases present <;> simp [flagOptions]

theorem mem_valueOptions {opt other : GoodbyeOpt} {value : Option String} :
    opt ∈ (valueOptions other value).map Prod.fst ↔ value.isSome = true ∧ opt = other := by
  cases value <;> simp [valueOptions]

/-- Of the typed options only those on the TTL are TTL options. -/
theorem mem_reported_iff {opt : GoodbyeOpt} (plain : config.Plain)
    (ttl : opt = .setTtl ∨ opt = .autoTtl) :
    opt ∈ goodbyeTable.reported none config.toCommandArgs ↔
      opt ∈ config.ttlOptions.map Prod.fst ∨
        opt ∈ goodbyeTable.reported none config.customArgs := by
  rw [reported_toCommandArgs plain]
  simp only [typedOptions, dnsOptions, List.map_append, List.mem_append, mem_flagOptions,
    mem_valueOptions]
  rcases ttl with rfl | rfl <;> simp

theorem setTtl_mem_ttlOptions : .setTtl ∈ config.ttlOptions.map Prod.fst ↔
    config.setTtl.isSome = true := by
  unfold ttlOptions
  cases config.setTtl with
  | some ttl => simp
  | none => simp [mem_valueOptions, -List.mem_map]

theorem autoTtl_mem_ttlOptions (exclusive : config.setTtl = none ∨ config.autoTtl = none) :
    .autoTtl ∈ config.ttlOptions.map Prod.fst ↔ config.autoTtl.isSome = true := by
  unfold ttlOptions
  rcases exclusive with noFixed | noAuto
  · rw [noFixed, mem_valueOptions]
    simp
  · rw [noAuto]
    cases config.setTtl <;> simp [valueOptions]

/-! ### When the line holds both -/

/-- A TTL option that is passed through meets one of the other kind. -/
def MixesTtl (args : List String) : Prop :=
  (.setTtl ∈ goodbyeTable.reported none (passed args) ∧
      (.autoTtl ∈ goodbyeTable.reported none (passed args) ∨
        ∃ option ∈ lastTtl none args, option.isFixed = false)) ∨
    (.autoTtl ∈ goodbyeTable.reported none (passed args) ∧
      ∃ option ∈ lastTtl none args, option.isFixed = true)

/-- The fields never hold both modes and the last option decides; the line holds no two
options of different kinds exactly if none that is passed through adds the other kind. -/
theorem ttl_modes_exclusive_iff {profile : ProfileDefinition}
    (accepted : fromProfile profile = .ok config) :
    (¬ (config.setTtl.isSome = true ∧ config.autoTtl.isSome = true) ∧
      config.Decided (lastTtl none profile.arguments) ∧
      ¬ (.setTtl ∈ goodbyeTable.reported none config.toCommandArgs ∧
        .autoTtl ∈ goodbyeTable.reported none config.toCommandArgs)) ↔
      ¬ MixesTtl profile.arguments := by
  have read := fromProfile_eq_ok accepted
  have start : default.Decided none := ⟨rfl, rfl⟩
  have decided := start.readArgs read
  have custom : config.customArgs = passed profile.arguments := readArgs_customArgs read
  have one : ¬ (config.setTtl.isSome = true ∧ config.autoTtl.isSome = true) := by
    rintro ⟨fixed, auto⟩
    rcases decided.exclusive with noFixed | noAuto
    · simp [noFixed] at fixed
    · simp [noAuto] at auto
  have plain := fromProfile_plain accepted
  rw [mem_reported_iff plain (.inl rfl), mem_reported_iff plain (.inr rfl),
    setTtl_mem_ttlOptions, autoTtl_mem_ttlOptions decided.exclusive, custom, MixesTtl,
    ← decided.setTtl_isSome, ← decided.autoTtl_isSome]
  tauto

def ttlProfile (arguments : List String) : ProfileDefinition where
  id := "ttl"
  name := "TTL"
  description := ""
  targetEngine := "goodbye"
  arguments := arguments

theorem ttl_modes_exclusive_iff_twice :
    ∃ config, fromProfile (ttlProfile ["-5", "--set-ttl", "7", "--auto"]) = .ok config ∧
      ((¬ (config.setTtl.isSome = true ∧ config.autoTtl.isSome = true) ∧
        config.Decided (lastTtl none ["-5", "--set-ttl", "7", "--auto"]) ∧
        ¬ (.setTtl ∈ goodbyeTable.reported none config.toCommandArgs ∧
          .autoTtl ∈ goodbyeTable.reported none config.toCommandArgs)) ↔
        ¬ MixesTtl ["-5", "--set-ttl", "7", "--auto"]) := by
  have accepted : ∃ config,
      fromProfile (ttlProfile ["-5", "--set-ttl", "7", "--auto"]) = .ok config := ⟨_, rfl⟩
  obtain ⟨config, accepted⟩ := accepted
  exact ⟨config, accepted, ttl_modes_exclusive_iff accepted⟩

/-- A fixed TTL in a spelling that is passed through stands beside an automatic one. -/
theorem ttl_modes_mixed :
    ∃ config, fromProfile (ttlProfile ["--auto-ttl", "--set-ttl=5"]) = .ok config ∧
      ¬ (¬ (config.setTtl.isSome = true ∧ config.autoTtl.isSome = true) ∧
        config.Decided (lastTtl none ["--auto-ttl", "--set-ttl=5"]) ∧
        ¬ (.setTtl ∈ goodbyeTable.reported none config.toCommandArgs ∧
          .autoTtl ∈ goodbyeTable.reported none config.toCommandArgs)) := by
  refine ⟨_, rfl, ?_⟩
  rintro ⟨_, _, apart⟩
  exact apart (by decide)

end GoodbyeConfig

end ZonDpi.Engine
