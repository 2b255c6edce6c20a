import ZonDpi.Engine.GoodbyeLoop
import ZonDpi.Engine.GoodbyeOptions

/-!
How GoodbyeDPI reads a command line that the service has written.

A `GoodbyeConfig` is written option by option. `typedOptions` and `dnsOptions` are the
options that `getopt_long` finds in the typed part of the line, and behind them it reads
the arguments that were passed through as if they stood alone (`parse_toCommandArgs`).
This needs one thing of the configuration: the text of `--auto-ttl` does not begin with a
dash, which `from_profile` sees to (`fromProfile_plain`).
-/

namespace ZonDpi.Engine

open Getopt ZonDpi.Std

/-! ### Options that are written -/

def flagOptions (opt : GoodbyeOpt) (present : Bool) : List (GoodbyeOpt × Option String) :=
  if present then [(opt, none)] else []

namespace GoodbyeConfig

def ttlOptions (config : GoodbyeConfig) : List (GoodbyeOpt × Option String) :=
  match config.setTtl with
  | some ttl => [(.setTtl, some (toString ttl))]
  | none => valueOptions .autoTtl config.autoTtl

def typedOptions (config : GoodbyeConfig) : List (GoodbyeOpt × Option String) :=
  flagOptions .p config.blockPassiveDpi ++ flagOptions .q config.blockQuic ++
    flagOptions .r config.replaceHost ++ flagOptions .s config.removeSpace ++
    flagOptions .m config.mixHostCase ++ valueOptions .f (config.httpFragSize.map toString) ++
    valueOptions .e (config.httpsFragSize.map toString) ++
    flagOptions .nativeFrag config.nativeFrag ++ flagOptions .reverseFrag config.reverseFrag ++
    flagOptions .wrongSeq config.wrongSeq ++ flagOptions .wrongChksum config.wrongChksum ++
    config.ttlOptions ++ valueOptions .minTtl (config.minTtl.map toString) ++
    valueOptions .maxPayload (config.maxPayload.map toString)

def dnsOptions (config : GoodbyeConfig) : List (GoodbyeOpt × Option String) :=
  valueOptions .dnsAddr config.dnsAddr ++ valueOptions .dnsPort (config.dnsPort.map toString) ++
    valueOptions .dnsv6Addr config.dnsv6Addr ++
    valueOptions .dnsv6Port (config.dnsv6Port.map toString)

/-- The text of `--auto-ttl` does not look like an option. -/
def Plain (config : GoodbyeConfig) : Prop :=
  ∀ text ∈ config.autoTtl, text.toList.head? ≠ some '-'

end GoodbyeConfig

variable {opt : GoodbyeOpt} {name : String} {config : GoodbyeConfig}

theorem parses_flagArg (present : Bool)
    (found : goodbyeTable.classify name = .options [(opt, none)] .done)
    (same : ∀ rest, opt.look none rest = (opt, none)) :
    Parses goodbyeTable GoodbyeOpt.look (flagArg name present) (flagOptions opt present) := by
  cases present with
  | false => exact parses_nil
  | true => exact parses_flag found same

theorem look_ahead {value : String} (plain : value.toList.head? ≠ some '-')
    (ahead : opt = .autoTtl ∨ opt = .maxPayload) (rest : List String) :
    opt.look none (value :: rest) = (opt, some value) := by
  rcases ahead with rfl | rfl <;> simp [GoodbyeOpt.look, following, plain]

theorem parses_aheadArg (value : Option String)
    (found : goodbyeTable.classify name = .options [(opt, none)] .done)
    (plain : ∀ text ∈ value, text.toList.head? ≠ some '-')
    (ahead : opt = .autoTtl ∨ opt = .maxPayload) :
    Parses goodbyeTable GoodbyeOpt.look (textArg name value) (valueOptions opt value) := by
  cases value with
  | none => exact parses_nil
  | some text =>
      have dashless := plain text rfl
      exact parses_ahead found (classify_plain dashless) (look_ahead dashless ahead)

theorem number_plain (value : Option Nat) :
    ∀ text ∈ value.map toString, text.toList.head? ≠ some '-' := by
  intro text member dash
  obtain ⟨n, _, rfl⟩ := Option.map_eq_some_iff.mp member
  exact absurd (isDigitOf_toString (List.mem_of_mem_head? dash)) (by decide)

/-! ### The line -/

theorem parses_ttl (plain : config.Plain) :
    Parses goodbyeTable GoodbyeOpt.look
      (match config.setTtl with
        | some ttl => ["--set-ttl", toString ttl]
        | none => textArg "--auto-ttl" config.autoTtl)
      config.ttlOptions := by
  unfold GoodbyeConfig.ttlOptions
  cases config.setTtl with
  | some ttl => exact parses_value rfl fun _ => rfl
  | none => exact parses_aheadArg _ rfl plain (.inl rfl)

theorem parses_dns (config : GoodbyeConfig) :
    Parses goodbyeTable GoodbyeOpt.look
      (textArg "--dns-addr" config.dnsAddr ++ numberArg "--dns-port" config.dnsPort ++
        textArg "--dnsv6-addr" config.dnsv6Addr ++ numberArg "--dnsv6-port" config.dnsv6Port)
      config.dnsOptions :=
  parses_textArg config.dnsAddr rfl (fun _ _ => rfl)
    |>.append (parses_textArg _ rfl fun _ _ => rfl)
    |>.append (parses_textArg config.dnsv6Addr rfl fun _ _ => rfl)
    |>.append (parses_textArg _ rfl fun _ _ => rfl)

theorem parses_typed (plain : config.Plain) :
    Parses goodbyeTable GoodbyeOpt.look
      (flagArg "-p" config.blockPassiveDpi ++ flagArg "-q" config.blockQuic ++
        flagArg "-r" config.replaceHost ++ flagArg "-s" config.removeSpace ++
        flagArg "-m" config.mixHostCase ++ numberArg "-f" config.httpFragSize ++
        numberArg "-e" config.httpsFragSize ++ flagArg "--native-frag" config.nativeFrag ++
        flagArg "--reverse-frag" config.reverseFrag ++ flagArg "--wrong-seq" config.wrongSeq ++
        flagArg "--wrong-chksum" config.wrongChksum ++
        (match config.setTtl with
          | some ttl => ["--set-ttl", toString ttl]
          | none => textArg "--auto-ttl" config.autoTtl) ++
        numberArg "--min-ttl" config.minTtl ++ numberArg "--max-payload" config.maxPayload)
      config.typedOptions :=
  parses_flagArg config.blockPassiveDpi rfl (fun _ => rfl)
    |>.append (parses_flagArg config.blockQuic rfl fun _ => rfl)
    |>.append (parses_flagArg config.replaceHost rfl fun _ => rfl)
    |>.append (parses_flagArg config.removeSpace rfl fun _ => rfl)
    |>.append (parses_flagArg config.mixHostCase rfl fun _ => rfl)
    |>.append (parses_textArg _ rfl fun _ _ => rfl)
    |>.append (parses_textArg _ rfl fun _ _ => rfl)
    |>.append (parses_flagArg config.nativeFrag rfl fun _ => rfl)
    |>.append (parses_flagArg config.reverseFrag rfl fun _ => rfl)
    |>.append (parses_flagArg config.wrongSeq rfl fun _ => rfl)
    |>.append (parses_flagArg config.wrongChksum rfl fun _ => rfl)
    |>.append (parses_ttl plain)
    |>.append (parses_textArg _ rfl fun _ _ => rfl)
    |>.append (parses_aheadArg _ rfl (number_plain config.maxPayload) (.inr rfl))

/-- The options of a line that the service has written. -/
theorem parse_toCommandArgs (plain : config.Plain) (includeDnsRedirect : Bool) :
    goodbyeTable.parse GoodbyeOpt.look (config.toCommandArgsFiltered includeDnsRedirect) =
      (goodbyeTable.parse GoodbyeOpt.look config.customArgs).map
        (config.typedOptions ++ (if includeDnsRedirect then config.dnsOptions else []) ++ ·) := by
  cases includeDnsRedirect with
  | false => exact (parses_typed plain).append parses_nil config.customArgs
  | true => exact (parses_typed plain).append (parses_dns config) config.customArgs

/-! ### Configurations from a profile -/

namespace GoodbyeConfig

theorem plain_default : default.Plain :=
  nofun

theorem Plain.flag {set : GoodbyeConfig → GoodbyeConfig} {arg : String}
    (flag : flagOption arg = some set) (plain : config.Plain) : (set config).Plain := by
  unfold flagOption at flag
  split at flag <;> cases flag <;> first | exact plain | skip
  -- the modeset 5 writes the text itself
  rintro _ ⟨⟩
  decide

theorem Plain.value {read : GoodbyeConfig → String → Except GoodbyeAdapterError GoodbyeConfig}
    {arg value : String} {config' : GoodbyeConfig} (option : valueOption arg = some read)
    (ok : read config value = .ok config') (plain : config.Plain) : config'.Plain := by
  unfold valueOption at option
  split at option <;> cases option <;>
    simp only [parseNumber_map_eq_ok, Except.ok.injEq] at ok
  all_goals obtain ⟨_, _, rfl⟩ := ok
  all_goals first | exact plain | exact nofun

theorem Plain.readArgs {args : List String} {config' : GoodbyeConfig}
    (ok : readArgs config args = .ok config') (plain : config.Plain) : config'.Plain := by
  refine readArgs_invariant Plain ?_ ?_ ?_ ?_ ok plain
  · rintro config value dashless - _ ⟨⟩
    exact dashless
  · intro config arg set flag plain
    exact plain.flag flag
  · intro config arg read value config' option done plain
    exact plain.value option done
  · intro config arg _ plain
    exact plain

theorem fromProfile_plain {profile : ProfileDefinition}
    (accepted : fromProfile profile = .ok config) : config.Plain :=
  plain_default.readArgs (fromProfile_eq_ok accepted)

end GoodbyeConfig

end ZonDpi.Engine
