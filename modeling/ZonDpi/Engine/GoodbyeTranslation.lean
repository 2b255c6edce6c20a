import ZonDpi.Engine.GoodbyeSuppression
import ZonDpi.Engine.GoodbyeWritten

/-!
# What the GoodbyeDPI adapter keeps of a profile

`from_profile` reads an argument list into typed fields and a list of arguments that it
passes through; `to_command_args` writes the fields in a fixed order and the other
arguments behind them. GoodbyeDPI reads both lists with `getopt_long`, and its options
depend on their order, so the two need not lead to the same settings.

`GoodbyeConfig.keeps` follows an argument list in the manner of `from_profile` and says
at which arguments something is lost: a modeset that has no exact expansion after the
options before it, an option that takes effect only the first time or leaves something
behind when it is repeated, an option that is moved past another one on the same variable,
a `--max-payload` that is dropped at the end, an argument behind `--` that changes a field,
and an argument that changes its role when the arguments around it are moved. Where none is
met, both lists lead to the same settings.

The proof runs both readers side by side. `Tracks` relates the configuration and the
options passed through so far to the variables of GoodbyeDPI: they are what the written
line would lead to at this point. A typed option is applied last by GoodbyeDPI and written
before all that is passed through, so it has to swap with each of them (`effect_swaps`) and
then do to the written settings what it does to the configuration (`Written.flag_step`,
`Written.value_step`).
-/

namespace ZonDpi.Engine

open Getopt Fold ZonDpi.Std

namespace GoodbyeConfig

/-! ### When the translation is faithful -/

/-- Nothing is lost at a typed option that stands behind the passed-through options
`seen`. -/
def allows (config : GoodbyeConfig) (seen : List GoodbyeOpt) (o : GoodbyeOpt × Option String) :
    Bool :=
  config.fits o && seen.all fun custom => !custom.clashes o.1

/-- Arguments that change no field. GoodbyeDPI does not read what stands behind `--`, but
`from_profile` does. -/
def unmoved (config : GoodbyeConfig) (rest : List String) : Bool :=
  match readArgs config rest with
  | .ok next => next = { config with customArgs := next.customArgs }
  | .error _ => true

/-- Nothing is lost in this argument list: every typed option fits and clashes with no
option before it that is passed through, a value that is missing is the one that was set
before, and the arguments passed through mean the same without the typed ones between
them. -/
def keeps (config : GoodbyeConfig) (seen : List GoodbyeOpt) : List String → Bool
  | [] => true
  | arg :: rest =>
      if arg = "--auto-ttl" then
        match rest with
        | [] => config.allows seen (.autoTtl, none)
        | value :: beyond =>
            if value.toList.head? = some '-' then
              config.allows seen (.autoTtl, none) &&
                keeps (config.withAutoTtl "1-4-10") seen (value :: beyond)
            else
              config.allows seen (.autoTtl, some value) &&
                keeps (config.withAutoTtl value) seen beyond
      else
        match flagOption arg with
        | some set =>
            (typedOpt arg).all (fun opt => config.allows seen (opt, none)) &&
              keeps (set config) seen rest
        | none =>
            match valueOption arg with
            | some read =>
                match rest with
                -- GoodbyeDPI accepts no other option without its value
                | [] =>
                    arg = "--max-payload" && config.maxPayload = some 1200 &&
                      config.allows seen (.maxPayload, none)
                | value :: beyond =>
                    match read config value with
                    | .error _ => true
                    | .ok next =>
                        (typedOpt arg).all (fun opt => config.allows seen (opt, some value)) &&
                          keeps next seen beyond
            | none =>
                match goodbyeTable.classify arg with
                | .plain => keeps (config.pass arg) seen rest
                | .stop => (config.pass arg).unmoved rest
                | .options found tail =>
                    found.all (fun o => o.1.look o.2 rest = o.1.look o.2 (passed rest)) &&
                      match tail, rest with
                      | .done, rest => keeps (config.pass arg) (seen ++ found.map Prod.fst) rest
                      | .needs opt, value :: beyond =>
                          passesThrough value &&
                            keeps ((config.pass arg).pass value)
                              (seen ++ found.map Prod.fst ++ [opt]) beyond
                      -- not accepted by GoodbyeDPI
                      | _, _ => true

end GoodbyeConfig

variable {host : GoodbyeHost} {config config' : GoodbyeConfig} {s s' : GoodbyeSettings}
  {done opts : List (GoodbyeOpt × Option String)} {o : GoodbyeOpt × Option String}
  {args : List String}

/-! ### Following both sides -/

/-- The service has come to the configuration and has passed the options `done` through;
GoodbyeDPI has come to settings like those that are written. -/
def Tracks (host : GoodbyeHost) (config : GoodbyeConfig)
    (done : List (GoodbyeOpt × Option String)) (s : GoodbyeSettings) : Prop :=
  ∃ v w, Written host config v ∧ done.foldlM host.effect v = .ok w ∧ w.Alike s

theorem Tracks.typed (tracks : Tracks host config done s) (applied : host.effect s o = .ok s')
    (allows : config.allows (done.map Prod.fst) o = true)
    (step : ∀ v next, Written host config v → config.fits o = true → host.effect v o = .ok next →
      ∃ v', Written host config' v' ∧ v'.Alike next) : Tracks host config' done s' := by
  obtain ⟨v, w, written, behind, alike⟩ := tracks
  simp only [GoodbyeConfig.allows, Bool.and_eq_true, List.all_map, List.all_eq_true,
    Function.comp_apply, Bool.not_eq_true'] at allows
  obtain ⟨fits, free⟩ := allows
  obtain ⟨w', applied', alike'⟩ := effect_respects o s w s' alike.symm applied
  -- the typed option is written before the others
  obtain ⟨next, first, behind'⟩ := foldlM_swaps (fun d member => effect_swaps (free d member))
    behind applied'
  obtain ⟨v', written', same⟩ := step v next written fits first
  obtain ⟨w'', behind'', alike''⟩ := effect_respects.foldlM same.symm behind'
  exact ⟨v', w'', written', behind'', (alike'.trans alike'').symm⟩

theorem Tracks.passed (tracks : Tracks host config done s)
    (applied : opts.foldlM host.effect s = .ok s') : Tracks host config (done ++ opts) s' := by
  obtain ⟨v, w, written, behind, alike⟩ := tracks
  obtain ⟨w', applied', alike'⟩ := effect_respects.foldlM alike.symm applied
  exact ⟨v, w', written, append_eq_ok.mpr ⟨w, behind, applied'⟩, alike'.symm⟩

/-- The arguments passed through have no part in what is written before them. -/
theorem Tracks.withCustomArgs (tracks : Tracks host config done s) (customArgs : List String) :
    Tracks host { config with customArgs := customArgs } done s := by
  obtain ⟨v, w, written, behind⟩ := tracks
  exact ⟨v, w, ⟨written.flags, written.http, written.https, written.payload, written.hops,
    written.ttl, written.dns, written.lists⟩, behind⟩

/-- The options that stand first on a command line are applied first. -/
theorem foldlM_parsed {whole rest : List String} {first : List (GoodbyeOpt × Option String)}
    (split : goodbyeTable.parse GoodbyeOpt.look whole =
      (goodbyeTable.parse GoodbyeOpt.look rest).map (first ++ ·))
    (parsed : goodbyeTable.parse GoodbyeOpt.look whole = some opts)
    (applied : opts.foldlM host.effect s = .ok s') :
    ∃ next others, first.foldlM host.effect s = .ok next ∧
      goodbyeTable.parse GoodbyeOpt.look rest = some others ∧
      others.foldlM host.effect next = .ok s' := by
  rw [split] at parsed
  obtain ⟨others, behind, rfl⟩ := Option.map_eq_some_iff.mp parsed
  obtain ⟨next, before, after⟩ := append_eq_ok.mp applied
  exact ⟨next, others, before, behind, after⟩

theorem GoodbyeOpt.look_name (opt : GoodbyeOpt) (optarg : Option String) (rest : List String) :
    (opt.look optarg rest).1 = opt := by
  cases opt <;> rfl

theorem GoodbyeOpt.look_value (opt : GoodbyeOpt) (value : String) (rest : List String) :
    opt.look (some value) rest = (opt, some value) := by
  cases opt <;> rfl

theorem parse_autoTtl (rest : List String) :
    goodbyeTable.parse GoodbyeOpt.look ("--auto-ttl" :: rest) =
      (goodbyeTable.parse GoodbyeOpt.look rest).map ([(.autoTtl, following rest)] ++ ·) := by
  have found : goodbyeTable.classify "--auto-ttl" = .options [(.autoTtl, none)] .done := rfl
  exact parse_done found

theorem parse_value {arg value : String} {rest : List String} {opt : GoodbyeOpt}
    {found : List (GoodbyeOpt × Option String)}
    (needs : goodbyeTable.classify arg = .options found (.needs opt)) :
    goodbyeTable.parse GoodbyeOpt.look (arg :: value :: rest) =
      (goodbyeTable.parse GoodbyeOpt.look rest).map
        ((found.map (fun o => o.1.look o.2 (value :: rest)) ++ [(opt, some value)]) ++ ·) := by
  simp [parse_needs needs, GoodbyeOpt.look_value]

/-- Both sides can be followed through an argument list in which nothing is lost. -/
theorem Tracks.readArgs {seen : List GoodbyeOpt} (tracks : Tracks host config done s)
    (names : done.map Prod.fst = seen) (kept : config.keeps seen args = true)
    (ok : config.readArgs args = .ok config')
    (parsed : goodbyeTable.parse GoodbyeOpt.look args = some opts)
    (applied : opts.foldlM host.effect s = .ok s') :
    ∃ custom, goodbyeTable.parse GoodbyeOpt.look (GoodbyeConfig.passed args) = some custom ∧
      Tracks host config' (done ++ custom) s' := by
  fun_induction GoodbyeConfig.keeps config seen args generalizing s done opts with
  | case1 config seen =>
      cases ok
      cases parsed
      cases applied
      exact ⟨[], rfl, by simpa using tracks⟩
  | case2 config seen =>
      subst names
      cases ok
      obtain ⟨next, others, first, parsed, applied⟩ :=
        foldlM_parsed (parse_autoTtl []) parsed applied
      cases parsed
      cases applied
      refine ⟨[], rfl, ?_⟩
      rw [List.append_nil]
      exact tracks.typed (by simpa [following] using first) kept fun _ _ written fits applied =>
        written.autoTtl_filled applied fits
  | case3 config seen value beyond dash ih =>
      subst names
      rw [Bool.and_eq_true] at kept
      rw [GoodbyeConfig.readArgs_auto_alone dash] at ok
      rw [GoodbyeConfig.passed_auto_alone dash]
      have split := parse_autoTtl (value :: beyond)
      rw [following, if_pos dash] at split
      obtain ⟨next, others, first, parsed, applied⟩ := foldlM_parsed split parsed applied
      have tracks := tracks.typed (by simpa using first) kept.1 fun _ _ written fits applied =>
        written.autoTtl_filled applied fits
      exact ih tracks rfl kept.2 ok parsed applied
  | case4 config seen value beyond dashless ih =>
      subst names
      rw [Bool.and_eq_true] at kept
      rw [GoodbyeConfig.readArgs_auto dashless] at ok
      rw [GoodbyeConfig.passed_auto dashless]
      have split := parse_autoTtl (value :: beyond)
      rw [following, if_neg dashless, parse_plain (classify_plain dashless)] at split
      obtain ⟨next, others, first, parsed, applied⟩ := foldlM_parsed split parsed applied
      have tracks := tracks.typed (by simpa using first) kept.1 fun _ _ written fits applied =>
        written.autoTtl_step applied fits
      exact ih tracks rfl kept.2 ok parsed applied
  | case5 config seen arg rest other set flag ih =>
      subst names
      obtain ⟨opt, name, parses, step⟩ := Written.flag_step host config flag
      rw [name, Option.all_some, Bool.and_eq_true] at kept
      rw [GoodbyeConfig.readArgs_flag other flag] at ok
      obtain ⟨next, others, first, parsed, applied⟩ := foldlM_parsed (parses rest) parsed applied
      rw [GoodbyeConfig.passed_flag other flag]
      exact ih (tracks.typed (by simpa using first) kept.1 step) rfl kept.2 ok parsed applied
  | case6 config seen arg other flag read option =>
      subst names
      simp only [Bool.and_eq_true, decide_eq_true_eq] at kept
      obtain ⟨⟨rfl, limit⟩, allowed⟩ := kept
      cases ok
      have found : goodbyeTable.classify "--max-payload" = .options [(.maxPayload, none)] .done :=
        rfl
      obtain ⟨next, others, first, parsed, applied⟩ :=
        foldlM_parsed (parse_done found) parsed applied
      cases parsed
      cases applied
      refine ⟨[], rfl, ?_⟩
      rw [List.append_nil]
      exact tracks.typed (by simpa [GoodbyeOpt.look, following] using first) allowed
        fun _ _ written _ applied => written.maxPayload_filled limit applied
  | case7 config seen arg other flag read option value beyond e failed =>
      rw [GoodbyeConfig.readArgs_error other flag option failed] at ok
      cases ok
  | case8 config seen arg other flag read option value beyond config' accepted ih =>
      subst names
      obtain ⟨opt, name, parses, step⟩ := Written.value_step host option accepted
      rw [name, Option.all_some, Bool.and_eq_true] at kept
      rw [GoodbyeConfig.readArgs_value other flag option accepted] at ok
      obtain ⟨next, others, first, parsed, applied⟩ := foldlM_parsed (parses beyond) parsed applied
      rw [GoodbyeConfig.passed_value other flag option]
      exact ih (tracks.typed (by simpa using first) kept.1 step) rfl kept.2 ok parsed applied
  | case9 config seen arg rest other flag option plain ih =>
      rw [GoodbyeConfig.readArgs_pass other flag option] at ok
      rw [parse_plain plain] at parsed
      rw [GoodbyeConfig.passed_pass other flag option, parse_plain plain]
      exact ih (tracks.withCustomArgs _) names kept ok parsed applied
  | case10 config seen arg rest other flag option stop =>
      rw [GoodbyeConfig.readArgs_pass other flag option] at ok
      rw [GoodbyeConfig.unmoved, ok, decide_eq_true_eq] at kept
      rw [kept]
      rw [parse_stop stop] at parsed
      cases parsed
      cases applied
      refine ⟨[], ?_, ?_⟩
      · rw [GoodbyeConfig.passed_pass other flag option, parse_stop stop]
      · rw [List.append_nil]
        exact tracks.withCustomArgs _
  | case11 config seen arg rest other flag option found tail classified ih =>
      subst names
      rw [Bool.and_eq_true] at kept
      obtain ⟨same, kept⟩ := kept
      have same : found.map (fun o => o.1.look o.2 rest) =
          found.map (fun o => o.1.look o.2 (GoodbyeConfig.passed rest)) := by
        refine List.map_congr_left fun o member => ?_
        simpa using List.all_eq_true.mp same o member
      rw [GoodbyeConfig.readArgs_pass other flag option] at ok
      rw [GoodbyeConfig.passed_pass other flag option]
      cases tail with
      | bad =>
          rw [parse_bad classified] at parsed
          cases parsed
      | done =>
          obtain ⟨next, others, first, parsed, applied⟩ :=
            foldlM_parsed (parse_done classified) parsed applied
          obtain ⟨custom, behind, tracks⟩ := ih ((tracks.withCustomArgs _).passed first)
            (by simp [GoodbyeOpt.look_name]) kept ok parsed applied
          refine ⟨_, ?_, by simpa using tracks⟩
          rw [parse_done classified, behind, ← same]
          rfl
      | needs opt =>
          cases rest with
          | nil =>
              rw [parse_needs_nil classified] at parsed
              cases parsed
          | cons value beyond =>
              rw [Bool.and_eq_true] at kept
              obtain ⟨other', flag', option'⟩ := GoodbyeConfig.passesThrough_iff.mp kept.1
              rw [GoodbyeConfig.readArgs_pass other' flag' option'] at ok
              rw [GoodbyeConfig.passed_pass other' flag' option'] at same ⊢
              obtain ⟨next, others, first, parsed, applied⟩ :=
                foldlM_parsed (parse_value classified) parsed applied
              obtain ⟨custom, behind, tracks⟩ := ih ((tracks.withCustomArgs _).passed first)
                (by simp [GoodbyeOpt.look_name]) kept.2 ok parsed applied
              refine ⟨_, ?_, by simpa using tracks⟩
              rw [parse_value classified, behind, ← same]
              simp

/-! ### The line that is written -/

namespace GoodbyeConfig

/-! Every argument leaves its mark on the configuration. -/

theorem flagOption_ne_default {arg : String} {set : GoodbyeConfig → GoodbyeConfig}
    (flag : flagOption arg = some set) : set config ≠ .default := by
  unfold flagOption at flag
  split at flag <;> cases flag <;> simp [GoodbyeConfig.default, fragmented]

theorem valueOption_ne_default {arg value : String}
    {read : GoodbyeConfig → String → Except GoodbyeAdapterError GoodbyeConfig}
    (option : valueOption arg = some read) (ok : read config value = .ok config') :
    config' ≠ .default := by
  unfold valueOption at option
  split at option <;> cases option <;>
    simp only [parseNumber_map_eq_ok, Except.ok.injEq] at ok
  all_goals
    obtain ⟨n, parsed, rfl⟩ := ok
    simp [GoodbyeConfig.default]

theorem withAutoTtl_ne_default (value : String) : config.withAutoTtl value ≠ .default := by
  simp [GoodbyeConfig.default, withAutoTtl]

theorem pass_ne_default (arg : String) : config.pass arg ≠ .default := by
  simp [GoodbyeConfig.default, pass]

theorem readArgs_ne_default (ok : readArgs config args = .ok config')
    (marked : config ≠ .default) : config' ≠ .default := by
  refine readArgs_invariant (· ≠ .default) ?_ ?_ ?_ ?_ ok marked
  · intro config value _ _
    exact withAutoTtl_ne_default value
  · intro config arg set flag _
    exact flagOption_ne_default flag
  · intro config arg read value config' option done _
    exact valueOption_ne_default option done
  · intro config arg _ _
    exact pass_ne_default arg

theorem ne_default_of_keeps {seen : List GoodbyeOpt} (kept : config.keeps seen args = true)
    (ok : readArgs config args = .ok config') (present : args ≠ []) : config' ≠ .default := by
  fun_cases GoodbyeConfig.keeps config seen args with
  | case1 => exact absurd rfl present
  | case2 => exact Except.ok.inj ok ▸ withAutoTtl_ne_default _
  | case3 value beyond dash =>
      rw [GoodbyeConfig.readArgs_auto_alone dash] at ok
      exact readArgs_ne_default ok (withAutoTtl_ne_default _)
  | case4 value beyond dashless =>
      rw [GoodbyeConfig.readArgs_auto dashless] at ok
      exact readArgs_ne_default ok (withAutoTtl_ne_default _)
  | case5 arg rest other set flag =>
      rw [readArgs_flag other flag] at ok
      exact readArgs_ne_default ok (flagOption_ne_default flag)
  | case6 arg other flag read option =>
      rw [keeps.eq_def] at kept
      simp only [if_neg other, flag, option, Bool.and_eq_true, decide_eq_true_eq] at kept
      rw [readArgs_lacking other flag option] at ok
      cases ok
      intro same
      rw [same] at kept
      cases kept.1.2
  | case7 arg other flag read option value beyond e failed =>
      rw [readArgs_error other flag option failed] at ok
      cases ok
  | case8 arg other flag read option value beyond next accepted =>
      rw [readArgs_value other flag option accepted] at ok
      exact readArgs_ne_default ok (valueOption_ne_default option accepted)
  | case9 arg rest other flag option
  | case10 arg rest other flag option
  | case11 arg rest other flag option =>
      rw [readArgs_pass other flag option] at ok
      exact readArgs_ne_default ok (pass_ne_default arg)

end GoodbyeConfig

theorem tracks_default (host : GoodbyeHost) : Tracks host .default [] .initial := by
  refine ⟨.initial, .initial, ⟨?_, rfl, rfl, rfl, rfl, rfl, ?_, rfl⟩, rfl, rfl⟩
  · intro flag
    cases flag <;> rfl
  · exact ⟨⟨rfl, rfl⟩, ⟨rfl, rfl⟩, rfl⟩

/-- A profile in which nothing is lost leads to the same settings by way of the service as
on its own. -/
theorem translation_of_keeps (host : GoodbyeHost) (profile : ProfileDefinition)
    (config : GoodbyeConfig) (v : GoodbyeSettings)
    (accepted : GoodbyeConfig.fromProfile profile = .ok config)
    (runs : host.settings profile.arguments = .ok v)
    (kept : GoodbyeConfig.default.keeps [] profile.arguments = true) :
    host.settings config.toCommandArgs = .ok v := by
  have read := GoodbyeConfig.fromProfile_eq_ok accepted
  by_cases empty : profile.arguments = []
  · rw [empty] at read runs
    cases read
    exact runs
  · obtain ⟨opts, last, parsed, applied, rfl⟩ := settings_eq_ok.mp runs
    rw [startSettings, if_neg empty] at applied
    obtain ⟨custom, parsed', v, w, written, behind, alike⟩ :=
      (tracks_default host).readArgs rfl kept read parsed applied
    have present : config.toCommandArgsFiltered true ≠ [] :=
      mt toCommandArgsFiltered_true_eq_nil.mp (GoodbyeConfig.ne_default_of_keeps kept read empty)
    refine (settings_toCommandArgs (GoodbyeConfig.fromProfile_plain accepted)).mpr
      ⟨custom, w, ?_, ?_, alike.finish.symm⟩
    · rw [GoodbyeConfig.readArgs_customArgs read]
      exact parsed'
    · rw [startSettings, if_neg present]
      exact append_eq_ok.mpr ⟨v, by simpa using written.read, behind⟩

theorem translation_of_keeps_mode5 :
    ∃ v, bareHost.settings ["-5", "--dns-addr", "1.1.1.1", "--dns-port", "53"] = .ok v ∧
      bareHost.settings redirectedMode5.toCommandArgs = .ok v := by
  have runs : ∃ v,
      bareHost.settings ["-5", "--dns-addr", "1.1.1.1", "--dns-port", "53"] = .ok v := ⟨_, rfl⟩
  obtain ⟨v, runs⟩ := runs
  exact ⟨v, runs,
    translation_of_keeps bareHost _ _ v redirectedMode5_accepted runs (by decide)⟩

/-- The modeset 1 has persistent fragmentation, which no typed option asks for. -/
theorem translation_loses :
    ∃ config v v', GoodbyeConfig.fromProfile (goodbyeProfile ["-1"]) = .ok config ∧
      bareHost.settings ["-1"] = .ok v ∧ bareHost.settings config.toCommandArgs = .ok v' ∧
      .doFragmentHttpPersistent ∈ v.flags ∧ .doFragmentHttpPersistent ∉ v'.flags := by
  refine ⟨_, _, _, rfl, rfl, rfl, ?_, ?_⟩ <;> decide

end ZonDpi.Engine
