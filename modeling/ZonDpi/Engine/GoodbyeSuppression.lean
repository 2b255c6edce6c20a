import ZonDpi.Engine.GoodbyeLine

/-!
What is left of a command line when the redirection of DNS is suppressed.

`to_command_args_filtered(false)` leaves out the four typed DNS options. The rest of the
line is the same, so GoodbyeDPI takes the same settings from it, with two exceptions. The
arguments that `from_profile` passes through may hold DNS options in a spelling it does
not know, as `--dns-addr=1.1.1.1`, and these stay. And if nothing but DNS options was
there, nothing is left, and without arguments GoodbyeDPI runs with the modeset 9. There
is no third exception (`suppression_iff`).
-/

namespace ZonDpi.Engine

open Getopt ZonDpi.Std

def DnsSettings.redirects (v : DnsSettings) : Bool := v.doDnsv4Redirect || v.doDnsv6Redirect

variable {host : GoodbyeHost} {o : GoodbyeOpt × Option String}
  {opts : List (GoodbyeOpt × Option String)} {v v' : GoodbyeSettings} {config : GoodbyeConfig}

/-! ### DNS options and others -/

/-- The other options neither read nor write the DNS variables. -/
theorem effect_other (other : o.1.isDns = false) (applied : host.effect v o = .ok v') :
    v'.dns = v.dns ∧ ∀ dns, host.effect { v with dns := dns } o = .ok { v' with dns := dns } := by
  obtain ⟨flags, http, https, payload, hops, ttl, dns, lists⟩ := effect_eq_ok.mp applied
  rw [stepDns_idle other] at dns
  refine ⟨(Except.ok.inj dns).symm, fun _ => effect_eq_ok.mpr ?_⟩
  exact ⟨flags, http, https, payload, hops, ttl, stepDns_idle other _, lists⟩

/-- The DNS options write nothing else. -/
theorem effect_dns (isDns : o.1.isDns = true) (applied : host.effect v o = .ok v') :
    { v' with dns := v.dns } = v := by
  obtain ⟨flags, http, https, payload, hops, ttl, -, lists⟩ := effect_eq_ok.mp applied
  obtain ⟨opt, optarg⟩ := o
  cases v
  cases v'
  cases opt <;> cases isDns
  all_goals
    cases http
    cases https
    cases payload
    cases hops
    cases ttl
    cases lists
    simpa [GoodbyeOpt.raises] using flags

/-- A DNS option that succeeds leaves a redirection, and no option takes one away. -/
theorem stepDns_redirects {dns dns' : DnsSettings} (applied : host.stepDns dns o = .ok dns') :
    dns'.redirects = (dns.redirects || o.1.isDns) := by
  unfold GoodbyeHost.stepDns at applied
  split at applied
  · rename_i option
    split at applied <;> cases applied
    simp [DnsSettings.redirects, GoodbyeOpt.isDns, option]
  · rename_i option
    split at applied <;> cases applied
    simp [DnsSettings.redirects, GoodbyeOpt.isDns, option]
  · rename_i option
    split at applied
    · cases applied
    · obtain ⟨_, _, ⟨⟩⟩ := Fold.bind_eq_ok.mp applied
      simp_all [DnsSettings.redirects, GoodbyeOpt.isDns]
  · rename_i option
    split at applied
    · cases applied
    · obtain ⟨_, _, ⟨⟩⟩ := Fold.bind_eq_ok.mp applied
      simp_all [DnsSettings.redirects, GoodbyeOpt.isDns]
  · cases applied
    obtain ⟨opt, optarg⟩ := o
    cases opt <;> simp_all [GoodbyeOpt.isDns]

/-! ### Lists of options -/

theorem foldlM_other (others : ∀ o ∈ opts, o.1.isDns = false)
    (applied : opts.foldlM host.effect v = .ok v') :
    v'.dns = v.dns ∧ ∀ dns, opts.foldlM host.effect { v with dns := dns } =
      .ok { v' with dns := dns } := by
  induction opts generalizing v with
  | nil =>
      cases applied
      exact ⟨rfl, fun _ => rfl⟩
  | cons o opts ih =>
      obtain ⟨next, first, rest⟩ := Fold.cons_eq_ok.mp applied
      obtain ⟨kept, moved⟩ := effect_other (others o (by simp)) first
      obtain ⟨kept', moved'⟩ := ih (fun o member => others o (by simp [member])) rest
      exact ⟨kept'.trans kept, fun dns => Fold.cons_eq_ok.mpr ⟨_, moved dns, moved' dns⟩⟩

theorem foldlM_dns (allDns : ∀ o ∈ opts, o.1.isDns = true)
    (applied : opts.foldlM host.effect v = .ok v') : { v' with dns := v.dns } = v := by
  induction opts generalizing v with
  | nil =>
      cases applied
      rfl
  | cons o opts ih =>
      obtain ⟨next, first, rest⟩ := Fold.cons_eq_ok.mp applied
      have kept := effect_dns (allDns o (by simp)) first
      have kept' := ih (fun o member => allDns o (by simp [member])) rest
      rw [← kept, ← kept']

theorem foldlM_redirects (applied : opts.foldlM host.effect v = .ok v') :
    v'.dns.redirects = (v.dns.redirects || opts.any (·.1.isDns)) := by
  induction opts generalizing v with
  | nil =>
      cases applied
      simp
  | cons o opts ih =>
      obtain ⟨next, first, rest⟩ := Fold.cons_eq_ok.mp applied
      obtain ⟨-, -, -, -, -, -, dns, -⟩ := effect_eq_ok.mp first
      rw [ih rest, stepDns_redirects dns, List.any_cons, Bool.or_assoc]

theorem forall_flagOptions {opt : GoodbyeOpt} {p : GoodbyeOpt × Option String → Prop}
    {present : Bool} :
    (∀ o ∈ flagOptions opt present, p o) ↔ (present = true → p (opt, none)) := by
  cases present <;> simp [flagOptions]

theorem forall_valueOptions {opt : GoodbyeOpt} {p : GoodbyeOpt × Option String → Prop}
    {value : Option String} :
    (∀ o ∈ valueOptions opt value, p o) ↔ ∀ text ∈ value, p (opt, some text) := by
  cases value <;> simp [valueOptions]

theorem typedOptions_other (config : GoodbyeConfig) :
    ∀ o ∈ config.typedOptions, o.1.isDns = false := by
  unfold GoodbyeConfig.typedOptions GoodbyeConfig.ttlOptions
  cases config.setTtl <;>
    simp only [List.forall_mem_append, List.forall_mem_singleton, forall_flagOptions,
      forall_valueOptions] <;>
    simp [GoodbyeOpt.isDns]

theorem dnsOptions_dns (config : GoodbyeConfig) :
    ∀ o ∈ config.dnsOptions, o.1.isDns = true := by
  simp only [GoodbyeConfig.dnsOptions, List.forall_mem_append, forall_valueOptions]
  simp [GoodbyeOpt.isDns]

/-! ### Empty lines -/

namespace GoodbyeConfig

/-- There are DNS options and nothing else. -/
def DnsOnly (config : GoodbyeConfig) : Prop := config.withoutDns = default ∧ config ≠ default

instance (config : GoodbyeConfig) : Decidable config.DnsOnly :=
  inferInstanceAs (Decidable (_ ∧ _))

end GoodbyeConfig

theorem flagArg_eq_nil {name : String} {present : Bool} :
    flagArg name present = [] ↔ present = false := by
  cases present <;> simp [flagArg]

theorem textArg_eq_nil {name : String} {value : Option String} :
    textArg name value = [] ↔ value = none := by
  cases value <;> simp [textArg]

theorem toCommandArgsFiltered_false_eq_nil :
    config.toCommandArgsFiltered false = [] ↔ config.withoutDns = .default := by
  constructor
  · intro empty
    cases ttl : config.setTtl <;>
      simp [GoodbyeConfig.toCommandArgsFiltered, ttl, numberArg, flagArg_eq_nil, textArg_eq_nil]
        at empty
    cases config
    simp_all [GoodbyeConfig.withoutDns, GoodbyeConfig.default]
  · intro same
    calc config.toCommandArgsFiltered false
        = config.withoutDns.toCommandArgsFiltered false := rfl
      _ = [] := by
        rw [same]
        rfl

theorem toCommandArgsFiltered_true_eq_nil :
    config.toCommandArgsFiltered true = [] ↔ config = .default := by
  constructor
  · intro empty
    cases ttl : config.setTtl <;>
      simp [GoodbyeConfig.toCommandArgsFiltered, ttl, numberArg, flagArg_eq_nil, textArg_eq_nil]
        at empty
    cases config
    simp_all [GoodbyeConfig.default]
  · rintro rfl
    rfl

/-! ### Suppression -/

theorem startSettings_congr {args args' : List String} (same : args = [] ↔ args' = []) :
    startSettings args = startSettings args' := by
  unfold startSettings
  simp only [same]

/-- What the settings of a written line come from. -/
theorem settings_toCommandArgs (plain : config.Plain) {includeDnsRedirect : Bool} :
    host.settings (config.toCommandArgsFiltered includeDnsRedirect) = .ok v' ↔
      ∃ custom v, goodbyeTable.parse GoodbyeOpt.look config.customArgs = some custom ∧
        (config.typedOptions ++ (if includeDnsRedirect then config.dnsOptions else []) ++
          custom).foldlM host.effect
            (startSettings (config.toCommandArgsFiltered includeDnsRedirect)) = .ok v ∧
        v' = v.finish := by
  rw [settings_eq_ok, parse_toCommandArgs plain]
  constructor
  · rintro ⟨opts, v, parsed, applied, ended⟩
    obtain ⟨custom, found, rfl⟩ := Option.map_eq_some_iff.mp parsed
    exact ⟨custom, v, found, applied, ended⟩
  · rintro ⟨custom, v, parsed, applied, ended⟩
    refine ⟨_, v, ?_, applied, ended⟩
    rw [parsed]
    rfl

theorem startSettings_dns (args : List String) : (startSettings args).dns = .initial := by
  unfold startSettings
  split <;> rfl

theorem startSettings_suppressed (notOnly : ¬ config.DnsOnly) :
    startSettings (config.toCommandArgsFiltered false) =
      startSettings (config.toCommandArgsFiltered true) := by
  apply startSettings_congr
  rw [toCommandArgsFiltered_false_eq_nil, toCommandArgsFiltered_true_eq_nil]
  constructor
  · intro without
    by_contra other
    exact notOnly ⟨without, other⟩
  · rintro rfl
    rfl

/-- A line with DNS options only: without them it is empty, which means modeset 9. -/
theorem GoodbyeConfig.DnsOnly.payload (only : config.DnsOnly) (plain : config.Plain)
    (runs : host.settings (config.toCommandArgsFiltered true) = .ok v)
    (runs' : host.settings (config.toCommandArgsFiltered false) = .ok v') :
    v.maxPayloadSize = 0 ∧ v'.maxPayloadSize = 1200 := by
  obtain ⟨without, other⟩ := only
  have typed : config.typedOptions = [] := by
    change config.withoutDns.typedOptions = []
    rw [without]
    rfl
  have customless : config.customArgs = [] := by
    change config.withoutDns.customArgs = []
    rw [without]
    rfl
  obtain ⟨custom, last, parsed, applied, rfl⟩ := (settings_toCommandArgs plain).mp runs
  obtain ⟨custom', last', parsed', applied', rfl⟩ := (settings_toCommandArgs plain).mp runs'
  rw [customless] at parsed parsed'
  cases parsed
  cases parsed'
  have present := mt toCommandArgsFiltered_true_eq_nil.mp other
  have dns : config.dnsOptions.foldlM host.effect .initial = .ok last := by
    simpa [typed, startSettings, present] using applied
  rw [typed, toCommandArgsFiltered_false_eq_nil.mpr without] at applied'
  cases applied'
  have kept := foldlM_dns (dnsOptions_dns config) dns
  exact ⟨congrArg GoodbyeSettings.maxPayloadSize kept, rfl⟩

/-- Without its DNS options the line leads to the same settings without a redirection,
unless there are DNS options among the arguments passed through or there are no other
options. -/
theorem suppression_iff (host : GoodbyeHost) (profile : ProfileDefinition)
    (config : GoodbyeConfig) (v : GoodbyeSettings)
    (accepted : GoodbyeConfig.fromProfile profile = .ok config)
    (runs : host.settings (config.toCommandArgsFiltered true) = .ok v) :
    (∃ v', host.settings (config.toCommandArgsFiltered false) = .ok v' ∧
      v'.dns.doDnsv4Redirect = false ∧ v'.dns.doDnsv6Redirect = false ∧
      { v' with dns := v.dns } = v) ↔
    (∀ opt ∈ goodbyeTable.vals config.customArgs, opt.isDns = false) ∧ ¬ config.DnsOnly := by
  have plain := GoodbyeConfig.fromProfile_plain accepted
  obtain ⟨custom, last, parsed, applied, ended⟩ := (settings_toCommandArgs plain).mp runs
  have vals := vals_of_parse Prod.fst (fun opt _ _ => by cases opt <;> rfl) parsed
  simp only [vals, List.forall_mem_map]
  constructor
  · rintro ⟨v', runs', off4, off6, same⟩
    constructor
    · obtain ⟨custom', last', parsed', applied', rfl⟩ := (settings_toCommandArgs plain).mp runs'
      obtain rfl := Option.some.inj (parsed'.symm.trans parsed)
      have off : last'.dns.redirects = false := Bool.or_eq_false_iff.mpr ⟨off4, off6⟩
      rw [foldlM_redirects applied', List.any_append, Bool.or_eq_false_iff,
        Bool.or_eq_false_iff] at off
      simpa using off.2.2
    · intro only
      obtain ⟨none, some⟩ := only.payload plain runs runs'
      have payload := congrArg GoodbyeSettings.maxPayloadSize same
      exact absurd (some.symm.trans (payload.trans none)) (by decide)
  · rintro ⟨others, notOnly⟩
    subst ended
    obtain ⟨next, applied, customs⟩ := Fold.append_eq_ok.mp applied
    obtain ⟨typed, first, dns⟩ := Fold.append_eq_ok.mp applied
    have kept := foldlM_dns (dnsOptions_dns config) dns
    obtain ⟨unredirected, -⟩ := foldlM_other (typedOptions_other config) first
    obtain ⟨-, moved⟩ := foldlM_other others customs
    have customs' := moved typed.dns
    rw [kept] at customs'
    rw [startSettings_dns] at unredirected
    refine ⟨({ last with dns := typed.dns } : GoodbyeSettings).finish, ?_, ?_, ?_, rfl⟩
    · refine (settings_toCommandArgs plain).mpr ⟨custom, _, parsed, ?_, rfl⟩
      rw [startSettings_suppressed notOnly]
      exact Fold.append_eq_ok.mpr ⟨typed, by simpa using first, customs'⟩
    · exact congrArg DnsSettings.doDnsv4Redirect unredirected
    · exact congrArg DnsSettings.doDnsv6Redirect unredirected

/-- A profile of the user's own. -/
def goodbyeProfile (arguments : List String) : ProfileDefinition where
  id := "custom"
  name := "Custom"
  description := ""
  targetEngine := "GoodbyeDPI"
  arguments := arguments

/-- A computer on which every text is an address and no file is there. -/
def bareHost : GoodbyeHost := ⟨fun _ => some 1, fun _ => some 1, fun _ => false⟩

/-- What becomes of the modeset 5 with redirected DNS. -/
def redirectedMode5 : GoodbyeConfig :=
  { GoodbyeConfig.default.fragmented with
    autoTtl := some "1-4-10"
    dnsAddr := some "1.1.1.1"
    dnsPort := some 53 }

theorem redirectedMode5_accepted :
    GoodbyeConfig.fromProfile (goodbyeProfile ["-5", "--dns-addr", "1.1.1.1", "--dns-port", "53"]) =
      .ok redirectedMode5 := rfl

theorem redirectedMode5_runs :
    ∃ v, bareHost.settings (redirectedMode5.toCommandArgsFiltered true) = .ok v :=
  ⟨_, rfl⟩

theorem suppression_iff_mode5 :
    ∃ v v', bareHost.settings (redirectedMode5.toCommandArgsFiltered true) = .ok v ∧
      bareHost.settings (redirectedMode5.toCommandArgsFiltered false) = .ok v' ∧
      v'.dns.doDnsv4Redirect = false ∧ v'.dns.doDnsv6Redirect = false ∧
      { v' with dns := v.dns } = v := by
  obtain ⟨v, runs⟩ := redirectedMode5_runs
  obtain ⟨v', suppressed⟩ :=
    (suppression_iff bareHost _ _ v redirectedMode5_accepted runs).mpr (by decide)
  exact ⟨v, v', runs, suppressed⟩

/-- A DNS option in the spelling with an equals sign is passed through and redirects in
spite of the suppression; a line of DNS options only becomes the modeset 9. -/
theorem suppression_incomplete :
    (∃ config v v', GoodbyeConfig.fromProfile (goodbyeProfile ["-5", "--dns-addr=1.1.1.1"]) =
        .ok config ∧
      bareHost.settings (config.toCommandArgsFiltered true) = .ok v ∧
      bareHost.settings (config.toCommandArgsFiltered false) = .ok v' ∧
      v'.dns.doDnsv4Redirect = true) ∧
    ∃ config v v', GoodbyeConfig.fromProfile (goodbyeProfile ["--dns-addr", "1.1.1.1"]) =
        .ok config ∧
      bareHost.settings (config.toCommandArgsFiltered true) = .ok v ∧
      bareHost.settings (config.toCommandArgsFiltered false) = .ok v' ∧
      { v' with dns := v.dns } ≠ v := by
  refine ⟨⟨_, _, _, rfl, rfl, rfl, rfl⟩, _, _, (startSettings []).finish, rfl, rfl, rfl, ?_⟩
  intro same
  exact absurd (congrArg GoodbyeSettings.maxPayloadSize same) (by decide)

end ZonDpi.Engine
