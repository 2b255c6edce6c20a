import ZonDpi.Engine.GoodbyeLine
import ZonDpi.Engine.GoodbyeOrder

/-!
The typed part of a GoodbyeDPI configuration and the settings it stands for.

`Written host config v` says that `v` are the settings GoodbyeDPI takes from the typed
options that the service writes for `config` (`Written.read`). A typed argument of a
profile changes the configuration in the service and the settings in GoodbyeDPI. The two
changes agree if the option `fits`: the settings written for the new configuration are
the changed ones (`Written.flag_step`, `Written.value_step`), up to TTL numbers that are
written out although GoodbyeDPI has them by default (`Alike`).
-/

namespace ZonDpi.Engine

open Getopt Fold ZonDpi.Std

variable {host : GoodbyeHost} {o : GoodbyeOpt × Option String}
  {opts : List (GoodbyeOpt × Option String)} {v v' w : GoodbyeSettings} {config : GoodbyeConfig}

/-! ### Settings that come to the same -/

/-- The settings differ at most in TTL numbers that are not set and those that are set to
what they are by default. -/
def GoodbyeSettings.Alike (v w : GoodbyeSettings) : Prop :=
  { v with ttl := v.ttl.finish } = { w with ttl := w.ttl.finish }

theorem TtlSettings.finish_raise {ttl ttl' : TtlSettings} (same : ttl.finish = ttl'.finish) :
    ({ ttl with doAutoTtl := true } : TtlSettings).finish =
      ({ ttl' with doAutoTtl := true } : TtlSettings).finish := by
  simp only [TtlSettings.finish, TtlSettings.mk.injEq] at same ⊢
  grind

theorem TtlSettings.finish_withAutoTtl {ttl ttl' : TtlSettings} (same : ttl.finish = ttl'.finish)
    (given : AutoTtl) : (ttl.withAutoTtl given).finish = (ttl'.withAutoTtl given).finish := by
  simp only [TtlSettings.finish, TtlSettings.withAutoTtl, TtlSettings.mk.injEq] at same ⊢
  cases given.max <;> grind

theorem stepTtl_respects :
    Respects (fun ttl ttl' : TtlSettings => ttl.finish = ttl'.finish) stepTtl := by
  intro o ttl ttl' next same applied
  cases mode : o.1.ttlMode with
  | false =>
      rw [stepTtl_idle mode] at applied ⊢
      cases applied
      exact ⟨ttl', rfl, same⟩
  | true =>
      rcases GoodbyeOpt.ttlMode_cases mode with mode5 | set | auto
      · rw [stepTtl_mode5 mode5] at applied ⊢
        cases applied
        exact ⟨_, rfl, TtlSettings.finish_raise same⟩
      · simp only [stepTtl, set] at applied ⊢
        exact ⟨next, applied, rfl⟩
      · simp only [stepTtl, auto] at applied ⊢
        cases given : o.2 with
        | none =>
            rw [given] at applied
            cases applied
            exact ⟨_, rfl, TtlSettings.finish_raise same⟩
        | some text =>
            simp only [given] at applied
            obtain ⟨ttl, read, ⟨⟩⟩ := bind_eq_ok.mp applied
            exact ⟨_, bind_eq_ok.mpr ⟨ttl, read, rfl⟩,
              TtlSettings.finish_withAutoTtl (TtlSettings.finish_raise same) ttl⟩

theorem alike_iff : v.Alike w ↔ v.ttl.finish = w.ttl.finish ∧ { v with ttl := w.ttl } = w := by
  cases v
  cases w
  simp only [GoodbyeSettings.Alike, GoodbyeSettings.mk.injEq]
  grind

theorem effect_respects : Respects GoodbyeSettings.Alike host.effect := by
  intro o v w v' alike applied
  obtain ⟨ttls, same⟩ := alike_iff.mp alike
  obtain ⟨flags, http, https, payload, hops, ttl, dns, lists⟩ := effect_eq_ok.mp applied
  obtain ⟨ttl', applied', ttls'⟩ := stepTtl_respects o _ _ _ ttls ttl
  refine ⟨{ v' with ttl := ttl' }, ?_, alike_iff.mpr ⟨ttls', rfl⟩⟩
  rw [← same]
  exact effect_eq_ok.mpr ⟨flags, http, https, payload, hops, applied', dns, lists⟩

theorem GoodbyeSettings.Alike.finish (alike : v.Alike w) : v.finish = w.finish := by
  obtain ⟨ttls, same⟩ := alike_iff.mp alike
  have auto : v.ttl.finish.doAutoTtl = w.ttl.finish.doAutoTtl := by rw [ttls]
  change v.ttl.doAutoTtl = w.ttl.doAutoTtl at auto
  rw [← same]
  simp only [GoodbyeSettings.finish, ttls, auto]

/-! ### Numbers -/

theorem atousi_toString (n : Nat) :
    atousi (toString n) = if n ≤ u16Max then .ok n else .error .atousi := by
  have bounds : u16Max < u32Max := by decide
  unfold atousi
  rw [strtoul_toString]
  by_cases small : n ≤ u16Max
  · rw [if_pos small, if_neg (by omega), Nat.min_eq_left (by omega)]
  · rw [if_neg small, if_pos (by omega)]

theorem atousi_of_parseUnsigned {maximum n : Nat} {text : String}
    (parsed : parseUnsigned maximum text = some n) : atousi text = atousi (toString n) := by
  unfold atousi
  rw [strtoul_of_parseUnsigned parsed, strtoul_toString]

theorem atoub_of_parseUnsigned {maximum n : Nat} {text : String}
    (parsed : parseUnsigned maximum text = some n) : atoub text = atoub (toString n) := by
  unfold atoub
  rw [strtoul_of_parseUnsigned parsed, strtoul_toString]

/-! ### What the written options come to -/

namespace GoodbyeConfig

/-- The variables that the typed options set to one. -/
def raised (config : GoodbyeConfig) : GoodbyeFlag → Bool
  | .doPassivedpi => config.blockPassiveDpi
  | .doBlockQuic => config.blockQuic
  | .doFragmentHttp => config.httpFragSize.isSome
  | .doFragmentHttpPersistent | .doFragmentHttpPersistentNowait | .doNativeFrag =>
      config.nativeFrag || config.reverseFrag
  | .doFragmentHttps => config.httpsFragSize.isSome
  | .doHost => config.replaceHost
  | .doHostRemovespace => config.removeSpace
  | .doHostMixedcase => config.mixHostCase
  | .doFakePacket =>
      config.wrongSeq || config.wrongChksum || config.setTtl.isSome || config.autoTtl.isSome ||
        config.minTtl.isSome
  | .doWrongChksum => config.wrongChksum
  | .doWrongSeq => config.wrongSeq
  | .doReverseFrag => config.reverseFrag
  | _ => false

end GoodbyeConfig

/-- The variables of one version of IP, from the address and the port. -/
def DnsPart (inetPton : String → Option Nat) (addr : Option String) (port : Option Nat)
    (part : Bool × Nat × Nat) : Prop :=
  match addr with
  | none => port = none ∧ part = (false, 0, 53)
  | some text => inetPton text = some part.2.1 ∧ part.1 = true ∧ part.2.2 = port.getD 53 ∧
      part.2.2 ≤ u16Max

def portsOf (part : Bool × Nat × Nat) : Finset Nat :=
  if part.1 then {53} ∪ GoodbyeHost.portFilter part.2.2 else ∅

def DnsWritten (host : GoodbyeHost) (config : GoodbyeConfig) (dns : DnsSettings) : Prop :=
  DnsPart host.inetPton4 config.dnsAddr config.dnsPort dns.part4 ∧
    DnsPart host.inetPton6 config.dnsv6Addr config.dnsv6Port dns.part6 ∧
    dns.udpPorts = portsOf dns.part4 ∪ portsOf dns.part6

/-- The settings are what the typed options alone make of the initial ones. -/
structure Written (host : GoodbyeHost) (config : GoodbyeConfig) (v : GoodbyeSettings) : Prop where
  flags : ∀ flag, decide (flag ∈ v.flags) = config.raised flag
  http : (valueOptions .f (config.httpFragSize.map toString)).foldlM stepHttpSize 0 =
    .ok v.httpFragmentSize
  https : (valueOptions .e (config.httpsFragSize.map toString)).foldlM stepHttpsSize 0 =
    .ok v.httpsFragmentSize
  payload : (valueOptions .maxPayload (config.maxPayload.map toString)).foldlM stepMaxPayload 0 =
    .ok v.maxPayloadSize
  hops : (valueOptions .minTtl (config.minTtl.map toString)).foldlM stepMinNhops 0 =
    .ok v.ttlMinNhops
  ttl : config.ttlOptions.foldlM stepTtl .initial = .ok v.ttl
  dns : DnsWritten host config v.dns
  lists : v.lists = .initial

/-! ### Reading what is written -/

theorem foldlM_effect {v v' : GoodbyeSettings}
    (flags : ∀ flag, decide (flag ∈ v'.flags) =
      (decide (flag ∈ v.flags) || opts.any fun o => decide (flag ∈ o.1.raises)))
    (http : opts.foldlM stepHttpSize v.httpFragmentSize = .ok v'.httpFragmentSize)
    (https : opts.foldlM stepHttpsSize v.httpsFragmentSize = .ok v'.httpsFragmentSize)
    (payload : opts.foldlM stepMaxPayload v.maxPayloadSize = .ok v'.maxPayloadSize)
    (hops : opts.foldlM stepMinNhops v.ttlMinNhops = .ok v'.ttlMinNhops)
    (ttl : opts.foldlM stepTtl v.ttl = .ok v'.ttl)
    (dns : opts.foldlM host.stepDns v.dns = .ok v'.dns)
    (lists : opts.foldlM host.stepLists v.lists = .ok v'.lists) :
    opts.foldlM host.effect v = .ok v' := by
  induction opts generalizing v with
  | nil =>
      have same : v.flags = v'.flags := by
        ext flag
        simpa using (flags flag).symm
      cases v
      cases v'
      cases same
      cases http
      cases https
      cases payload
      cases hops
      cases ttl
      cases dns
      cases lists
      rfl
  | cons o opts ih =>
      obtain ⟨http₁, http, httpRest⟩ := cons_eq_ok.mp http
      obtain ⟨https₁, https, httpsRest⟩ := cons_eq_ok.mp https
      obtain ⟨payload₁, payload, payloadRest⟩ := cons_eq_ok.mp payload
      obtain ⟨hops₁, hops, hopsRest⟩ := cons_eq_ok.mp hops
      obtain ⟨ttl₁, ttl, ttlRest⟩ := cons_eq_ok.mp ttl
      obtain ⟨dns₁, dns, dnsRest⟩ := cons_eq_ok.mp dns
      obtain ⟨lists₁, lists, listsRest⟩ := cons_eq_ok.mp lists
      refine cons_eq_ok.mpr ⟨⟨v.flags ∪ o.1.raises, _, _, _, _, _, _, _⟩,
        effect_eq_ok.mpr ⟨rfl, http, https, payload, hops, ttl, dns, lists⟩,
        ih ?_ httpRest httpsRest payloadRest hopsRest ttlRest dnsRest listsRest⟩
      intro flag
      simpa [Bool.or_assoc] using flags flag

theorem any_flagOptions (p : GoodbyeOpt → Bool) (opt : GoodbyeOpt) (present : Bool) :
    ((flagOptions opt present).any fun o => p o.1) = (present && p opt) := by
  cases present <;> simp [flagOptions]

theorem any_valueOptions (p : GoodbyeOpt → Bool) (opt : GoodbyeOpt) (value : Option String) :
    ((valueOptions opt value).any fun o => p o.1) = (value.isSome && p opt) := by
  cases value <;> simp [valueOptions]

theorem any_ttlOptions (p : GoodbyeOpt → Bool) (same : p .setTtl = p .autoTtl) :
    (config.ttlOptions.any fun o => p o.1) =
      ((config.setTtl.isSome || config.autoTtl.isSome) && p .autoTtl) := by
  unfold GoodbyeConfig.ttlOptions
  cases config.setTtl with
  | some ttl => simp [same]
  | none => simp [any_valueOptions]

theorem any_raises_written (config : GoodbyeConfig) (flag : GoodbyeFlag) :
    ((config.typedOptions ++ config.dnsOptions).any fun o => decide (flag ∈ o.1.raises)) =
      config.raised flag := by
  unfold GoodbyeConfig.typedOptions GoodbyeConfig.dnsOptions
  simp only [List.any_append, any_flagOptions fun opt => decide (flag ∈ opt.raises),
    any_valueOptions fun opt => decide (flag ∈ opt.raises),
    any_ttlOptions (fun opt => decide (flag ∈ opt.raises)) rfl]
  cases flag <;> simp [GoodbyeOpt.raises, GoodbyeConfig.raised, Bool.or_assoc]

theorem filter_flagOptions (active : GoodbyeOpt → Bool) (opt : GoodbyeOpt) (present : Bool) :
    ((flagOptions opt present).filter fun o => active o.1) =
      if active opt then flagOptions opt present else [] := by
  cases present <;> cases here : active opt <;> simp [flagOptions, here]

theorem filter_valueOptions (active : GoodbyeOpt → Bool) (opt : GoodbyeOpt)
    (value : Option String) :
    ((valueOptions opt value).filter fun o => active o.1) =
      if active opt then valueOptions opt value else [] := by
  cases value <;> cases here : active opt <;> simp [valueOptions, here]

theorem filter_ttlOptions (active : GoodbyeOpt → Bool) (same : active .setTtl = active .autoTtl) :
    (config.ttlOptions.filter fun o => active o.1) =
      if active .autoTtl then config.ttlOptions else [] := by
  unfold GoodbyeConfig.ttlOptions
  cases config.setTtl with
  | some ttl => cases here : active .autoTtl <;> simp [same, here]
  | none => simp [filter_valueOptions]

/-- Of the written options those that are of interest. -/
theorem filter_written (active : GoodbyeOpt → Bool) (same : active .setTtl = active .autoTtl) :
    ((config.typedOptions ++ config.dnsOptions).filter fun o => active o.1) =
      (if active .p then flagOptions .p config.blockPassiveDpi else []) ++
      (if active .q then flagOptions .q config.blockQuic else []) ++
      (if active .r then flagOptions .r config.replaceHost else []) ++
      (if active .s then flagOptions .s config.removeSpace else []) ++
      (if active .m then flagOptions .m config.mixHostCase else []) ++
      (if active .f then valueOptions .f (config.httpFragSize.map toString) else []) ++
      (if active .e then valueOptions .e (config.httpsFragSize.map toString) else []) ++
      (if active .nativeFrag then flagOptions .nativeFrag config.nativeFrag else []) ++
      (if active .reverseFrag then flagOptions .reverseFrag config.reverseFrag else []) ++
      (if active .wrongSeq then flagOptions .wrongSeq config.wrongSeq else []) ++
      (if active .wrongChksum then flagOptions .wrongChksum config.wrongChksum else []) ++
      (if active .autoTtl then config.ttlOptions else []) ++
      (if active .minTtl then valueOptions .minTtl (config.minTtl.map toString) else []) ++
      (if active .maxPayload then valueOptions .maxPayload (config.maxPayload.map toString)
        else []) ++
      ((if active .dnsAddr then valueOptions .dnsAddr config.dnsAddr else []) ++
      (if active .dnsPort then valueOptions .dnsPort (config.dnsPort.map toString) else []) ++
      (if active .dnsv6Addr then valueOptions .dnsv6Addr config.dnsv6Addr else []) ++
      (if active .dnsv6Port then valueOptions .dnsv6Port (config.dnsv6Port.map toString)
        else [])) := by
  unfold GoodbyeConfig.typedOptions GoodbyeConfig.dnsOptions
  simp only [List.filter_append, filter_flagOptions active, filter_valueOptions active,
    filter_ttlOptions active same]

/-! ### DNS variables -/

section Dns

variable {addr : Option String} {port : Option Nat} {part : Bool × Nat × Nat} {dns : DnsSettings}
  {last : DnsSettings} {text : String}

theorem DnsFamily.addr_eq_ok (family : DnsFamily host) :
    host.stepDns dns (family.addrOpt, some text) = .ok last ↔
      (family.part dns).1 = false ∧ ∃ number, family.inetPton text = some number ∧
        last = family.set dns ⟨true, number, (family.part dns).2.2, {53}⟩ := by
  rw [family.step_addr, Option.getD_some, bind_eq_ok]
  unfold DnsStep.ofAddr
  cases family.inetPton text <;> cases (family.part dns).1 <;> simp [eq_comm]

theorem DnsFamily.port_eq_ok (family : DnsFamily host) :
    host.stepDns dns (family.portOpt, some text) = .ok last ↔
      (family.part dns).1 = true ∧ ∃ number, atousi text = .ok number ∧
        last = family.set dns
          ⟨true, (family.part dns).2.1, number, GoodbyeHost.portFilter number⟩ := by
  rw [family.step_port, Option.getD_some, bind_eq_ok]
  unfold DnsStep.ofPort
  cases (family.part dns).1 with
  | false => simp
  | true =>
      simp only [Bool.not_true, Bool.false_eq_true, if_false, bind_eq_ok, Except.ok.injEq, true_and]
      constructor
      · rintro ⟨_, ⟨number, read, rfl⟩, rfl⟩
        exact ⟨number, read, rfl⟩
      · rintro ⟨number, read, rfl⟩
        exact ⟨_, ⟨number, read, rfl⟩, rfl⟩

/-- The options of one version of IP, read from the start. -/
theorem DnsFamily.foldlM_written (family : DnsFamily host)
    (written : DnsPart family.inetPton addr port part) (fresh : family.part dns = (false, 0, 53)) :
    (valueOptions family.addrOpt addr ++ valueOptions family.portOpt (port.map toString)).foldlM
      host.stepDns dns = .ok (family.set dns ⟨part.1, part.2.1, part.2.2, portsOf part⟩) := by
  obtain ⟨redirect, number, last⟩ := part
  cases addr with
  | none =>
      obtain ⟨rfl, same⟩ := written
      cases same
      have idle := family.set_part dns
      rw [fresh] at idle
      exact (congrArg Except.ok idle).symm
  | some text =>
      obtain ⟨found, on, same, small⟩ := written
      dsimp only at found on same small
      subst on same
      have first : host.stepDns dns (family.addrOpt, some text) =
          .ok (family.set dns ⟨true, number, 53, {53}⟩) :=
        family.addr_eq_ok.mpr ⟨by rw [fresh], number, found, by rw [fresh]⟩
      cases port with
      | none => exact cons_eq_ok.mpr ⟨_, first, rfl⟩
      | some n =>
          have read : atousi (toString n) = .ok n := (atousi_toString n).trans (if_pos small)
          have opened := family.part_set dns ⟨true, number, 53, {53}⟩
          have second := family.port_eq_ok.mpr ⟨congrArg (·.1) opened, n, read, rfl⟩
          refine cons_eq_ok.mpr ⟨_, first, cons_eq_ok.mpr ⟨_, second, ?_⟩⟩
          rw [family.set_set, opened]
          rfl

end Dns

theorem Written.read (written : Written host config v) :
    (config.typedOptions ++ config.dnsOptions).foldlM host.effect .initial = .ok v := by
  refine foldlM_effect ?_ ?_ ?_ ?_ ?_ ?_ ?_ ?_
  · intro flag
    rw [written.flags, any_raises_written]
    simp [GoodbyeSettings.initial]
  · have idle : ∀ o : GoodbyeOpt × Option String, (o.1.modern || o.1.sizesHttp) = false →
        ∀ size, stepHttpSize size o = .ok size := by
      intro o idle size
      obtain ⟨modern, sizes⟩ := Bool.or_eq_false_iff.mp idle
      exact stepHttpSize_idle modern sizes size
    rw [← filter_idle idle, filter_written (fun opt => opt.modern || opt.sizesHttp) rfl]
    simpa [GoodbyeSettings.initial, GoodbyeOpt.modern, GoodbyeOpt.sizesHttp] using written.http
  · rw [← filter_idle fun o => stepHttpsSize_idle,
      filter_written (fun opt => opt.modern || opt.sizesHttps) rfl]
    simpa [GoodbyeSettings.initial, GoodbyeOpt.modern, GoodbyeOpt.sizesHttps] using written.https
  · rw [← filter_idle fun o => stepMaxPayload_idle,
      filter_written (fun opt => opt.modern || opt = .maxPayload) rfl]
    simpa [GoodbyeSettings.initial, GoodbyeOpt.modern] using written.payload
  · have idle : ∀ o : GoodbyeOpt × Option String, decide (o.1 = .minTtl) = false →
        ∀ hops, stepMinNhops hops o = .ok hops := by
      intro o idle hops
      exact stepMinNhops_idle (of_decide_eq_false idle) hops
    rw [← filter_idle idle, filter_written (fun opt => decide (opt = .minTtl)) rfl]
    simpa [GoodbyeSettings.initial] using written.hops
  · rw [← filter_idle fun o => stepTtl_idle, filter_written GoodbyeOpt.ttlMode rfl]
    simpa [GoodbyeSettings.initial, GoodbyeOpt.ttlMode] using written.ttl
  · rw [← filter_idle fun o => stepDns_idle, filter_written GoodbyeOpt.isDns rfl]
    simp only [GoodbyeOpt.isDns, Bool.false_eq_true, if_false, if_true, List.nil_append,
      List.append_assoc]
    rw [← List.append_assoc]
    obtain ⟨dnsv4, dnsv6, ports⟩ := written.dns
    refine append_eq_ok.mpr ⟨_, (DnsFamily.ipv4 host).foldlM_written dnsv4 rfl, ?_⟩
    refine ((DnsFamily.ipv6 host).foldlM_written dnsv6 rfl).trans (congrArg Except.ok ?_)
    generalize v.dns = dns at ports ⊢
    cases dns
    simpa [DnsFamily.ipv4, DnsFamily.ipv6, DnsSettings.set4, DnsSettings.set6,
      GoodbyeSettings.initial, DnsSettings.initial, DnsSettings.part4,
      DnsSettings.part6] using ports.symm
  · rw [← filter_idle fun o => stepLists_idle, filter_written GoodbyeOpt.fillsList rfl]
    simp [GoodbyeOpt.fillsList, written.lists]
    rfl

/-! ### One typed option -/

section Step

variable {next : GoodbyeSettings} {config' : GoodbyeConfig}

theorem Written.step (written : Written host config v) (applied : host.effect v o = .ok next)
    (flags : ∀ flag, config'.raised flag = (decide (flag ∈ o.1.raises) || config.raised flag))
    (http : (valueOptions .f (config'.httpFragSize.map toString)).foldlM stepHttpSize 0 =
      stepHttpSize v.httpFragmentSize o)
    (https : (valueOptions .e (config'.httpsFragSize.map toString)).foldlM stepHttpsSize 0 =
      stepHttpsSize v.httpsFragmentSize o)
    (payload : (valueOptions .maxPayload (config'.maxPayload.map toString)).foldlM
      stepMaxPayload 0 = stepMaxPayload v.maxPayloadSize o)
    (hops : (valueOptions .minTtl (config'.minTtl.map toString)).foldlM stepMinNhops 0 =
      stepMinNhops v.ttlMinNhops o)
    (ttl : ∀ last, stepTtl v.ttl o = .ok last →
      ∃ ttl, config'.ttlOptions.foldlM stepTtl .initial = .ok ttl ∧ ttl.finish = last.finish)
    (dns : ∀ last, host.stepDns v.dns o = .ok last → DnsWritten host config' last)
    (lists : o.1.fillsList = false) :
    ∃ v', Written host config' v' ∧ v'.Alike next := by
  obtain ⟨flags', http', https', payload', hops', ttl', dns', lists'⟩ := effect_eq_ok.mp applied
  obtain ⟨ttl, read, alike⟩ := ttl _ ttl'
  rw [stepLists_idle lists] at lists'
  refine ⟨{ next with ttl := ttl }, ?_, alike_iff.mpr ⟨alike, rfl⟩⟩
  exact {
    flags := by
      intro flag
      rw [flags, ← written.flags]
      simp [flags', Bool.or_comm]
    http := http.trans http'
    https := https.trans https'
    payload := payload.trans payload'
    hops := hops.trans hops'
    ttl := read
    dns := dns _ dns'
    lists := (Except.ok.inj lists').symm.trans written.lists }

theorem Written.idleTtl (written : Written host config v) :
    ∀ last, (.ok v.ttl : Except GoodbyeExit _) = .ok last →
      ∃ ttl, config.ttlOptions.foldlM stepTtl .initial = .ok ttl ∧ ttl.finish = last.finish := by
  rintro _ ⟨⟩
  exact ⟨v.ttl, written.ttl, rfl⟩

theorem Written.idleDns (written : Written host config v) :
    ∀ last, (.ok v.dns : Except GoodbyeExit _) = .ok last → DnsWritten host config last := by
  rintro _ ⟨⟩
  exact written.dns

/-! ### What one typed option must find -/

/-- No TTL is set other than the default ones. -/
def TtlSettings.defaults (ttl : TtlSettings) : Bool :=
  ttl.ttlOfFakePacket = 0 && (ttl.autoTtl1 = 0 || ttl.autoTtl1 = 1) &&
    (ttl.autoTtl2 = 0 || ttl.autoTtl2 = 4) && (ttl.autoTtlMax = 0 || ttl.autoTtlMax = 10)

/-- A port that is replaced stays in the filter, so it must be there anyway. -/
def portStays (old other : Option Nat) (new : Nat) : Bool :=
  old.getD 53 = 53 || old = some new || old = other

namespace GoodbyeConfig

/-- The TTL variables according to the options so far. -/
def ttlSoFar (config : GoodbyeConfig) : TtlSettings :=
  match config.ttlOptions.foldlM stepTtl .initial with
  | .ok ttl => ttl
  | .error _ => .initial

/-- After the options that make up the configuration, this one does in the configuration
what it does in GoodbyeDPI. -/
def fits (config : GoodbyeConfig) (o : GoodbyeOpt × Option String) : Bool :=
  match o.1 with
  | .mode1 =>
      (config.nativeFrag || config.reverseFrag) && config.httpFragSize = some 2 &&
        config.httpsFragSize = some 2
  | .mode5 =>
      !config.blockQuic && !config.wrongSeq && !config.wrongChksum && config.ttlSoFar.defaults
  | .autoTtl =>
      match o.2 with
      | none => config.ttlSoFar.defaults
      | some text =>
          config.ttlSoFar.ttlOfFakePacket = 0 && ('-' ∈ text.toList ||
            config.ttlSoFar.autoTtlMax = 0 || config.ttlSoFar.autoTtlMax = 10)
  | .f =>
      config.httpFragSize.getD 0 = 0 ||
        config.httpFragSize = some (strtoul (o.2.getD "").toList)
  | .dnsPort =>
      portStays config.dnsPort config.dnsv6Port (strtoul (o.2.getD "").toList)
  | .dnsv6Port =>
      portStays config.dnsv6Port config.dnsPort (strtoul (o.2.getD "").toList)
  | _ => true

end GoodbyeConfig

theorem Written.ttlSoFar (written : Written host config v) : config.ttlSoFar = v.ttl := by
  unfold GoodbyeConfig.ttlSoFar
  rw [written.ttl]

theorem TtlSettings.finish_of_defaults {ttl : TtlSettings} (defaults : ttl.defaults = true) :
    (⟨true, 0, 1, 4, 10⟩ : TtlSettings).finish =
      ({ ttl with doAutoTtl := true } : TtlSettings).finish := by
  simp only [TtlSettings.defaults, Bool.and_eq_true, Bool.or_eq_true, decide_eq_true_eq] at defaults
  simp only [TtlSettings.finish, orElse, TtlSettings.mk.injEq]
  grind

/-- The modeset 5 and `--auto-ttl` without a value. -/
theorem Written.filledTtl (written : Written host config v)
    (defaults : config.ttlSoFar.defaults = true) :
    ∀ last, (.ok { v.ttl with doAutoTtl := true } : Except GoodbyeExit _) = .ok last →
      ∃ ttl, (valueOptions .autoTtl (some "1-4-10")).foldlM stepTtl .initial = .ok ttl ∧
        ttl.finish = last.finish := by
  rintro _ ⟨⟩
  rw [written.ttlSoFar] at defaults
  exact ⟨⟨true, 0, 1, 4, 10⟩, rfl, TtlSettings.finish_of_defaults defaults⟩

/-- An option that only sets variables to one. -/
def GoodbyeOpt.raisesOnly (opt : GoodbyeOpt) : Bool :=
  !(opt.modern || opt.sizesHttp || opt.sizesHttps || opt = .maxPayload || opt = .minTtl ||
    opt.ttlMode || opt.isDns || opt.fillsList)

/-- The configuration without its flags. -/
def GoodbyeConfig.unflagged (config : GoodbyeConfig) : GoodbyeConfig :=
  { config with blockPassiveDpi := false, blockQuic := false, replaceHost := false,
                removeSpace := false, mixHostCase := false, wrongSeq := false,
                wrongChksum := false, nativeFrag := false, reverseFrag := false }

theorem Written.raise (written : Written host config v) (applied : host.effect v o = .ok next)
    (only : o.1.raisesOnly = true) (same : config'.unflagged = config.unflagged)
    (flags : ∀ flag, config'.raised flag = (decide (flag ∈ o.1.raises) || config.raised flag)) :
    ∃ v', Written host config' v' ∧ v'.Alike next := by
  simp only [GoodbyeOpt.raisesOnly, Bool.not_eq_true', Bool.or_eq_false_iff,
    decide_eq_false_iff_not] at only
  obtain ⟨⟨⟨⟨⟨⟨⟨modern, http⟩, https⟩, payload⟩, hops⟩, ttl⟩, dns⟩, lists⟩ := only
  have fields : ∀ {β : Type} (field : GoodbyeConfig → β),
      (∀ config : GoodbyeConfig, field config = field config.unflagged) →
        field config' = field config := by
    intro β field kept
    rw [kept config', kept config, same]
  refine written.step applied flags ?_ ?_ ?_ ?_ ?_ ?_ lists
  · rw [stepHttpSize_idle modern http, ← written.http, fields (·.httpFragSize) fun _ => rfl]
  · rw [stepHttpsSize_idle (by simp [modern, https]), ← written.https,
      fields (·.httpsFragSize) fun _ => rfl]
  · rw [stepMaxPayload_idle (by simp [modern, payload]), ← written.payload,
      fields (·.maxPayload) fun _ => rfl]
  · rw [stepMinNhops_idle hops, ← written.hops, fields (·.minTtl) fun _ => rfl]
  · rw [stepTtl_idle ttl, fields (·.ttlOptions) fun _ => rfl]
    exact written.idleTtl
  · rw [stepDns_idle dns, fields (DnsWritten host) fun _ => rfl]
    exact written.idleDns

/-- The configuration without its flags and its TTL. -/
def GoodbyeConfig.ttlless (config : GoodbyeConfig) : GoodbyeConfig :=
  { config.unflagged with setTtl := none, autoTtl := none }

theorem Written.modern (written : Written host config v) (applied : host.effect v o = .ok next)
    (modern : o.1.modern = true) (same : config'.ttlless = config.fragmented.ttlless)
    (flags : ∀ flag, config'.raised flag = (decide (flag ∈ o.1.raises) || config.raised flag))
    (ttl : ∀ last, stepTtl v.ttl o = .ok last →
      ∃ ttl, config'.ttlOptions.foldlM stepTtl .initial = .ok ttl ∧ ttl.finish = last.finish) :
    ∃ v', Written host config' v' ∧ v'.Alike next := by
  have fields : ∀ {β : Type} (field : GoodbyeConfig → β),
      (∀ config : GoodbyeConfig, field config = field config.ttlless) →
        field config' = field config.fragmented := by
    intro β field kept
    rw [kept config', kept config.fragmented, same]
  have others : o.1 ≠ .minTtl ∧ o.1.isDns = false ∧ o.1.fillsList = false := by
    generalize o.1 = opt at modern
    cases opt <;> first | exact absurd modern (by decide) | decide
  obtain ⟨hops, dns, lists⟩ := others
  refine written.step applied flags ?_ ?_ ?_ ?_ ttl ?_ lists
  · rw [stepHttpSize_modern modern, fields (·.httpFragSize) fun _ => rfl]
    rfl
  · rw [stepHttpsSize_modern modern, fields (·.httpsFragSize) fun _ => rfl]
    rfl
  · rw [stepMaxPayload_modern modern, fields (·.maxPayload) fun _ => rfl]
    rfl
  · rw [stepMinNhops_idle hops, fields (·.minTtl) fun _ => rfl]
    exact written.hops
  · rw [stepDns_idle dns, fields (DnsWritten host) fun _ => rfl]
    exact written.idleDns

/-- The option that a typed argument is. -/
def typedOpt (arg : String) : Option GoodbyeOpt :=
  match goodbyeTable.classify arg with
  | .options [(opt, none)] .done => some opt
  | .options [] (.needs opt) => some opt
  | _ => none

variable (host config) in
/-- An argument that stands alone is one option, and it does in the configuration what it
does in GoodbyeDPI if it fits. -/
theorem Written.flag_step {arg : String} {set : GoodbyeConfig → GoodbyeConfig}
    (flag : GoodbyeConfig.flagOption arg = some set) :
    ∃ opt, typedOpt arg = some opt ∧ Parses goodbyeTable GoodbyeOpt.look [arg] [(opt, none)] ∧
      (∀ v next, Written host config v → config.fits (opt, none) = true →
        host.effect v (opt, none) = .ok next →
        ∃ v', Written host (set config) v' ∧ v'.Alike next) := by
  unfold GoodbyeConfig.flagOption at flag
  split at flag <;> cases flag
  · refine ⟨.p, rfl, parses_flag rfl fun _ => rfl, fun _ _ written _ applied => ?_⟩
    refine written.raise applied rfl rfl fun flag => ?_
    cases flag <;> rfl
  · refine ⟨.q, rfl, parses_flag rfl fun _ => rfl, fun _ _ written _ applied => ?_⟩
    refine written.raise applied rfl rfl fun flag => ?_
    cases flag <;> rfl
  · refine ⟨.r, rfl, parses_flag rfl fun _ => rfl, fun _ _ written _ applied => ?_⟩
    refine written.raise applied rfl rfl fun flag => ?_
    cases flag <;> rfl
  · refine ⟨.s, rfl, parses_flag rfl fun _ => rfl, fun _ _ written _ applied => ?_⟩
    refine written.raise applied rfl rfl fun flag => ?_
    cases flag <;> rfl
  · refine ⟨.m, rfl, parses_flag rfl fun _ => rfl, fun _ _ written _ applied => ?_⟩
    refine written.raise applied rfl rfl fun flag => ?_
    cases flag <;> rfl
  · refine ⟨.wrongSeq, rfl, parses_flag rfl fun _ => rfl, fun _ _ written _ applied => ?_⟩
    refine written.raise applied rfl rfl fun flag => ?_
    cases flag <;> rfl
  · refine ⟨.wrongChksum, rfl, parses_flag rfl fun _ => rfl, fun _ _ written _ applied => ?_⟩
    refine written.raise applied rfl rfl fun flag => ?_
    cases flag <;> first | rfl | simp [GoodbyeConfig.raised, GoodbyeOpt.raises]
  · refine ⟨.nativeFrag, rfl, parses_flag rfl fun _ => rfl, fun _ _ written _ applied => ?_⟩
    refine written.raise applied rfl rfl fun flag => ?_
    cases flag <;> rfl
  · refine ⟨.reverseFrag, rfl, parses_flag rfl fun _ => rfl, fun _ _ written _ applied => ?_⟩
    refine written.raise applied rfl rfl fun flag => ?_
    cases flag <;> first | rfl | simp [GoodbyeConfig.raised, GoodbyeOpt.raises]
  · refine ⟨.mode1, rfl, parses_flag rfl fun _ => rfl, fun _ _ written fits applied => ?_⟩
    simp only [GoodbyeConfig.fits, Bool.and_eq_true, decide_eq_true_eq] at fits
    obtain ⟨⟨native, http⟩, https⟩ := fits
    refine written.raise applied rfl ?_ fun flag => ?_
    · simp only [GoodbyeConfig.unflagged, http, https]
    · cases flag <;> first | rfl | simp [GoodbyeConfig.raised, native]
  · refine ⟨.mode5, rfl, parses_flag rfl fun _ => rfl, fun _ _ written fits applied => ?_⟩
    simp only [GoodbyeConfig.fits, Bool.and_eq_true, Bool.not_eq_true'] at fits
    obtain ⟨⟨⟨quic, seq⟩, chksum⟩, defaults⟩ := fits
    refine written.modern applied rfl rfl (fun flag => ?_) (written.filledTtl defaults)
    cases flag <;> first
      | rfl
      | simp [GoodbyeConfig.raised, GoodbyeOpt.raises, modernFlags, quic, seq, chksum]
  · refine ⟨.mode6, rfl, parses_flag rfl fun _ => rfl, fun _ _ written _ applied => ?_⟩
    refine written.modern applied rfl rfl (fun flag => ?_) written.idleTtl
    cases flag <;> rfl
  · refine ⟨.mode7, rfl, parses_flag rfl fun _ => rfl, fun _ _ written _ applied => ?_⟩
    refine written.modern applied rfl rfl (fun flag => ?_) written.idleTtl
    cases flag <;> first | rfl | simp [GoodbyeConfig.raised, GoodbyeOpt.raises, modernFlags]
  · refine ⟨.mode8, rfl, parses_flag rfl fun _ => rfl, fun _ _ written _ applied => ?_⟩
    refine written.modern applied rfl rfl (fun flag => ?_) written.idleTtl
    cases flag <;> rfl
  · refine ⟨.mode9, rfl, parses_flag rfl fun _ => rfl, fun _ _ written _ applied => ?_⟩
    refine written.modern applied rfl rfl (fun flag => ?_) written.idleTtl
    cases flag <;> rfl

/-! ### Options with a value -/

theorem foldlM_valueOptions {σ : Type} (f : σ → GoodbyeOpt × Option String → Except GoodbyeExit σ)
    (x : σ) (opt : GoodbyeOpt) (n : Nat) :
    (valueOptions opt ((some n).map toString)).foldlM f x = f x (opt, some (toString n)) :=
  bind_pure _

theorem Written.httpSize (written : Written host config v) :
    v.httpFragmentSize = config.httpFragSize.getD 0 := by
  have http := written.http
  cases size : config.httpFragSize with
  | none =>
      rw [size] at http
      exact (Except.ok.inj http).symm
  | some n =>
      rw [size, foldlM_valueOptions, stepHttpSize_sized rfl] at http
      obtain ⟨given, read, ended⟩ := bind_eq_ok.mp http
      change atousi (toString n) = .ok given at read
      rw [atousi_toString] at read
      split at read <;> cases read
      exact (Except.ok.inj ended).symm

theorem atousi_eq_ok {text : String} {n : Nat} (read : atousi text = .ok n) :
    n = strtoul text.toList := by
  unfold atousi at read
  split at read <;> cases read
  rfl

variable {value : String} {n : Nat}

theorem Written.f_step (written : Written host config v)
    (applied : host.effect v (.f, some value) = .ok next)
    (fits : config.fits (.f, some value) = true)
    (parsed : parseUnsigned u16Max value = some n) :
    ∃ v', Written host { config with httpFragSize := some n } v' ∧ v'.Alike next := by
  refine written.step applied (fun flag => by cases flag <;> rfl) ?_ written.https written.payload
    written.hops written.idleTtl written.idleDns rfl
  obtain ⟨-, http, -⟩ := effect_eq_ok.mp applied
  rw [stepHttpSize_sized rfl] at http
  obtain ⟨given, read, -⟩ := bind_eq_ok.mp http
  change atousi value = .ok given at read
  simp only [GoodbyeConfig.fits, Bool.or_eq_true, decide_eq_true_eq] at fits
  have kept : (if v.httpFragmentSize = 0 then given else v.httpFragmentSize) = given := by
    split
    · rfl
    · rename_i set
      rw [written.httpSize] at set ⊢
      rw [fits.resolve_left set, atousi_eq_ok read]
      rfl
  have read' := read
  rw [atousi_of_parseUnsigned parsed] at read'
  rw [foldlM_valueOptions, stepHttpSize_sized rfl, stepHttpSize_sized rfl]
  change atousi (toString n) >>= _ = atousi value >>= _
  rw [read, read']
  exact congrArg Except.ok kept.symm

theorem Written.e_step (written : Written host config v)
    (applied : host.effect v (.e, some value) = .ok next)
    (parsed : parseUnsigned u16Max value = some n) :
    ∃ v', Written host { config with httpsFragSize := some n } v' ∧ v'.Alike next := by
  refine written.step applied (fun flag => by cases flag <;> rfl) written.http ?_ written.payload
    written.hops written.idleTtl written.idleDns rfl
  exact (foldlM_valueOptions ..).trans (atousi_of_parseUnsigned parsed).symm

theorem Written.setTtl_step (written : Written host config v)
    (applied : host.effect v (.setTtl, some value) = .ok next)
    (parsed : parseUnsigned u8Max value = some n) :
    ∃ v', Written host { config with setTtl := some n, autoTtl := none } v' ∧ v'.Alike next := by
  refine written.step applied (fun flag => ?_) written.http written.https written.payload
    written.hops (fun last ttl => ⟨last, ?_, rfl⟩) written.idleDns rfl
  · cases flag <;> first | rfl | simp [GoodbyeConfig.raised, GoodbyeOpt.raises]
  · refine (foldlM_valueOptions stepTtl .initial .setTtl n).trans ?_
    obtain ⟨given, read, ended⟩ := bind_eq_ok.mp ttl
    exact bind_eq_ok.mpr ⟨given, (atoub_of_parseUnsigned parsed).symm.trans read, ended⟩

theorem Written.minTtl_step (written : Written host config v)
    (applied : host.effect v (.minTtl, some value) = .ok next)
    (parsed : parseUnsigned u8Max value = some n) :
    ∃ v', Written host { config with minTtl := some n } v' ∧ v'.Alike next := by
  refine written.step applied (fun flag => ?_) written.http written.https written.payload ?_
    written.idleTtl written.idleDns rfl
  · cases flag <;> first | rfl | simp [GoodbyeConfig.raised, GoodbyeOpt.raises]
  · exact (foldlM_valueOptions ..).trans (atoub_of_parseUnsigned parsed).symm

theorem Written.maxPayload_step (written : Written host config v)
    (applied : host.effect v (.maxPayload, some value) = .ok next)
    (parsed : parseUnsigned u32Max value = some n) :
    ∃ v', Written host { config with maxPayload := some n } v' ∧ v'.Alike next := by
  refine written.step applied (fun flag => rfl) written.http written.https ?_ written.hops
    written.idleTtl written.idleDns rfl
  exact (foldlM_valueOptions ..).trans (atousi_of_parseUnsigned parsed).symm

/-- Without a value the limit is 1200. -/
theorem Written.maxPayload_filled (written : Written host config v)
    (limit : config.maxPayload = some 1200)
    (applied : host.effect v (.maxPayload, none) = .ok next) :
    ∃ v', Written host config v' ∧ v'.Alike next := by
  refine written.step applied (fun flag => rfl) written.http written.https ?_ written.hops
    written.idleTtl written.idleDns rfl
  rw [limit]
  rfl

theorem readAutoTtl_max {ttl : AutoTtl} (dash : '-' ∈ value.toList)
    (read : readAutoTtl value = .ok ttl) : ttl.max.isSome = true := by
  unfold readAutoTtl at read
  rw [if_pos dash] at read
  split at read
  · cases read
  · obtain ⟨_, -, read⟩ := bind_eq_ok.mp read
    split at read
    · cases read
    · obtain ⟨_, -, read⟩ := bind_eq_ok.mp read
      split at read
      · cases read
      · obtain ⟨_, -, ⟨⟩⟩ := bind_eq_ok.mp read
        rfl

theorem Written.autoTtl_step (written : Written host config v)
    (applied : host.effect v (.autoTtl, some value) = .ok next)
    (fits : config.fits (.autoTtl, some value) = true) :
    ∃ v', Written host (config.withAutoTtl value) v' ∧ v'.Alike next := by
  refine written.step applied (fun flag => ?_) written.http written.https written.payload
    written.hops (fun last ttl => ?_) written.idleDns rfl
  · cases flag <;> first
      | rfl
      | simp [GoodbyeConfig.raised, GoodbyeOpt.raises, GoodbyeConfig.withAutoTtl]
  · obtain ⟨given, read, ⟨⟩⟩ := bind_eq_ok.mp ttl
    refine ⟨({ TtlSettings.initial with doAutoTtl := true } : TtlSettings).withAutoTtl given,
      (bind_pure _).trans (bind_eq_ok.mpr ⟨given, read, rfl⟩), ?_⟩
    simp only [GoodbyeConfig.fits, written.ttlSoFar, Bool.and_eq_true, Bool.or_eq_true,
      decide_eq_true_eq] at fits
    obtain ⟨unset, third⟩ := fits
    have most : orElse (given.max.getD 0) 10 = orElse (given.max.getD v.ttl.autoTtlMax) 10 := by
      cases max : given.max with
      | some n => rfl
      | none =>
          have dashless : '-' ∉ value.toList := by
            intro dash
            have some := readAutoTtl_max dash read
            rw [max] at some
            cases some
          rcases third with (dash | zero) | ten
          · exact absurd dash dashless
          · rw [Option.getD_none, Option.getD_none, zero]
          · rw [Option.getD_none, Option.getD_none, ten]
            rfl
    simp only [TtlSettings.finish, TtlSettings.withAutoTtl, TtlSettings.initial, unset, most,
      if_true]

theorem Written.autoTtl_filled (written : Written host config v)
    (applied : host.effect v (.autoTtl, none) = .ok next)
    (fits : config.fits (.autoTtl, none) = true) :
    ∃ v', Written host (config.withAutoTtl "1-4-10") v' ∧ v'.Alike next := by
  refine written.step applied (fun flag => ?_) written.http written.https written.payload
    written.hops (written.filledTtl fits) written.idleDns rfl
  cases flag <;> first
    | rfl
    | simp [GoodbyeConfig.raised, GoodbyeOpt.raises, GoodbyeConfig.withAutoTtl]

theorem DnsPart.of_off {inetPton : String → Option Nat} {addr : Option String} {port : Option Nat}
    {part : Bool × Nat × Nat} (written : DnsPart inetPton addr port part) (off : part.1 = false) :
    port = none ∧ part = (false, 0, 53) := by
  cases addr with
  | none => exact written
  | some text =>
      obtain ⟨-, on, -⟩ := written
      exact absurd (off.symm.trans on) (by decide)

/-- An address that is read turns the redirection on, with the port as it was at the start. -/
theorem DnsPart.opened {inetPton : String → Option Nat} {addr : Option String} {port : Option Nat}
    {part : Bool × Nat × Nat} {text : String} {number : Nat}
    (written : DnsPart inetPton addr port part) (off : part.1 = false)
    (found : inetPton text = some number) :
    DnsPart inetPton (some text) port (true, number, part.2.2) ∧
      portsOf part = ∅ ∧ portsOf (true, number, part.2.2) = {53} := by
  obtain ⟨rfl, rfl⟩ := written.of_off off
  exact ⟨⟨found, rfl, rfl, (by decide : 53 ≤ u16Max)⟩, rfl, rfl⟩

theorem Written.dnsAddr_step (written : Written host config v)
    (applied : host.effect v (.dnsAddr, some value) = .ok next) :
    ∃ v', Written host { config with dnsAddr := some value } v' ∧ v'.Alike next := by
  refine written.step applied (fun flag => rfl) written.http written.https written.payload
    written.hops written.idleTtl (fun last dns => ?_) rfl
  obtain ⟨off, number, found, rfl⟩ := (DnsFamily.ipv4 host).addr_eq_ok.mp dns
  obtain ⟨dnsv4, dnsv6, ports⟩ := written.dns
  obtain ⟨opened, none_before, added⟩ := dnsv4.opened off found
  refine ⟨opened, dnsv6, ?_⟩
  change v.dns.udpPorts ∪ {53} = portsOf (true, number, v.dns.part4.2.2) ∪ portsOf v.dns.part6
  rw [ports, none_before, added, Finset.empty_union, Finset.union_comm]

theorem Written.dnsv6Addr_step (written : Written host config v)
    (applied : host.effect v (.dnsv6Addr, some value) = .ok next) :
    ∃ v', Written host { config with dnsv6Addr := some value } v' ∧ v'.Alike next := by
  refine written.step applied (fun flag => rfl) written.http written.https written.payload
    written.hops written.idleTtl (fun last dns => ?_) rfl
  obtain ⟨off, number, found, rfl⟩ := (DnsFamily.ipv6 host).addr_eq_ok.mp dns
  obtain ⟨dnsv4, dnsv6, ports⟩ := written.dns
  obtain ⟨opened, none_before, added⟩ := dnsv6.opened off found
  refine ⟨dnsv4, opened, ?_⟩
  change v.dns.udpPorts ∪ {53} = portsOf v.dns.part4 ∪ portsOf (true, number, v.dns.part6.2.2)
  rw [ports, none_before, added, Finset.union_empty]

theorem ports_replaced {a b c d : Finset Nat} (stays : b ⊆ a ∪ c ∪ d) :
    a ∪ b ∪ d ∪ c = a ∪ c ∪ d := by
  have split : a ∪ b ∪ d ∪ c = a ∪ c ∪ d ∪ b := by
    ext x
    simp only [Finset.mem_union]
    tauto
  rw [split, Finset.union_eq_left.mpr stays]

theorem DnsPart.of_on {inetPton : String → Option Nat} {addr : Option String} {port : Option Nat}
    {part : Bool × Nat × Nat} (written : DnsPart inetPton addr port part) (on : part.1 = true) :
    ∃ text, addr = some text ∧ inetPton text = some part.2.1 ∧
      portsOf part = {53} ∪ GoodbyeHost.portFilter (port.getD 53) := by
  cases addr with
  | some text =>
      obtain ⟨found, -, last, -⟩ := written
      refine ⟨text, rfl, found, ?_⟩
      rw [portsOf, if_pos on, last]
  | none =>
      obtain ⟨-, rfl⟩ := written
      cases on

theorem atousi_parsed {maximum number : Nat} (parsed : parseUnsigned maximum value = some n)
    (read : atousi value = .ok number) :
    number = n ∧ number ≤ u16Max ∧ strtoul value.toList = number := by
  have same := (atousi_eq_ok read).symm
  rw [atousi_of_parseUnsigned parsed, atousi_toString] at read
  split at read <;> cases read
  rename_i small
  exact ⟨rfl, small, same⟩

theorem portFilter_stays {inetPton : String → Option Nat} {addr : Option String}
    {old other : Option Nat} {part : Bool × Nat × Nat} (stays : portStays old other n = true)
    (written : DnsPart inetPton addr other part) :
    GoodbyeHost.portFilter (old.getD 53) ⊆ {53} ∪ GoodbyeHost.portFilter n ∪ portsOf part := by
  simp only [portStays, Bool.or_eq_true, decide_eq_true_eq] at stays
  rcases stays with (standard | rfl) | rfl
  · rw [standard]
    exact Finset.empty_subset _
  · exact Finset.subset_union_right.trans Finset.subset_union_left
  · cases on : part.1 with
    | false =>
        obtain ⟨rfl, -⟩ := written.of_off on
        exact Finset.empty_subset _
    | true =>
        obtain ⟨_, _, _, ports⟩ := written.of_on on
        rw [ports]
        exact Finset.subset_union_right.trans Finset.subset_union_right

theorem Written.dnsPort_step (written : Written host config v)
    (applied : host.effect v (.dnsPort, some value) = .ok next)
    (fits : config.fits (.dnsPort, some value) = true)
    (parsed : parseUnsigned u16Max value = some n) :
    ∃ v', Written host { config with dnsPort := some n } v' ∧ v'.Alike next := by
  refine written.step applied (fun flag => rfl) written.http written.https written.payload
    written.hops written.idleTtl (fun last dns => ?_) rfl
  obtain ⟨on, number, read, rfl⟩ := (DnsFamily.ipv4 host).port_eq_ok.mp dns
  obtain ⟨rfl, small, same⟩ := atousi_parsed parsed read
  obtain ⟨dnsv4, dnsv6, ports⟩ := written.dns
  obtain ⟨text, given, found, old⟩ := dnsv4.of_on on
  unfold DnsWritten
  rw [given]
  refine ⟨⟨found, rfl, rfl, small⟩, dnsv6, ?_⟩
  · simp only [GoodbyeConfig.fits, Option.getD_some, same] at fits
    have stays := portFilter_stays fits dnsv6
    change v.dns.udpPorts ∪ GoodbyeHost.portFilter number =
      portsOf (true, v.dns.dnsv4Addr, number) ∪ portsOf v.dns.part6
    rw [ports, old]
    exact ports_replaced stays

theorem Written.dnsv6Port_step (written : Written host config v)
    (applied : host.effect v (.dnsv6Port, some value) = .ok next)
    (fits : config.fits (.dnsv6Port, some value) = true)
    (parsed : parseUnsigned u16Max value = some n) :
    ∃ v', Written host { config with dnsv6Port := some n } v' ∧ v'.Alike next := by
  refine written.step applied (fun flag => rfl) written.http written.https written.payload
    written.hops written.idleTtl (fun last dns => ?_) rfl
  obtain ⟨on, number, read, rfl⟩ := (DnsFamily.ipv6 host).port_eq_ok.mp dns
  obtain ⟨rfl, small, same⟩ := atousi_parsed parsed read
  obtain ⟨dnsv4, dnsv6, ports⟩ := written.dns
  obtain ⟨text, given, found, old⟩ := dnsv6.of_on on
  unfold DnsWritten
  rw [given]
  refine ⟨dnsv4, ⟨found, rfl, rfl, small⟩, ?_⟩
  · simp only [GoodbyeConfig.fits, Option.getD_some, same] at fits
    have stays := portFilter_stays fits dnsv4
    change v.dns.udpPorts ∪ GoodbyeHost.portFilter number =
      portsOf v.dns.part4 ∪ portsOf (true, v.dns.dnsv6Addr, number)
    rw [ports, old, Finset.union_comm (portsOf v.dns.part4),
      Finset.union_comm (portsOf v.dns.part4)]
    exact ports_replaced stays

variable (host) in
/-- An argument with a value is one option, and it does in the configuration what it does
in GoodbyeDPI if it fits. -/
theorem Written.value_step {arg : String}
    {read : GoodbyeConfig → String → Except GoodbyeAdapterError GoodbyeConfig}
    (option : GoodbyeConfig.valueOption arg = some read) (ok : read config value = .ok config') :
    ∃ opt, typedOpt arg = some opt ∧
      Parses goodbyeTable GoodbyeOpt.look [arg, value] [(opt, some value)] ∧
      (∀ v next, Written host config v → config.fits (opt, some value) = true →
        host.effect v (opt, some value) = .ok next →
        ∃ v', Written host config' v' ∧ v'.Alike next) := by
  unfold GoodbyeConfig.valueOption at option
  split at option <;> cases option <;>
    simp only [parseNumber_map_eq_ok, Except.ok.injEq] at ok
  · obtain ⟨n, parsed, rfl⟩ := ok
    exact ⟨.f, rfl, parses_value rfl fun _ => rfl,
      fun _ _ written fits applied => written.f_step applied fits parsed⟩
  · obtain ⟨n, parsed, rfl⟩ := ok
    exact ⟨.e, rfl, parses_value rfl fun _ => rfl,
      fun _ _ written _ applied => written.e_step applied parsed⟩
  · obtain ⟨n, parsed, rfl⟩ := ok
    exact ⟨.setTtl, rfl, parses_value rfl fun _ => rfl,
      fun _ _ written _ applied => written.setTtl_step applied parsed⟩
  · obtain ⟨n, parsed, rfl⟩ := ok
    exact ⟨.minTtl, rfl, parses_value rfl fun _ => rfl,
      fun _ _ written _ applied => written.minTtl_step applied parsed⟩
  · obtain ⟨n, parsed, rfl⟩ := ok
    have plain := head_of_parseUnsigned parsed
    exact ⟨.maxPayload, rfl, parses_ahead rfl (classify_plain plain) (look_ahead plain (.inr rfl)),
      fun _ _ written _ applied => written.maxPayload_step applied parsed⟩
  · subst ok
    exact ⟨.dnsAddr, rfl, parses_value rfl fun _ => rfl,
      fun _ _ written _ applied => written.dnsAddr_step applied⟩
  · obtain ⟨n, parsed, rfl⟩ := ok
    exact ⟨.dnsPort, rfl, parses_value rfl fun _ => rfl,
      fun _ _ written fits applied => written.dnsPort_step applied fits parsed⟩
  · subst ok
    exact ⟨.dnsv6Addr, rfl, parses_value rfl fun _ => rfl,
      fun _ _ written _ applied => written.dnsv6Addr_step applied⟩
  · obtain ⟨n, parsed, rfl⟩ := ok
    exact ⟨.dnsv6Port, rfl, parses_value rfl fun _ => rfl,
      fun _ _ written fits applied => written.dnsv6Port_step applied fits parsed⟩

end Step

end ZonDpi.Engine
