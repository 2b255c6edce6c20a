import ZonDpi.Engine.GoodbyeLoop

/-!
# The GoodbyeDPI configuration as a codec

`to_command_args_filtered` writes a configuration and `from_profile` reads one. What
`from_profile` has read it reads again from the line that is written: every option it
knows is written in a spelling it knows, numbers are in the range of their field, the text
of `--auto-ttl` does not begin with a dash, only one of the TTL modes is there, and no
argument that was passed through is one that it knows (`Settled`). So every piece of the
line has the effect of its field, in front of whatever follows (`Takes`).
-/

namespace ZonDpi.Engine.GoodbyeConfig

open Reader ZonDpi.Std

/-! ### What `from_profile` sees to -/

def Within (maximum : Nat) (value : Option Nat) : Prop := ∀ n ∈ value, n ≤ maximum

structure Settled (config : GoodbyeConfig) : Prop where
  http : Within u16Max config.httpFragSize
  https : Within u16Max config.httpsFragSize
  setTtl : Within u8Max config.setTtl
  minTtl : Within u8Max config.minTtl
  payload : Within u32Max config.maxPayload
  dnsPort : Within u16Max config.dnsPort
  dnsv6Port : Within u16Max config.dnsv6Port
  autoTtl : ∀ text ∈ config.autoTtl, text.toList.head? ≠ some '-'
  exclusive : config.setTtl = none ∨ config.autoTtl = none
  custom : config.customArgs.all passesThrough = true

variable {config config' : GoodbyeConfig} {args : List String}

theorem within_none (maximum : Nat) : Within maximum none :=
  nofun

theorem within_some {maximum n : Nat} (small : n ≤ maximum) : Within maximum (some n) := by
  rintro _ ⟨⟩
  exact small

theorem within_parsed {maximum n : Nat} {value : String}
    (parsed : parseUnsigned maximum value = some n) : Within maximum (some n) :=
  within_some (le_of_parseUnsigned parsed)

theorem settled_default : default.Settled where
  http := within_none _
  https := within_none _
  setTtl := within_none _
  minTtl := within_none _
  payload := within_none _
  dnsPort := within_none _
  dnsv6Port := within_none _
  autoTtl := nofun
  exclusive := .inl rfl
  custom := rfl

theorem Settled.withAutoTtl {text : String} (settled : config.Settled)
    (dashless : text.toList.head? ≠ some '-') : (config.withAutoTtl text).Settled where
  __ := settled
  setTtl := within_none _
  autoTtl := by
    rintro _ ⟨⟩
    exact dashless
  exclusive := .inl rfl

theorem Settled.fragmented (settled : config.Settled) : config.fragmented.Settled where
  __ := settled
  http := within_some (by decide)
  https := within_some (by decide)
  payload := within_some (by decide)

theorem Settled.flag {arg : String} {set : GoodbyeConfig → GoodbyeConfig}
    (option : flagOption arg = some set) (settled : config.Settled) : (set config).Settled := by
  have two : Within u16Max (some 2) := within_some (by decide)
  have fragmented := settled.fragmented
  unfold flagOption at option
  split at option <;> cases option
  case h_10 => exact { settled with http := two, https := two }
  case h_11 => exact { fragmented.withAutoTtl (by decide) with }
  all_goals first | exact { settled with } | exact { fragmented with }

theorem Settled.value {arg text : String}
    {read : GoodbyeConfig → String → Except GoodbyeAdapterError GoodbyeConfig}
    (option : valueOption arg = some read) (ok : read config text = .ok config')
    (settled : config.Settled) : config'.Settled := by
  unfold valueOption at option
  split at option <;> cases option <;>
    simp only [parseNumber_map_eq_ok, Except.ok.injEq] at ok <;>
    obtain ⟨n, parsed, rfl⟩ := ok
  · exact { settled with http := within_parsed parsed }
  · exact { settled with https := within_parsed parsed }
  · exact { settled with setTtl := within_parsed parsed, autoTtl := nofun, exclusive := .inr rfl }
  · exact { settled with minTtl := within_parsed parsed }
  · exact { settled with payload := within_parsed parsed }
  · exact { settled with }
  · exact { settled with dnsPort := within_parsed parsed }
  · exact { settled with }
  · exact { settled with dnsv6Port := within_parsed parsed }

theorem Settled.readArgs (ok : readArgs config args = .ok config') (settled : config.Settled) :
    config'.Settled := by
  refine readArgs_invariant Settled ?_ ?_ ?_ ?_ ok settled
  · intro config text dashless settled
    exact settled.withAutoTtl dashless
  · intro config arg set option settled
    exact settled.flag option
  · intro config arg read text config' option done settled
    exact settled.value option done
  · intro config arg through settled
    refine { settled with custom := ?_ }
    simp [pass, settled.custom, through]

/-! ### Reading what is written, piece by piece -/

/-- The TTL modes of `config` in place of those of `c`. -/
def putTtl (config c : GoodbyeConfig) : GoodbyeConfig :=
  match config.setTtl, config.autoTtl with
  | some ttl, _ => { c with setTtl := some ttl, autoTtl := none }
  | none, some text => c.withAutoTtl text
  | none, none => c

theorem takes_ttl (settled : config.Settled) :
    Takes GoodbyeConfig.readArgs
      (match config.setTtl with
        | some ttl => ["--set-ttl", toString ttl]
        | none => textArg "--auto-ttl" config.autoTtl)
      config.putTtl := by
  intro c rest
  unfold putTtl
  cases ttl : config.setTtl with
  | some n =>
      exact readArgs_value (by decide) rfl rfl (parseNumber_map_toString (settled.setTtl n ttl))
  | none =>
      cases auto : config.autoTtl with
      | none => rfl
      | some text => exact readArgs_auto (settled.autoTtl text auto)

/-! ### The whole line -/

/-- The typed fields of `config` in place of those of `c`, as far as they are set. -/
def putTyped (config c : GoodbyeConfig) : GoodbyeConfig :=
  { config.putTtl c with
    blockPassiveDpi := config.blockPassiveDpi || c.blockPassiveDpi
    blockQuic := config.blockQuic || c.blockQuic
    replaceHost := config.replaceHost || c.replaceHost
    removeSpace := config.removeSpace || c.removeSpace
    mixHostCase := config.mixHostCase || c.mixHostCase
    httpFragSize := config.httpFragSize.or c.httpFragSize
    httpsFragSize := config.httpsFragSize.or c.httpsFragSize
    nativeFrag := config.nativeFrag || c.nativeFrag
    reverseFrag := config.reverseFrag || c.reverseFrag
    wrongSeq := config.wrongSeq || c.wrongSeq
    wrongChksum := config.wrongChksum || c.wrongChksum
    minTtl := config.minTtl.or c.minTtl
    maxPayload := config.maxPayload.or c.maxPayload }

def putDns (config c : GoodbyeConfig) : GoodbyeConfig :=
  { c with
    dnsAddr := config.dnsAddr.or c.dnsAddr
    dnsPort := config.dnsPort.or c.dnsPort
    dnsv6Addr := config.dnsv6Addr.or c.dnsv6Addr
    dnsv6Port := config.dnsv6Port.or c.dnsv6Port }

theorem takes_typed (settled : config.Settled) :
    Takes GoodbyeConfig.readArgs
      (flagArg "-p" config.blockPassiveDpi ++ flagArg "-q" config.blockQuic ++
        flagArg "-r" config.replaceHost ++ flagArg "-s" config.removeSpace ++
        flagArg "-m" config.mixHostCase ++ numberArg "-f" config.httpFragSize ++
        numberArg "-e" config.httpsFragSize ++ flagArg "--native-frag" config.nativeFrag ++
        flagArg "--reverse-frag" config.reverseFrag ++ flagArg "--wrong-seq" config.wrongSeq ++
        flagArg "--wrong-chksum" config.wrongChksum ++
        (match config.setTtl with
          | some ttl => ["--set-ttl", toString ttl]
          | none => textArg "--auto-ttl" config.autoTtl) ++
        numberArg "--min-ttl" config.minTtl ++ numberArg "--max-payload" config.maxPayload)
      config.putTyped := by
  have takes := takes_flagArg kind "-p"
        (fun b c => { c with blockPassiveDpi := b || c.blockPassiveDpi })
        rfl (fun _ => rfl) config.blockPassiveDpi
    |>.append (takes_flagArg kind "-q" (fun b c => { c with blockQuic := b || c.blockQuic })
        rfl (fun _ => rfl) config.blockQuic)
    |>.append (takes_flagArg kind "-r" (fun b c => { c with replaceHost := b || c.replaceHost })
        rfl (fun _ => rfl) config.replaceHost)
    |>.append (takes_flagArg kind "-s" (fun b c => { c with removeSpace := b || c.removeSpace })
        rfl (fun _ => rfl) config.removeSpace)
    |>.append (takes_flagArg kind "-m" (fun b c => { c with mixHostCase := b || c.mixHostCase })
        rfl (fun _ => rfl) config.mixHostCase)
    |>.append (takes_numberArg kind "-f" (fun n c => { c with httpFragSize := n.or c.httpFragSize })
        rfl (fun _ => rfl) settled.http)
    |>.append (takes_numberArg kind "-e"
        (fun n c => { c with httpsFragSize := n.or c.httpsFragSize })
        rfl (fun _ => rfl) settled.https)
    |>.append (takes_flagArg kind "--native-frag"
        (fun b c => { c with nativeFrag := b || c.nativeFrag })
        rfl (fun _ => rfl) config.nativeFrag)
    |>.append (takes_flagArg kind "--reverse-frag"
        (fun b c => { c with reverseFrag := b || c.reverseFrag })
        rfl (fun _ => rfl) config.reverseFrag)
    |>.append (takes_flagArg kind "--wrong-seq" (fun b c => { c with wrongSeq := b || c.wrongSeq })
        rfl (fun _ => rfl) config.wrongSeq)
    |>.append (takes_flagArg kind "--wrong-chksum"
        (fun b c => { c with wrongChksum := b || c.wrongChksum })
        rfl (fun _ => rfl) config.wrongChksum)
    |>.append (takes_ttl settled)
    |>.append (takes_numberArg kind "--min-ttl" (fun n c => { c with minTtl := n.or c.minTtl })
        rfl (fun _ => rfl) settled.minTtl)
    |>.append (takes_numberArg kind "--max-payload"
        (fun n c => { c with maxPayload := n.or c.maxPayload })
        rfl (fun _ => rfl) settled.payload)
  refine takes.congr fun c => ?_
  -- what the options do to the TTL modes does not depend on the other fields
  unfold putTyped putTtl
  cases config.setTtl <;> cases config.autoTtl <;> rfl

theorem takes_dns (settled : config.Settled) :
    Takes GoodbyeConfig.readArgs
      (textArg "--dns-addr" config.dnsAddr ++ numberArg "--dns-port" config.dnsPort ++
        textArg "--dnsv6-addr" config.dnsv6Addr ++ numberArg "--dnsv6-port" config.dnsv6Port)
      config.putDns :=
  takes_textArg kind "--dns-addr" (fun v c => { c with dnsAddr := v.or c.dnsAddr })
      rfl (fun _ _ => rfl) (fun _ => rfl) config.dnsAddr
    |>.append (takes_numberArg kind "--dns-port" (fun n c => { c with dnsPort := n.or c.dnsPort })
      rfl (fun _ => rfl) settled.dnsPort)
    |>.append (takes_textArg kind "--dnsv6-addr"
      (fun v c => { c with dnsv6Addr := v.or c.dnsv6Addr })
      rfl (fun _ _ => rfl) (fun _ => rfl) config.dnsv6Addr)
    |>.append (takes_numberArg kind "--dnsv6-port"
      (fun n c => { c with dnsv6Port := n.or c.dnsv6Port })
      rfl (fun _ => rfl) settled.dnsv6Port)

theorem putTtl_default (settled : config.Settled) :
    config.putTtl default =
      { default with setTtl := config.setTtl, autoTtl := config.autoTtl } := by
  unfold putTtl
  rcases settled.exclusive with none_set | none_auto
  · rw [none_set]
    cases config.autoTtl <;> rfl
  · rw [none_auto]
    cases config.setTtl <;> rfl

theorem putTyped_default (settled : config.Settled) :
    config.putTyped default = { config.withoutDns with customArgs := [] } := by
  rw [putTyped, putTtl_default settled]
  simp [default, withoutDns]

/-- The line is read as it was written. -/
theorem readArgs_toCommandArgsFiltered (settled : config.Settled) (includeDnsRedirect : Bool) :
    GoodbyeConfig.readArgs default (config.toCommandArgsFiltered includeDnsRedirect) =
      .ok (if includeDnsRedirect then config else config.withoutDns) := by
  cases includeDnsRedirect with
  | false =>
      have typed : config.toCommandArgsFiltered false = _ ++ [] ++ config.customArgs := rfl
      rw [typed, List.append_nil]
      refine (takes_typed settled default config.customArgs).trans ?_
      rw [putTyped_default settled, readArgs_passed settled.custom]
      rfl
  | true =>
      have typed : config.toCommandArgsFiltered true = _ ++ _ ++ config.customArgs := rfl
      rw [typed, List.append_assoc]
      refine (takes_typed settled default _).trans ?_
      rw [if_pos rfl, takes_dns settled, putTyped_default settled, readArgs_passed settled.custom]
      simp [putDns, withoutDns]

/-- Reading a line that was written from a profile gives the configuration back, without
the DNS fields if these were not written. -/
theorem goodbye_codec {profile : ProfileDefinition} (accepted : fromProfile profile = .ok config) :
    fromProfile { profile with arguments := config.toCommandArgsFiltered true } = .ok config ∧
      fromProfile { profile with arguments := config.toCommandArgsFiltered false } =
        .ok { config with dnsAddr := none, dnsPort := none, dnsv6Addr := none,
                          dnsv6Port := none } := by
  have settled := settled_default.readArgs (fromProfile_eq_ok accepted)
  constructor
  · rw [fromProfile_arguments accepted, readArgs_toCommandArgsFiltered settled, if_pos rfl]
  · rw [fromProfile_arguments accepted, readArgs_toCommandArgsFiltered settled,
      if_neg Bool.false_ne_true, withoutDns]

/-- A modeset, DNS, a value that looks like an option, and arguments passed through. -/
def mixedProfile : ProfileDefinition where
  id := "mixed"
  name := "Mixed"
  description := ""
  targetEngine := "GoodbyeDPI"
  arguments := ["-5", "--ip-id", "--dns-addr", "--set-ttl", "7", "--dnsv6-port", "+53", "-k"]

theorem goodbye_codec_mixed :
    ∃ config, fromProfile mixedProfile = .ok config ∧ config.dnsAddr = some "--set-ttl" ∧
      config.customArgs = ["--ip-id", "7", "-k"] ∧
      fromProfile { mixedProfile with arguments := config.toCommandArgsFiltered true } =
        .ok config ∧
      fromProfile { mixedProfile with arguments := config.toCommandArgsFiltered false } =
        .ok { config with dnsAddr := none, dnsPort := none, dnsv6Addr := none,
                          dnsv6Port := none } := by
  have accepted : ∃ config, fromProfile mixedProfile = .ok config ∧
      config.dnsAddr = some "--set-ttl" ∧ config.customArgs = ["--ip-id", "7", "-k"] :=
    ⟨_, rfl, rfl, rfl⟩
  obtain ⟨config, accepted, addr, custom⟩ := accepted
  exact ⟨config, accepted, addr, custom, goodbye_codec accepted⟩

end ZonDpi.Engine.GoodbyeConfig
