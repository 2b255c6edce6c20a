import ZonDpi.Engine.ByeDpiLoop

/-!
# The ByeDPI configuration as a codec

What `from_profile` has read, in whichever spelling, it reads again from the line that
`to_command_args` writes. Behind an option that takes a value anything is its value, even
a text that is an option itself; and no argument that was passed through is an option, so
it is passed through again (`Settled`).
-/

namespace ZonDpi.Engine.ByeDpiConfig

open Reader ZonDpi.Std

/-! ### What `from_profile` sees to -/

structure Settled (config : ByeDpiConfig) : Prop where
  listenIp : config.listenIp ≠ "0.0.0.0"
  port : config.port ≤ u16Max
  maxConn : ∀ n ∈ config.maxConn, n ≤ u32Max
  fakeTtl : ∀ n ∈ config.fakeTtl, n ≤ u8Max
  custom : ∀ arg ∈ config.customArgs, valueOption arg = none

variable {config config' : ByeDpiConfig} {args : List String}

theorem settled_default : default.Settled where
  listenIp := by decide
  port := by decide
  maxConn := nofun
  fakeTtl := nofun
  custom := nofun

theorem Settled.value {arg text : String}
    {read : ByeDpiConfig → String → Except ByeDpiAdapterError ByeDpiConfig}
    (option : valueOption arg = some read) (ok : read config text = .ok config')
    (settled : config.Settled) : config'.Settled := by
  unfold valueOption at option
  split at option <;> cases option <;>
    simp only [parseNumber_map_eq_ok, Except.ok.injEq] at ok
  -- the address, in its two spellings
  iterate 2
    · split_ifs at ok with insecure
      cases ok
      exact { settled with listenIp := insecure }
  -- texts are taken as they are, and numbers are in range
  all_goals first
    | (obtain rfl := ok; exact { settled with })
    | (obtain ⟨n, parsed, rfl⟩ := ok; have small := le_of_parseUnsigned parsed)
  iterate 2 exact { settled with port := small }
  iterate 2
    · refine { settled with maxConn := ?_ }
      rintro _ ⟨⟩
      exact small
  iterate 2
    · refine { settled with fakeTtl := ?_ }
      rintro _ ⟨⟩
      exact small

theorem Settled.readArgs (ok : readArgs config args = .ok config') (settled : config.Settled) :
    config'.Settled := by
  refine readArgs_invariant Settled ?_ ?_ ok settled
  · intro config arg read text config' option done settled
    exact settled.value option done
  · intro config arg option settled
    refine { settled with custom := ?_ }
    intro other member
    rcases List.mem_append.mp member with before | last
    · exact settled.custom other before
    · rw [List.mem_singleton.mp last]
      exact option

/-! ### Reading what is written, piece by piece -/

/-- The address and the port, which are always written. -/
theorem takes_listen (settled : config.Settled) :
    Takes ByeDpiConfig.readArgs ["-i", config.listenIp, "-p", toString config.port]
      (fun c => { c with listenIp := config.listenIp, port := config.port }) := by
  intro c rest
  have address : readArgs c ("-i" :: config.listenIp :: "-p" :: toString config.port :: rest) =
      readArgs { c with listenIp := config.listenIp } ("-p" :: toString config.port :: rest) :=
    readArgs_value rfl (if_neg settled.listenIp)
  exact address.trans (readArgs_value rfl (parseNumber_map_toString settled.port))

/-! ### The whole line -/

/-- The line is read as it was written. -/
theorem readArgs_toCommandArgs (settled : config.Settled) :
    ByeDpiConfig.readArgs default config.toCommandArgs = .ok config := by
  have takes := takes_listen settled
    |>.append (takes_numberArg kind "-c" (fun n c => { c with maxConn := n.or c.maxConn })
        rfl (fun _ => rfl) settled.maxConn)
    |>.append (takes_textArg kind "-s" (fun v c => { c with splitPos := v.or c.splitPos })
        rfl (fun _ _ => rfl) (fun _ => rfl) config.splitPos)
    |>.append (takes_textArg kind "-d" (fun v c => { c with disorderPos := v.or c.disorderPos })
        rfl (fun _ _ => rfl) (fun _ => rfl) config.disorderPos)
    |>.append (takes_textArg kind "-f" (fun v c => { c with fakePos := v.or c.fakePos })
        rfl (fun _ _ => rfl) (fun _ => rfl) config.fakePos)
    |>.append (takes_numberArg kind "-t" (fun n c => { c with fakeTtl := n.or c.fakeTtl })
        rfl (fun _ => rfl) settled.fakeTtl)
    |>.append (takes_textArg kind "-A" (fun v c => { c with autoParams := v.or c.autoParams })
        rfl (fun _ _ => rfl) (fun _ => rfl) config.autoParams)
    |>.append (takes_textArg kind "-L" (fun v c => { c with autoMode := v.or c.autoMode })
        rfl (fun _ _ => rfl) (fun _ => rfl) config.autoMode)
  rw [toCommandArgs, takes, readArgs_passed settled.custom]
  simp [default]

/-- Reading a line that was written from a profile gives the configuration back. -/
theorem byeDpi_codec {profile : ProfileDefinition} (accepted : fromProfile profile = .ok config) :
    fromProfile { profile with arguments := config.toCommandArgs } = .ok config := by
  rw [fromProfile_arguments accepted]
  exact readArgs_toCommandArgs (settled_default.readArgs (fromProfile_eq_ok accepted))

/-- Long spellings, values that look like options, arguments passed through, and an option
at the end that lacks its value. -/
def mixedProfile : ProfileDefinition where
  id := "mixed"
  name := "Mixed"
  description := ""
  targetEngine := "ciadpi"
  arguments := ["--split", "-d", "-x", "--ip", "::1", "-t", "+8", "-s", "--auto", "2", "-L"]

theorem byeDpi_codec_mixed :
    ∃ config, fromProfile mixedProfile = .ok config ∧ config.splitPos = some "--auto" ∧
      config.customArgs = ["-x", "2"] ∧
      fromProfile { mixedProfile with arguments := config.toCommandArgs } = .ok config := by
  have accepted : ∃ config, fromProfile mixedProfile = .ok config ∧
      config.splitPos = some "--auto" ∧ config.customArgs = ["-x", "2"] :=
    ⟨_, rfl, rfl, rfl⟩
  obtain ⟨config, accepted, split, custom⟩ := accepted
  exact ⟨config, accepted, split, custom, byeDpi_codec accepted⟩

end ZonDpi.Engine.ByeDpiConfig
