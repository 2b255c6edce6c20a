import ZonDpi.Engine.CiadpiListen
import ZonDpi.Engine.CiadpiOrder

/-!
What an option does in the configuration of the service, and what it does in `ciadpi`.

An option that `from_profile` reads sets one field (`ByeDpiConfig.Sets`). If it fits
(`ByeDpiConfig.fits`), the options that are written then do on the groups what the ones
written before would do with this one behind them (`Sets.groups`), and the address, the
port and the limit that are written are valid (`Sets.sound`).
-/

namespace ZonDpi.Engine

open Getopt Fold ZonDpi.Std

/-! ### Numbers -/

theorem number_eq_some {low high val : Int} {text : List Char} :
    number low high text = some val ↔ strtol text = (val, []) ∧ low ≤ val ∧ val ≤ high := by
  unfold number
  cases strtol text with
  | mk val' rest =>
      constructor
      · intro found
        dsimp only at found
        split_ifs at found with inside
        cases found
        exact ⟨Prod.ext rfl inside.2.2, inside.1, inside.2.1⟩
      · rintro ⟨⟨⟩, inside⟩
        exact if_pos ⟨inside.1, inside.2, rfl⟩

theorem number_toString {high n : Nat} (small : high < 2 ^ 31) (positive : 1 ≤ n)
    (inside : n ≤ high) : number 1 high (toString n).toList = some (n : Int) := by
  refine number_eq_some.mpr ⟨strtol_toString positive (by omega), ?_, ?_⟩ <;> omega

/-- `strtol` and the service read the same number. -/
def agrees (maximum : Nat) (o : CiadpiOpt × Option String) : Bool :=
  (parseUnsigned maximum (o.2.getD "")).any fun n => (strtol (chars o)).1 = n

theorem number_of_agrees (high : Nat) {maximum n : Nat} {opt : CiadpiOpt} {value : String}
    {val : Int} (agrees : agrees maximum (opt, some value) = true)
    (parsed : parseUnsigned maximum value = some n)
    (read : number 1 high (chars (opt, some value)) = some val) :
    val = n ∧ 1 ≤ n ∧ n ≤ high := by
  obtain ⟨text, low, inside⟩ := number_eq_some.mp read
  have same : (strtol (chars (opt, some value))).1 = n := by
    simpa [ZonDpi.Engine.agrees, parsed] using agrees
  rw [text] at same
  exact ⟨same, by omega, by omega⟩

/-! ### The options that are written -/

namespace ByeDpiConfig

/-- The options that act on the groups. -/
def groupOptions (config : ByeDpiConfig) : List (CiadpiOpt × Option String) :=
  valueOptions .split config.splitPos ++ (valueOptions .disorder config.disorderPos ++
    (valueOptions .fake config.fakePos ++ (valueOptions .ttl (config.fakeTtl.map toString) ++
      (valueOptions .auto config.autoParams ++ valueOptions .autoMode config.autoMode))))

theorem groupOptions_eq (config : ByeDpiConfig) :
    config.groupOptions = config.partOptions ++ config.autoOptions := by
  simp [groupOptions, partOptions, autoOptions]

/-- The address, the port and the limit that are written are valid. -/
structure Sound (host : CiadpiHost) (config : ByeDpiConfig) : Prop where
  address : (host.given (.ip, some config.listenIp)).isSome
  port : 1 ≤ config.port ∧ config.port ≤ 65535
  maxConn : ∀ n ∈ config.maxConn, 1 ≤ n ∧ n ≤ 32766

end ByeDpiConfig

variable {host : CiadpiHost} {config config' : ByeDpiConfig} {o : CiadpiOpt × Option String}
  {opt : CiadpiOpt} {value : String}

theorem valid_of_isGroupTyped (typed : o.1.isGroupTyped = true) : host.Valid o := by
  obtain ⟨opt, value⟩ := o
  cases opt <;> cases typed <;> exact ⟨rfl, nofun, nofun, nofun⟩

theorem getAddrScheme_of_given (given : (host.given o).isSome) :
    (host.getAddrScheme (chars o)).isSome := by
  unfold CiadpiHost.given at given
  split_ifs at given
  · cases found : host.getAddrScheme (chars o) with
    | none =>
        rw [found] at given
        cases given
    | some result => rfl
  · cases given

namespace ByeDpiConfig.Sound

variable (sound : config.Sound host)

include sound

theorem number_port : number 1 65535 (toString config.port).toList = some (config.port : Int) :=
  number_toString (by decide) sound.port.1 sound.port.2

theorem number_maxConn {n : Nat} (conn : config.maxConn = some n) :
    number 1 32766 (toString n).toList = some (n : Int) :=
  number_toString (by decide) (sound.maxConn n conn).1 (sound.maxConn n conn).2

theorem valid : ∀ o ∈ config.options, host.Valid o := by
  intro o member
  rcases List.mem_append.mp member with listen | group
  · rcases List.mem_cons.mp listen with rfl | listen
    · exact ⟨rfl, fun _ => getAddrScheme_of_given sound.address, nofun, nofun⟩
    rcases List.mem_cons.mp listen with rfl | conn
    · refine ⟨rfl, nofun, fun _ => ?_, nofun⟩
      rw [chars, Option.getD_some, sound.number_port]
      rfl
    · cases limit : config.maxConn with
      | none =>
          rw [limit] at conn
          cases conn
      | some n =>
          rw [limit] at conn
          obtain rfl := List.mem_singleton.mp conn
          refine ⟨rfl, nofun, nofun, fun _ => ?_⟩
          rw [chars, Option.getD_some, sound.number_maxConn limit]
          rfl
  · rcases List.mem_append.mp group with part | auto
    · exact valid_of_isGroupTyped (config.partOptions_typed o part).1
    · exact valid_of_isGroupTyped (config.autoOptions_typed o auto)

theorem listenOptions_port : lastSome portGiven config.listenOptions = some config.port := by
  have conn : lastSome portGiven (valueOptions .maxConn (config.maxConn.map toString)) = none := by
    refine lastSome_eq_none.mpr fun o member => ?_
    rw [portGiven, mem_valueOptions member]
  have port : portGiven (.port, some (toString config.port)) = some config.port := by
    rw [portGiven_port rfl, chars, Option.getD_some, sound.number_port]
    rfl
  rw [listenOptions, lastSome_cons, lastSome_cons, conn, port]
  rfl

theorem listenOptions_conn :
    lastSome connGiven config.listenOptions = config.maxConn.map Int.ofNat := by
  rw [listenOptions, lastSome_cons, lastSome_cons]
  cases limit : config.maxConn with
  | none => rfl
  | some n =>
      have conn : connGiven (.maxConn, some (toString n)) = some (n : Int) := by
        rw [connGiven, if_pos rfl, chars, Option.getD_some, sound.number_maxConn limit]
      change ((lastSome connGiven [(.maxConn, some (toString n))]).or _).or _ = _
      rw [lastSome_singleton, conn]
      rfl

end ByeDpiConfig.Sound

theorem portGiven_outside : ∀ o : CiadpiOpt × Option String, o.1.isGroupTyped = true →
    portGiven o = none := by
  intro o typed
  refine portGiven_other ?_ ?_ <;>
    · intro same
      rw [same] at typed
      cases typed

theorem connGiven_outside : ∀ o : CiadpiOpt × Option String, o.1.isGroupTyped = true →
    connGiven o = none := by
  intro o typed
  refine if_neg fun same => ?_
  rw [same] at typed
  cases typed

/-! ### What an option sets -/

/-- What `from_profile` does at an option with this value. -/
inductive ByeDpiConfig.Sets (config : ByeDpiConfig) (value : String) :
    CiadpiOpt → ByeDpiConfig → Prop
  | ip : Sets config value .ip { config with listenIp := value }
  | port {n : Nat} (parsed : parseUnsigned u16Max value = some n) :
      Sets config value .port { config with port := n }
  | maxConn {n : Nat} (parsed : parseUnsigned u32Max value = some n) :
      Sets config value .maxConn { config with maxConn := some n }
  | split : Sets config value .split { config with splitPos := some value }
  | disorder : Sets config value .disorder { config with disorderPos := some value }
  | fake : Sets config value .fake { config with fakePos := some value }
  | ttl {n : Nat} (parsed : parseUnsigned u8Max value = some n) :
      Sets config value .ttl { config with fakeTtl := some n }
  | auto : Sets config value .auto { config with autoParams := some value }
  | autoMode : Sets config value .autoMode { config with autoMode := some value }

theorem sets_of_valueOption {arg : String}
    {read : ByeDpiConfig → String → Except ByeDpiAdapterError ByeDpiConfig}
    (option : ByeDpiConfig.valueOption arg = some read) (ok : read config value = .ok config') :
    ∃ opt, ciadpiTable.classify arg = .options [] (.needs opt) ∧ config.Sets value opt config' := by
  unfold ByeDpiConfig.valueOption at option
  split at option <;> cases option <;>
    simp only [parseNumber_map_eq_ok, Except.ok.injEq] at ok
  -- each option has two spellings
  iterate 2
    · split_ifs at ok
      cases ok
      exact ⟨.ip, rfl, .ip⟩
  iterate 2
    · obtain ⟨n, parsed, rfl⟩ := ok
      exact ⟨.port, rfl, .port parsed⟩
  iterate 2
    · obtain ⟨n, parsed, rfl⟩ := ok
      exact ⟨.maxConn, rfl, .maxConn parsed⟩
  iterate 2
    · subst ok
      exact ⟨.split, rfl, .split⟩
  iterate 2
    · subst ok
      exact ⟨.disorder, rfl, .disorder⟩
  iterate 2
    · subst ok
      exact ⟨.fake, rfl, .fake⟩
  iterate 2
    · obtain ⟨n, parsed, rfl⟩ := ok
      exact ⟨.ttl, rfl, .ttl parsed⟩
  iterate 2
    · subst ok
      exact ⟨.auto, rfl, .auto⟩
  iterate 2
    · subst ok
      exact ⟨.autoMode, rfl, .autoMode⟩

/-- The option that an argument with a value is. -/
def typedCiadpiOpt (arg : String) : Option CiadpiOpt :=
  match ciadpiTable.classify arg with
  | .options [] (.needs opt) => some opt
  | _ => none

/-! ### When an option fits -/

/-- The value of an address names a host. -/
def namesHost (o : CiadpiOpt × Option String) : Bool :=
  (splitAddr (splitScheme (chars o)).2).any fun found => found.1 ≠ []

/-- The levels that the value of `--auto-mode` names. -/
def levels (text : String) : Nat := (letters autoLevelBit 0 text.toList).getD 0

/-- After the options that make up the configuration, and with this port, the option does
in the configuration what it does in `ciadpi`: it is written behind those that are there,
and where it takes the place of another one, nothing is left of that. -/
def ByeDpiConfig.fits (config : ByeDpiConfig) (port : Option Nat)
    (o : CiadpiOpt × Option String) : Bool :=
  match o.1 with
  | .ip => namesHost o && (addrPort o = none || addrPort o = port)
  | .port => agrees u16Max o
  | .maxConn => agrees u32Max o
  | .split =>
      config.splitPos.isNone && config.disorderPos.isNone && config.fakePos.isNone &&
        config.autoParams.isNone
  | .disorder => config.disorderPos.isNone && config.fakePos.isNone && config.autoParams.isNone
  | .fake => config.fakePos.isNone && config.autoParams.isNone
  | .ttl => config.autoParams.isNone && agrees u8Max o
  | .auto => config.autoParams.isNone && config.autoMode.isNone
  | .autoMode =>
      config.autoMode.all fun text =>
        levels text ||| levels (o.2.getD "") = levels (o.2.getD "")
  | _ => true

theorem given_of_namesHost (ip : o.1 = .ip) (names : namesHost o = true)
    (found : (host.getAddrScheme (chars o)).isSome) : ∃ addr, host.given o = some addr := by
  obtain ⟨⟨mode, addr, port⟩, found⟩ := Option.isSome_iff_exists.mp found
  have given : host.given o = addr := by simp [CiadpiHost.given, ip, found]
  simp only [CiadpiHost.getAddrScheme, CiadpiHost.getAddr, Option.map_eq_some_iff] at found
  obtain ⟨⟨addr', port'⟩, found, same⟩ := found
  cases same
  unfold namesHost at names
  split at found
  · cases found
  · rename_i name port here
    rw [here] at names
    rw [if_neg (by simpa using names)] at found
    obtain ⟨addr', _, ⟨⟩⟩ := Option.map_eq_some_iff.mp found
    exact ⟨addr', given⟩

/-! ### What it gives outside the groups -/

namespace ByeDpiConfig.Sets

variable {port : Option Nat}

theorem portGiven_eq {n : Nat} (fits : config.fits port (.port, some value) = true)
    (valid : host.Valid (.port, some value)) (parsed : parseUnsigned u16Max value = some n) :
    portGiven (.port, some value) = some n ∧ 1 ≤ n ∧ n ≤ 65535 := by
  obtain ⟨val, read⟩ := Option.isSome_iff_exists.mp (valid.port rfl)
  obtain ⟨rfl, inside⟩ := number_of_agrees 65535 fits parsed read
  refine ⟨?_, inside⟩
  rw [portGiven_port rfl, read]
  rfl

theorem connGiven_eq {n : Nat} (fits : config.fits port (.maxConn, some value) = true)
    (valid : host.Valid (.maxConn, some value)) (parsed : parseUnsigned u32Max value = some n) :
    connGiven (.maxConn, some value) = some (n : Int) ∧ 1 ≤ n ∧ n ≤ 32766 := by
  obtain ⟨val, read⟩ := Option.isSome_iff_exists.mp (valid.maxConn rfl)
  obtain ⟨rfl, inside⟩ := number_of_agrees 32766 fits parsed read
  refine ⟨?_, inside⟩
  rw [connGiven, if_pos rfl, read]

theorem given_eq (fits : config.fits port (.ip, some value) = true)
    (valid : host.Valid (.ip, some value)) : ∃ addr, host.given (.ip, some value) = some addr := by
  simp only [ByeDpiConfig.fits, Bool.and_eq_true] at fits
  exact given_of_namesHost rfl fits.1 (valid.address rfl)

theorem sound (sets : config.Sets value opt config')
    (fits : config.fits port (opt, some value) = true) (valid : host.Valid (opt, some value))
    (sound : config.Sound host) : config'.Sound host := by
  obtain ⟨address, port, maxConn⟩ := sound
  cases sets with
  | ip =>
      obtain ⟨addr, given⟩ := given_eq fits valid
      exact ⟨by rw [given]; rfl, port, maxConn⟩
  | port parsed => exact ⟨address, (portGiven_eq fits valid parsed).2, maxConn⟩
  | maxConn parsed =>
      refine ⟨address, port, ?_⟩
      rintro _ ⟨⟩
      exact (connGiven_eq fits valid parsed).2
  | _ => exact ⟨address, port, maxConn⟩

end ByeDpiConfig.Sets

/-! ### What it does on the groups -/

/-- Behind a part only the TTL and the auto level are written if there is no other group. -/
theorem swaps_behind_part (part : o.1.demode.isSome = true) (typed : o.1.isGroupTyped = true) :
    ∀ a ∈ valueOptions .ttl (config.fakeTtl.map toString) ++
      valueOptions .autoMode config.autoMode, Swaps host.stepGroups a o := by
  obtain ⟨opt, value⟩ := o
  have limitless : opt.isLimit = false := by cases opt <;> cases typed <;> rfl
  intro a member
  obtain ⟨opt', value'⟩ := a
  have behind : opt' = .ttl ∨ opt' = .autoMode :=
    (List.mem_append.mp member).imp mem_valueOptions mem_valueOptions
  refine stepGroups_swaps (groupClash_eq_false ?_ ?_ (.inl ?_) (.inr ?_)) limitless
  · rcases behind with rfl | rfl <;> exact nofun
  · rintro rfl
    cases part
  · rcases behind with rfl | rfl <;> rfl
  · refine if_neg ?_
    rintro rfl
    cases part

theorem stepGroups_ttl (groups : Groups) (ttl : o.1 = .ttl) :
    host.stepGroups groups o = orInvalid o (number 1 255 (chars o)) >>= fun val =>
      .ok { groups with dp := { groups.dp with ttl := val } } := by
  obtain ⟨opt, text⟩ := o
  cases ttl
  rw [stepGroups_of_ne_auto (by simp), CiadpiHost.stepDp, stepParts_idle rfl,
    stepGroupTtl, if_pos rfl]
  cases number 1 255 (chars (CiadpiOpt.ttl, text)) <;> rfl

/-- A number is written anew. -/
theorem simulates_ttl {n : Nat} (agrees : agrees u8Max (.ttl, some value) = true)
    (parsed : parseUnsigned u8Max value = some n) :
    Simulates host.stepGroups [(.ttl, some value)] [(.ttl, some (toString n))] := by
  intro groups last ended
  obtain ⟨_, step, ⟨⟩⟩ := cons_eq_ok.mp ended
  rw [stepGroups_ttl _ rfl] at step
  obtain ⟨val, read, same⟩ := bind_eq_ok.mp step
  obtain ⟨rfl, positive, small⟩ := number_of_agrees 255 agrees parsed (orInvalid_eq_ok.mp read)
  refine cons_eq_ok.mpr ⟨_, ?_, rfl⟩
  rw [stepGroups_ttl _ rfl]
  exact bind_eq_ok.mpr
    ⟨n, orInvalid_eq_ok.mpr (number_toString (by decide) positive small), same⟩

/-- The TTL behind the parts, in the place of the one before. -/
theorem simulates_ttl_behind (config : ByeDpiConfig) (n : Nat) :
    Simulates host.stepGroups
      (valueOptions .ttl (config.fakeTtl.map toString) ++
        valueOptions .autoMode config.autoMode ++ [(.ttl, some (toString n))])
      ((.ttl, some (toString n)) :: valueOptions .autoMode config.autoMode) := by
  have swaps : ∀ a ∈ valueOptions .autoMode config.autoMode,
      Swaps host.stepGroups a (.ttl, some (toString n)) := by
    intro a member
    have mode := mem_valueOptions member
    refine stepGroups_swaps (groupClash_eq_false ?_ nofun (.inr rfl) (.inl (if_neg ?_))) rfl <;>
      rw [mode] <;> exact nofun
  cases config.fakeTtl with
  | none => exact simulates_swaps swaps
  | some m =>
      refine simulates_undoes ?_ swaps
      intro groups groups₁ groups₂ first second
      rw [stepGroups_ttl _ rfl] at first second ⊢
      obtain ⟨val, _, ⟨⟩⟩ := bind_eq_ok.mp first
      exact second

theorem stepGroups_autoMode (groups : Groups) (mode : o.1 = .autoMode) :
    host.stepGroups groups o =
      orInvalid o ((letters autoLevelBit 0 (chars o)).map (groups.dp.autoLevel ||| ·)) >>=
        fun level => .ok { groups with dp := { groups.dp with autoLevel := level } } := by
  obtain ⟨opt, text⟩ := o
  cases mode
  rw [stepGroups_of_ne_auto (by simp), CiadpiHost.stepDp, stepParts_idle rfl, stepGroupTtl,
    if_neg (by simp), stepAutoLevel_eq _ rfl]
  cases letters autoLevelBit 0 (chars (CiadpiOpt.autoMode, text)) <;> rfl

/-- Levels that are named once more need not be named before. -/
theorem undoes_autoMode {text : String} (covered : levels text ||| levels value = levels value)
    (groups groups₁ groups₂ : Groups)
    (first : host.stepGroups groups (.autoMode, some text) = .ok groups₁)
    (second : host.stepGroups groups₁ (.autoMode, some value) = .ok groups₂) :
    host.stepGroups groups (.autoMode, some value) = .ok groups₂ := by
  rw [stepGroups_autoMode _ rfl] at first second ⊢
  obtain ⟨level, read, ⟨⟩⟩ := bind_eq_ok.mp first
  obtain ⟨level', read', ⟨⟩⟩ := bind_eq_ok.mp second
  obtain ⟨bits, found, rfl⟩ := Option.map_eq_some_iff.mp (orInvalid_eq_ok.mp read)
  obtain ⟨bits', found', rfl⟩ := Option.map_eq_some_iff.mp (orInvalid_eq_ok.mp read')
  have covered : bits ||| bits' = bits' := by
    have here : levels text = bits := by rw [levels]; exact congrArg (Option.getD · 0) found
    have there : levels value = bits' := by rw [levels]; exact congrArg (Option.getD · 0) found'
    rwa [here, there] at covered
  refine bind_eq_ok.mpr ⟨groups.dp.autoLevel ||| bits', orInvalid_eq_ok.mpr ?_, ?_⟩
  · rw [found']
    rfl
  · rw [Nat.or_assoc, covered]

theorem simulates_autoMode {port : Option Nat}
    (fits : config.fits port (.autoMode, some value) = true) :
    Simulates host.stepGroups (valueOptions .autoMode config.autoMode ++ [(.autoMode, some value)])
      [(.autoMode, some value)] := by
  cases old : config.autoMode with
  | none => exact Simulates.refl _
  | some text =>
      have covered : levels text ||| levels value = levels value := by
        simpa [ByeDpiConfig.fits, old] using fits
      exact simulates_undoes (undoes_autoMode covered) nofun

/-- The options that are written do what the ones before do, and this one behind them. -/
theorem ByeDpiConfig.Sets.groups {port : Option Nat} (sets : config.Sets value opt config')
    (fits : config.fits port (opt, some value) = true) :
    Simulates host.stepGroups (config.groupOptions ++ [(opt, some value)])
      config'.groupOptions := by
  cases sets with
  | ip => exact simulates_idle (stepGroups_idle rfl)
  | port => exact simulates_idle (stepGroups_idle rfl)
  | maxConn => exact simulates_idle (stepGroups_idle rfl)
  | split =>
      simp only [ByeDpiConfig.fits, Bool.and_eq_true, Option.isNone_iff_eq_none] at fits
      obtain ⟨⟨⟨split, disorder⟩, fake⟩, auto⟩ := fits
      simp only [groupOptions, split, disorder, fake, auto]
      exact simulates_swaps (swaps_behind_part rfl rfl)
  | disorder =>
      simp only [ByeDpiConfig.fits, Bool.and_eq_true, Option.isNone_iff_eq_none] at fits
      obtain ⟨⟨disorder, fake⟩, auto⟩ := fits
      simp only [groupOptions, disorder, fake, auto]
      exact simulates_behind (simulates_swaps (swaps_behind_part rfl rfl))
  | fake =>
      simp only [ByeDpiConfig.fits, Bool.and_eq_true, Option.isNone_iff_eq_none] at fits
      obtain ⟨fake, auto⟩ := fits
      simp only [groupOptions, fake, auto]
      exact simulates_behind (simulates_behind (simulates_swaps (swaps_behind_part rfl rfl)))
  | ttl parsed =>
      simp only [ByeDpiConfig.fits, Bool.and_eq_true, Option.isNone_iff_eq_none] at fits
      obtain ⟨auto, agrees⟩ := fits
      refine ((Simulates.refl _).append (simulates_ttl agrees parsed)).trans ?_
      simp only [groupOptions, auto]
      exact simulates_behind (simulates_behind (simulates_behind (simulates_ttl_behind _ _)))
  | auto =>
      simp only [ByeDpiConfig.fits, Bool.and_eq_true, Option.isNone_iff_eq_none] at fits
      obtain ⟨auto, mode⟩ := fits
      simp only [groupOptions, auto, mode]
      simpa [valueOptions] using Simulates.refl _
  | autoMode =>
      exact simulates_behind (simulates_behind (simulates_behind (simulates_behind
        (simulates_behind (simulates_autoMode fits)))))

end ZonDpi.Engine
