import ZonDpi.Engine.ByeDpiConfig

/-!
The loop of `ByeDpiConfig::from_profile`: what it does at an option with its value and at
an argument it passes through, which arguments those are, and what holds of every
configuration it can lead to.
-/

namespace ZonDpi.Engine.ByeDpiConfig

open Reader ZonDpi.Std

/-- The arguments that are passed through. -/
def passed : List String → List String := Reader.passed kind

/-- The values of the options with these names. -/
def valuesOf (names : List String) : List String → List String := values kind (· ∈ names)

variable {config config' : ByeDpiConfig} {arg value : String} {args rest : List String}
  {read : ByeDpiConfig → String → Except ByeDpiAdapterError ByeDpiConfig}

/-! ### One argument -/

theorem kind_value_iff : kind arg = .value read ↔ valueOption arg = some read := by
  unfold kind
  cases valueOption arg <;> simp

theorem kind_other_iff : kind arg = .other ↔ valueOption arg = none := by
  unfold kind
  cases valueOption arg <;> simp

/-- Every item is an option with its value, or it is passed through. -/
theorem item_cases {item : Item ByeDpiConfig String ByeDpiAdapterError} (of : item.Of kind) :
    (∃ arg read text, item = .value arg read text ∧ valueOption arg = some read) ∨
      ∃ arg, item = .other arg ∧ valueOption arg = none := by
  cases item with
  | value arg read text => exact .inl ⟨arg, read, text, rfl, kind_value_iff.mp of⟩
  | other arg => exact .inr ⟨arg, rfl, kind_other_iff.mp of⟩
  | alone arg set =>
      simp only [Item.Of, kind] at of
      split at of <;> cases of
  | optional arg set text =>
      obtain ⟨isValue, fallback, is, _⟩ := of
      unfold kind at is
      split at is <;> cases is

theorem readArgs_value (option : valueOption arg = some read)
    (ok : read config value = .ok config') :
    readArgs config (arg :: value :: rest) = readArgs config' rest :=
  loop_value (kind_value_iff.mpr option) ok

theorem readArgs_error {e : ByeDpiAdapterError} (option : valueOption arg = some read)
    (failed : read config value = .error e) :
    readArgs config (arg :: value :: rest) = .error e :=
  loop_error (kind_value_iff.mpr option) failed

theorem passed_value (option : valueOption arg = some read) :
    passed (arg :: value :: rest) = passed rest :=
  Reader.passed_value (kind_value_iff.mpr option)

theorem readArgs_pass (option : valueOption arg = none) :
    readArgs config (arg :: rest) = readArgs (config.pass arg) rest :=
  loop_other (kind_other_iff.mpr option)

theorem passed_pass (option : valueOption arg = none) :
    passed (arg :: rest) = arg :: passed rest :=
  passed_other (kind_other_iff.mpr option)

/-- What an option with its value does to the fields that are looked at below. -/
theorem valueOption_fields (option : valueOption arg = some read)
    (ok : read config value = .ok config') :
    config'.customArgs = config.customArgs ∧
      config'.listenIp = (if arg ∈ ["-i", "--ip"] then value else config.listenIp) ∧
      config'.autoParams = (if arg ∈ ["-A", "--auto"] then some value else config.autoParams) := by
  unfold valueOption at option
  split at option <;> cases option <;>
    simp only [parseNumber_map_eq_ok, Except.ok.injEq] at ok
  -- the address, in its two spellings
  iterate 2
    · split_ifs at ok
      cases ok
      exact ⟨rfl, rfl, rfl⟩
  all_goals
    obtain ⟨n, parsed, rfl⟩ := ok
    exact ⟨rfl, rfl, rfl⟩

/-! ### The whole list -/

theorem foldl_pass (config : ByeDpiConfig) (args : List String) :
    args.foldl pass config = { config with customArgs := config.customArgs ++ args } := by
  induction args generalizing config with
  | nil => simp
  | cons arg args ih => simp [ih, pass]

theorem readArgs_passed (all : ∀ arg ∈ args, valueOption arg = none) :
    readArgs config args = .ok { config with customArgs := config.customArgs ++ args } := by
  rw [readArgs, loop_passed fun arg member => kind_other_iff.mpr (all arg member), foldl_pass]

/-- A property that every kind of argument keeps holds of the configuration at the end. -/
theorem readArgs_invariant (Inv : ByeDpiConfig → Prop)
    (value : ∀ config arg read value config', valueOption arg = some read →
      read config value = .ok config' → Inv config → Inv config')
    (pass : ∀ config arg, valueOption arg = none → Inv config → Inv (config.pass arg))
    (ok : readArgs config args = .ok config') (inv : Inv config) : Inv config' := by
  refine loop_invariant Inv ?_ ok inv
  intro config item next of here inv
  rcases item_cases of with ⟨arg, read, text, rfl, option⟩ | ⟨arg, rfl, option⟩
  · exact value config arg read text next option here inv
  · exact Except.ok.inj here ▸ pass config arg option inv

theorem readArgs_customArgs (ok : readArgs config args = .ok config') :
    config'.customArgs = config.customArgs ++ passed args := by
  refine loop_collects ByeDpiConfig.customArgs ?_ ok
  intro config item next of here
  rcases item_cases of with ⟨arg, read, text, rfl, option⟩ | ⟨arg, rfl, option⟩
  · rw [(valueOption_fields option here).1]
    exact (List.append_nil _).symm
  · cases here
    rfl

/-- A field holds the last value of the options that set it. -/
theorem readArgs_field {α : Type} (field : ByeDpiConfig → α) (names : List String)
    (set : String → α) (pass : ∀ config arg, field (pass config arg) = field config)
    (sets : ∀ config arg read value config', valueOption arg = some read →
      read config value = .ok config' →
        field config' = if arg ∈ names then set value else field config)
    (ok : readArgs config args = .ok config') :
    field config' = ((valuesOf names args).getLast?.map set).getD (field config) := by
  refine loop_field field set ?_ ok
  intro config item next of here
  rcases item_cases of with ⟨arg, read, text, rfl, option⟩ | ⟨arg, rfl, option⟩
  · rw [sets config arg read text next option here, Item.valueOf?]
    by_cases named : arg ∈ names <;> simp [named]
  · exact Except.ok.inj here ▸ pass config arg

/-- The address is never the text that the service refuses. -/
theorem valuesOf_ip_secure (ok : readArgs config args = .ok config') :
    ∀ value ∈ valuesOf ["-i", "--ip"] args, value ≠ "0.0.0.0" := by
  refine loop_values (· ≠ "0.0.0.0") ?_ ok
  rintro config arg read _ next valued named accepted rfl
  have insecure : read config "0.0.0.0" = .error .insecureBinding := by
    have option := kind_value_iff.mp valued
    simp only [List.mem_cons, List.not_mem_nil, or_false, decide_eq_true_eq] at named
    rcases named with rfl | rfl <;> cases option <;> rfl
  rw [insecure] at accepted
  cases accepted

theorem readArgs_listenIp (ok : readArgs config args = .ok config') :
    config'.listenIp = ((valuesOf ["-i", "--ip"] args).getLast?).getD config.listenIp := by
  have field := readArgs_field ByeDpiConfig.listenIp ["-i", "--ip"] id (fun _ _ => rfl) ?_ ok
  · rwa [Option.map_id] at field
  · intro config arg read value config' option accepted
    exact (valueOption_fields option accepted).2.1

theorem readArgs_autoParams (ok : readArgs config args = .ok config') :
    config'.autoParams =
      ((valuesOf ["-A", "--auto"] args).getLast?.map some).getD config.autoParams := by
  refine readArgs_field ByeDpiConfig.autoParams ["-A", "--auto"] some (fun _ _ => rfl) ?_ ok
  intro config arg read value config' option accepted
  exact (valueOption_fields option accepted).2.2

/-! ### The profile -/

/-- The arguments decide nothing about the engine. -/
theorem fromProfile_arguments {profile : ProfileDefinition}
    (accepted : fromProfile profile = .ok config) (args : List String) :
    fromProfile { profile with arguments := args } = readArgs default args :=
  readProfile_arguments accepted args

theorem fromProfile_eq_ok {profile : ProfileDefinition}
    (accepted : fromProfile profile = .ok config) :
    readArgs default profile.arguments = .ok config :=
  (fromProfile_arguments accepted profile.arguments).symm.trans accepted

end ZonDpi.Engine.ByeDpiConfig
