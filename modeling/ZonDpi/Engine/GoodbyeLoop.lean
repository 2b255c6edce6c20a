import ZonDpi.Engine.GoodbyeConfig

/-!
The loop of `GoodbyeConfig::from_profile`.

What the loop does at each kind of argument is said here once: the equations
`readArgs_flag`, `readArgs_value` and `readArgs_pass`, which arguments it passes through
(`readArgs_customArgs`), and what holds of every configuration it can lead to
(`readArgs_invariant`).
-/

namespace ZonDpi.Engine.GoodbyeConfig

open Reader ZonDpi.Std

/-- `from_profile` does not know the argument. -/
def passesThrough (arg : String) : Bool :=
  arg ≠ "--auto-ttl" && (flagOption arg).isNone && (valueOption arg).isNone

/-- The arguments that are passed through. -/
def passed : List String → List String := Reader.passed kind

def withoutDns (config : GoodbyeConfig) : GoodbyeConfig :=
  { config with dnsAddr := none, dnsPort := none, dnsv6Addr := none, dnsv6Port := none }

variable {config config' : GoodbyeConfig} {arg value : String} {args rest : List String}
  {set : GoodbyeConfig → GoodbyeConfig}
  {read : GoodbyeConfig → String → Except GoodbyeAdapterError GoodbyeConfig}

/-! ### One argument -/

theorem kind_alone_iff :
    kind arg = .alone set ↔ arg ≠ "--auto-ttl" ∧ flagOption arg = some set := by
  unfold kind
  split_ifs with auto
  · simp [auto]
  · cases flagOption arg <;> cases valueOption arg <;> simp [auto]

theorem kind_value_iff : kind arg = .value read ↔
    arg ≠ "--auto-ttl" ∧ flagOption arg = none ∧ valueOption arg = some read := by
  unfold kind
  split_ifs with auto
  · simp [auto]
  · cases flagOption arg <;> cases valueOption arg <;> simp [auto]

theorem passesThrough_iff : passesThrough arg = true ↔
    arg ≠ "--auto-ttl" ∧ flagOption arg = none ∧ valueOption arg = none := by
  simp [passesThrough, and_assoc]

theorem kind_other_iff : kind arg = .other ↔ passesThrough arg = true := by
  rw [passesThrough_iff]
  unfold kind
  split_ifs with auto
  · simp [auto]
  · cases flagOption arg <;> cases valueOption arg <;> simp [auto]

theorem kind_optional {put : GoodbyeConfig → String → GoodbyeConfig} {isValue : String → Bool}
    {fallback : String} (optional : kind arg = .optional put isValue fallback) :
    put = withAutoTtl ∧ isValue = dashless ∧ fallback = "1-4-10" := by
  unfold kind at optional
  split_ifs at optional with auto
  · cases optional
    exact ⟨rfl, rfl, rfl⟩
  · cases flag : flagOption arg <;> cases option : valueOption arg <;>
      simp [flag, option] at optional

section Equations

variable (other : arg ≠ "--auto-ttl")

include other

theorem readArgs_flag (flag : flagOption arg = some set) :
    readArgs config (arg :: rest) = readArgs (set config) rest :=
  loop_alone (kind_alone_iff.mpr ⟨other, flag⟩)

theorem passed_flag (flag : flagOption arg = some set) : passed (arg :: rest) = passed rest :=
  passed_alone (kind_alone_iff.mpr ⟨other, flag⟩)

variable (flag : flagOption arg = none)

include flag

theorem readArgs_value (option : valueOption arg = some read)
    (ok : read config value = .ok config') :
    readArgs config (arg :: value :: rest) = readArgs config' rest :=
  loop_value (kind_value_iff.mpr ⟨other, flag, option⟩) ok

theorem readArgs_error {e : GoodbyeAdapterError} (option : valueOption arg = some read)
    (failed : read config value = .error e) :
    readArgs config (arg :: value :: rest) = .error e :=
  loop_error (kind_value_iff.mpr ⟨other, flag, option⟩) failed

theorem readArgs_lacking (option : valueOption arg = some read) :
    readArgs config [arg] = .ok config :=
  loop_lacking (kind_value_iff.mpr ⟨other, flag, option⟩)

theorem passed_value (option : valueOption arg = some read) :
    passed (arg :: value :: rest) = passed rest :=
  Reader.passed_value (kind_value_iff.mpr ⟨other, flag, option⟩)

variable (option : valueOption arg = none)

include option

theorem readArgs_pass : readArgs config (arg :: rest) = readArgs (config.pass arg) rest :=
  loop_other (kind_other_iff.mpr (passesThrough_iff.mpr ⟨other, flag, option⟩))

theorem passed_pass : passed (arg :: rest) = arg :: passed rest :=
  passed_other (kind_other_iff.mpr (passesThrough_iff.mpr ⟨other, flag, option⟩))

end Equations

section AutoTtl

variable (begins : value.toList.head? ≠ some '-')

include begins

theorem readArgs_auto :
    readArgs config ("--auto-ttl" :: value :: rest) = readArgs (config.withAutoTtl value) rest :=
  loop_optional rfl (decide_eq_true begins)

theorem passed_auto : passed ("--auto-ttl" :: value :: rest) = passed rest :=
  passed_optional rfl (decide_eq_true begins)

end AutoTtl

section AutoTtlAlone

variable (dash : value.toList.head? = some '-')

include dash

theorem readArgs_auto_alone : readArgs config ("--auto-ttl" :: value :: rest) =
    readArgs (config.withAutoTtl "1-4-10") (value :: rest) :=
  loop_fallback rfl (decide_eq_false (not_not.mpr dash))

theorem passed_auto_alone :
    passed ("--auto-ttl" :: value :: rest) = passed (value :: rest) :=
  passed_fallback rfl (decide_eq_false (not_not.mpr dash))

end AutoTtlAlone

/-! ### The whole list -/

theorem foldl_pass (config : GoodbyeConfig) (args : List String) :
    args.foldl pass config = { config with customArgs := config.customArgs ++ args } := by
  induction args generalizing config with
  | nil => simp
  | cons arg args ih => simp [ih, pass]

theorem readArgs_passed (all : args.all passesThrough = true) :
    readArgs config args = .ok { config with customArgs := config.customArgs ++ args } := by
  rw [List.all_eq_true] at all
  rw [readArgs, loop_passed fun arg member => kind_other_iff.mpr (all arg member), foldl_pass]

/-- A property that every kind of argument keeps holds of the configuration at the end. -/
theorem readArgs_invariant (Inv : GoodbyeConfig → Prop)
    (auto : ∀ config value, value.toList.head? ≠ some '-' → Inv config →
      Inv (config.withAutoTtl value))
    (flag : ∀ config arg set, flagOption arg = some set → Inv config → Inv (set config))
    (value : ∀ config arg read value config', valueOption arg = some read →
      read config value = .ok config' → Inv config → Inv config')
    (pass : ∀ config arg, passesThrough arg = true → Inv config → Inv (config.pass arg))
    (ok : readArgs config args = .ok config') (inv : Inv config) : Inv config' := by
  refine loop_invariant Inv ?_ ok inv
  intro config item next of here inv
  cases item with
  | alone arg set =>
      exact Except.ok.inj here ▸ flag config arg set (kind_alone_iff.mp of).2 inv
  | value arg read text => exact value config arg read text next (kind_value_iff.mp of).2.2 here inv
  | optional arg put text =>
      obtain ⟨isValue, fallback, optional, serves⟩ := of
      obtain ⟨rfl, rfl, rfl⟩ := kind_optional optional
      cases here
      rcases serves with begins | rfl
      · exact auto config text (of_decide_eq_true begins) inv
      · exact auto config "1-4-10" (by decide) inv
  | other arg => exact Except.ok.inj here ▸ pass config arg (kind_other_iff.mp of) inv

theorem flagOption_customArgs {arg : String} {set : GoodbyeConfig → GoodbyeConfig}
    (flag : flagOption arg = some set) : (set config).customArgs = config.customArgs := by
  unfold flagOption at flag
  split at flag <;> cases flag <;> rfl

theorem valueOption_customArgs {arg value : String}
    {read : GoodbyeConfig → String → Except GoodbyeAdapterError GoodbyeConfig}
    (option : valueOption arg = some read) (ok : read config value = .ok config') :
    config'.customArgs = config.customArgs := by
  unfold valueOption at option
  split at option <;> cases option <;>
    simp only [parseNumber_map_eq_ok, Except.ok.injEq] at ok
  all_goals
    obtain ⟨n, parsed, rfl⟩ := ok
    rfl

theorem readArgs_customArgs (ok : readArgs config args = .ok config') :
    config'.customArgs = config.customArgs ++ passed args := by
  refine loop_collects GoodbyeConfig.customArgs ?_ ok
  intro config item next of here
  cases item with
  | alone arg set =>
      cases here
      rw [flagOption_customArgs (kind_alone_iff.mp of).2]
      exact (List.append_nil _).symm
  | value arg read text =>
      rw [valueOption_customArgs (kind_value_iff.mp of).2.2 here]
      exact (List.append_nil _).symm
  | optional arg put text =>
      obtain ⟨isValue, fallback, optional, _⟩ := of
      obtain ⟨rfl, -, -⟩ := kind_optional optional
      cases here
      exact (List.append_nil _).symm
  | other arg =>
      cases here
      rfl

/-! ### The profile -/

/-- The arguments decide nothing about the engine. -/
theorem fromProfile_arguments {profile : ProfileDefinition}
    (accepted : fromProfile profile = .ok config) (args : List String) :
    fromProfile { profile with arguments := args } = readArgs default args :=
  readProfile_arguments accepted args

theorem fromProfile_eq_ok {profile : ProfileDefinition}
    (accepted : fromProfile profile = .ok config) :
    readArgs default profile.arguments = .ok config :=
  (fromProfile_arguments accepted profile.arguments).symm.trans accepted

end ZonDpi.Engine.GoodbyeConfig
