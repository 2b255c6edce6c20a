import ZonDpi.Engine.Arguments
import ZonDpi.Engine.Types
import ZonDpi.Supervisor.Process

/-!
`GoodbyeConfig` (`engine_adapter/goodbye.rs`): the typed form of a GoodbyeDPI
profile, read from the profile's arguments and written back as a command line.

Every argument is of one of four kinds: a flag or modeset, which changes the
configuration on its own (`flagOption`); an option that takes the next argument
as its value (`valueOption`); `--auto-ttl`, which takes the next argument unless
that begins with a dash; anything else, which is passed through.
-/

namespace ZonDpi.Engine

open ZonDpi.Std ZonDpi.Supervisor

inductive GoodbyeAdapterError where
  | engineMismatch (target : String)
  | binaryNotFound (message : String)
  | driverDependencyMissing (message : String)
  | supervisor (error : SupervisorError)
  | invalidArgument (message : String)
deriving DecidableEq, Repr

def GoodbyeAdapterError.display : GoodbyeAdapterError → String
  | .engineMismatch target =>
      s!"Profile target engine mismatch: expected 'goodbye', got '{target}'"
  | .binaryNotFound message => s!"Failed to resolve GoodbyeDPI worker binary: {message}"
  | .driverDependencyMissing message =>
      s!"WinDivert driver or DLL dependency missing: {message}"
  | .supervisor error => s!"Process supervisor error: {error.display}"
  | .invalidArgument message => s!"Invalid argument in profile: {message}"

/-! ### The configuration -/

structure GoodbyeConfig where
  blockPassiveDpi : Bool
  blockQuic : Bool
  replaceHost : Bool
  removeSpace : Bool
  mixHostCase : Bool
  httpFragSize : Option Nat
  httpsFragSize : Option Nat
  autoTtl : Option String
  setTtl : Option Nat
  minTtl : Option Nat
  wrongSeq : Bool
  wrongChksum : Bool
  nativeFrag : Bool
  reverseFrag : Bool
  maxPayload : Option Nat
  dnsAddr : Option String
  dnsPort : Option Nat
  dnsv6Addr : Option String
  dnsv6Port : Option Nat
  customArgs : List String
deriving DecidableEq, Repr

namespace GoodbyeConfig

def default : GoodbyeConfig where
  blockPassiveDpi := false
  blockQuic := false
  replaceHost := false
  removeSpace := false
  mixHostCase := false
  httpFragSize := none
  httpsFragSize := none
  autoTtl := none
  setTtl := none
  minTtl := none
  wrongSeq := false
  wrongChksum := false
  nativeFrag := false
  reverseFrag := false
  maxPayload := none
  dnsAddr := none
  dnsPort := none
  dnsv6Addr := none
  dnsv6Port := none
  customArgs := []

/-! ### Reading arguments -/

/-- Fragmentation and payload limit, which the modesets -5 to -9 share. -/
def fragmented (config : GoodbyeConfig) : GoodbyeConfig :=
  { config with httpFragSize := some 2, httpsFragSize := some 2, nativeFrag := true,
                reverseFrag := true, maxPayload := some 1200 }

/-- Arguments that stand alone. -/
def flagOption : String → Option (GoodbyeConfig → GoodbyeConfig)
  | "-p" => some fun config => { config with blockPassiveDpi := true }
  | "-q" => some fun config => { config with blockQuic := true }
  | "-r" => some fun config => { config with replaceHost := true }
  | "-s" => some fun config => { config with removeSpace := true }
  | "-m" => some fun config => { config with mixHostCase := true }
  | "--wrong-seq" => some fun config => { config with wrongSeq := true }
  | "--wrong-chksum" => some fun config => { config with wrongChksum := true }
  | "--native-frag" => some fun config => { config with nativeFrag := true }
  | "--reverse-frag" => some fun config => { config with reverseFrag := true }
  | "-1" => some fun config =>
      { config with blockPassiveDpi := true, replaceHost := true, removeSpace := true,
                    httpFragSize := some 2, httpsFragSize := some 2 }
  | "-5" => some fun config =>
      { config.fragmented with autoTtl := some "1-4-10", setTtl := none, wrongSeq := false,
                               wrongChksum := false, blockQuic := false }
  | "-6" => some fun config => { config.fragmented with wrongSeq := true }
  | "-7" => some fun config => { config.fragmented with wrongChksum := true }
  | "-8" => some fun config => { config.fragmented with wrongSeq := true, wrongChksum := true }
  | "-9" => some fun config =>
      { config.fragmented with wrongSeq := true, wrongChksum := true, blockQuic := true }
  | _ => none

abbrev parseValue : Nat → String → String → Except GoodbyeAdapterError Nat :=
  parseNumber .invalidArgument

/-- Arguments whose value is the argument after them. -/
def valueOption :
    String → Option (GoodbyeConfig → String → Except GoodbyeAdapterError GoodbyeConfig)
  | "-f" => some fun config value =>
      (parseValue u16Max "Invalid HTTP fragmentation size" value).map fun n =>
        { config with httpFragSize := some n }
  | "-e" => some fun config value =>
      (parseValue u16Max "Invalid HTTPS fragmentation size" value).map fun n =>
        { config with httpsFragSize := some n }
  | "--set-ttl" => some fun config value =>
      (parseValue u8Max "Invalid set-ttl value" value).map fun n =>
        { config with setTtl := some n, autoTtl := none }
  | "--min-ttl" => some fun config value =>
      (parseValue u8Max "Invalid min-ttl value" value).map fun n =>
        { config with minTtl := some n }
  | "--max-payload" => some fun config value =>
      (parseValue u32Max "Invalid max-payload value" value).map fun n =>
        { config with maxPayload := some n }
  | "--dns-addr" => some fun config value => .ok { config with dnsAddr := some value }
  | "--dns-port" => some fun config value =>
      (parseValue u16Max "Invalid dns-port" value).map fun n =>
        { config with dnsPort := some n }
  | "--dnsv6-addr" => some fun config value => .ok { config with dnsv6Addr := some value }
  | "--dnsv6-port" => some fun config value =>
      (parseValue u16Max "Invalid dnsv6-port" value).map fun n =>
        { config with dnsv6Port := some n }
  | _ => none

def withAutoTtl (config : GoodbyeConfig) (value : String) : GoodbyeConfig :=
  { config with autoTtl := some value, setTtl := none }

def dashless (value : String) : Bool := value.toList.head? ≠ some '-'

/-- What an argument is to `from_profile`. -/
def kind (arg : String) : Reader.Kind GoodbyeConfig String GoodbyeAdapterError :=
  if arg = "--auto-ttl" then .optional withAutoTtl dashless "1-4-10"
  else
    match flagOption arg with
    | some set => .alone set
    | none =>
        match valueOption arg with
        | some read => .value read
        -- the names the source excludes here have been handled above
        | none => .other

def pass (config : GoodbyeConfig) (arg : String) : GoodbyeConfig :=
  { config with customArgs := config.customArgs ++ [arg] }

/-- The loop of `from_profile`. An option at the end of the list that lacks its
value is dropped. -/
def readArgs : GoodbyeConfig → List String → Except GoodbyeAdapterError GoodbyeConfig :=
  Reader.loop kind pass

def fromProfile : ProfileDefinition → Except GoodbyeAdapterError GoodbyeConfig :=
  readProfile "goodbye" "goodbyedpi" .engineMismatch (readArgs default)

/-! ### The command line -/

def toCommandArgsFiltered (config : GoodbyeConfig) (includeDnsRedirect : Bool) : List String :=
  flagArg "-p" config.blockPassiveDpi ++ flagArg "-q" config.blockQuic ++
    flagArg "-r" config.replaceHost ++ flagArg "-s" config.removeSpace ++
    flagArg "-m" config.mixHostCase ++ numberArg "-f" config.httpFragSize ++
    numberArg "-e" config.httpsFragSize ++ flagArg "--native-frag" config.nativeFrag ++
    flagArg "--reverse-frag" config.reverseFrag ++ flagArg "--wrong-seq" config.wrongSeq ++
    flagArg "--wrong-chksum" config.wrongChksum ++
    -- never both
    (match config.setTtl with
      | some ttl => ["--set-ttl", toString ttl]
      | none => textArg "--auto-ttl" config.autoTtl) ++
    numberArg "--min-ttl" config.minTtl ++ numberArg "--max-payload" config.maxPayload ++
    (if includeDnsRedirect then
      textArg "--dns-addr" config.dnsAddr ++ numberArg "--dns-port" config.dnsPort ++
        textArg "--dnsv6-addr" config.dnsv6Addr ++ numberArg "--dnsv6-port" config.dnsv6Port
    else []) ++
    config.customArgs

def toCommandArgs (config : GoodbyeConfig) : List String := config.toCommandArgsFiltered true

end GoodbyeConfig

end ZonDpi.Engine
