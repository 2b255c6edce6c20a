import ZonDpi.Engine.GoodbyeConfig

/-!
`ByeDpiConfig` (`engine_adapter/byedpi.rs`): the typed form of a ByeDPI profile.
Every known option takes the next argument as its value.
-/

namespace ZonDpi.Engine

open ZonDpi.Std ZonDpi.Supervisor

inductive ByeDpiAdapterError where
  | engineMismatch (target : String)
  | binaryNotFound (message : String)
  | portAlreadyInUse (port : Nat)
  | supervisor (error : SupervisorError)
  | invalidArgument (message : String)
  | insecureBinding
deriving DecidableEq, Repr

def ByeDpiAdapterError.display : ByeDpiAdapterError → String
  | .engineMismatch target =>
      s!"Profile target engine mismatch: expected 'byedpi', got '{target}'"
  | .binaryNotFound message =>
      s!"Failed to resolve ByeDPI (ciadpi) worker binary: {message}"
  | .portAlreadyInUse port => s!"SOCKS5 port {port} is already in use by another application"
  | .supervisor error => s!"Process supervisor error: {error.display}"
  | .invalidArgument message => s!"Invalid argument in profile: {message}"
  | .insecureBinding =>
      "Insecure configuration: binding to 0.0.0.0 is prohibited (must use 127.0.0.1)"

structure ByeDpiConfig where
  listenIp : String
  port : Nat
  maxConn : Option Nat
  splitPos : Option String
  disorderPos : Option String
  fakePos : Option String
  fakeTtl : Option Nat
  autoParams : Option String
  autoMode : Option String
  customArgs : List String
deriving DecidableEq, Repr

namespace ByeDpiConfig

def default : ByeDpiConfig where
  listenIp := "127.0.0.1"
  port := 1080
  maxConn := none
  splitPos := none
  disorderPos := none
  fakePos := none
  fakeTtl := none
  autoParams := none
  autoMode := none
  customArgs := []

abbrev parseValue : Nat → String → String → Except ByeDpiAdapterError Nat :=
  parseNumber .invalidArgument

/-- Arguments whose value is the argument after them. -/
def valueOption :
    String → Option (ByeDpiConfig → String → Except ByeDpiAdapterError ByeDpiConfig)
  | "-i" | "--ip" => some fun config value =>
      if value = "0.0.0.0" then .error .insecureBinding
      else .ok { config with listenIp := value }
  | "-p" | "--port" => some fun config value =>
      (parseValue u16Max "Invalid port number" value).map fun n => { config with port := n }
  | "-c" | "--max-conn" => some fun config value =>
      (parseValue u32Max "Invalid max-conn value" value).map fun n =>
        { config with maxConn := some n }
  | "-s" | "--split" => some fun config value => .ok { config with splitPos := some value }
  | "-d" | "--disorder" => some fun config value => .ok { config with disorderPos := some value }
  | "-f" | "--fake" => some fun config value => .ok { config with fakePos := some value }
  | "-t" | "--ttl" => some fun config value =>
      (parseValue u8Max "Invalid TTL value" value).map fun n => { config with fakeTtl := some n }
  | "-A" | "--auto" => some fun config value => .ok { config with autoParams := some value }
  | "-L" | "--auto-mode" => some fun config value => .ok { config with autoMode := some value }
  | _ => none

/-- What an argument is to `from_profile`. -/
def kind (arg : String) : Reader.Kind ByeDpiConfig String ByeDpiAdapterError :=
  match valueOption arg with
  | some read => .value read
  | none => .other

def pass (config : ByeDpiConfig) (arg : String) : ByeDpiConfig :=
  { config with customArgs := config.customArgs ++ [arg] }

/-- The loop of `from_profile`. -/
def readArgs : ByeDpiConfig → List String → Except ByeDpiAdapterError ByeDpiConfig :=
  Reader.loop kind pass

def fromProfile : ProfileDefinition → Except ByeDpiAdapterError ByeDpiConfig :=
  readProfile "byedpi" "ciadpi" .engineMismatch (readArgs default)

def toCommandArgs (config : ByeDpiConfig) : List String :=
  ["-i", config.listenIp, "-p", toString config.port] ++
    numberArg "-c" config.maxConn ++ textArg "-s" config.splitPos ++
    textArg "-d" config.disorderPos ++ textArg "-f" config.fakePos ++
    numberArg "-t" config.fakeTtl ++ textArg "-A" config.autoParams ++
    textArg "-L" config.autoMode ++ config.customArgs

end ByeDpiConfig

end ZonDpi.Engine
