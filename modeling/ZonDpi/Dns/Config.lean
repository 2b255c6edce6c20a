import Mathlib.Algebra.Ring.Nat
import Mathlib.Data.List.Basic
import Mathlib.Tactic.Tauto
import ZonDpi.Std.IpAddr

/-!
Data of the DNS override (`core/dns/src/lib.rs`): providers, adapter snapshots,
the persisted override state, and the validation every state passes before it is
written and after it is read.
-/

namespace ZonDpi.Dns

open ZonDpi.Std

def stateSchemaVersion : Nat := 1

def stateSourceIdentifier : String := "zondpi-service"

inductive DnsManagerError where
  | adapterNotFound (message : String)
  | ambiguousOutboundAdapter (message : String)
  | stateValidationFailed (message : String)
  | stateFileAccessDenied (message : String)
  | io (message : String)
  | json (message : String)
  | commandFailed (message : String)
deriving DecidableEq, Repr

def DnsManagerError.display : DnsManagerError → String
  | .adapterNotFound message => s!"Adapter error: {message}"
  | .ambiguousOutboundAdapter message => s!"Ambiguous outbound adapter: {message}"
  | .stateValidationFailed message => s!"DNS state validation failed: {message}"
  | .stateFileAccessDenied message => s!"DNS state file access error: {message}"
  | .io message => s!"I/O error: {message}"
  | .json message => s!"JSON error: {message}"
  | .commandFailed message => s!"Command execution error: {message}"

inductive DnsProvider where
  | automatic
  | cloudflare
  | google
  | quad9
  | system
deriving DecidableEq, Repr

namespace DnsProvider

def endpointsV4 : DnsProvider → List String
  | .automatic | .cloudflare => ["1.1.1.1", "1.0.0.1"]
  | .google => ["8.8.8.8", "8.8.4.4"]
  | .quad9 => ["9.9.9.9", "149.112.112.112"]
  | .system => []

def endpointsV6 : DnsProvider → List String
  | .automatic | .cloudflare => ["2606:4700:4700::1111", "2606:4700:4700::1001"]
  | .google => ["2001:4860:4860::8888", "2001:4860:4860::8844"]
  | .quad9 => ["2620:fe::fe", "2620:fe::9"]
  | .system => []

def shouldOverrideSystem : DnsProvider → Bool
  | .system => false
  | _ => true

end DnsProvider

/-! ### Field checks -/

def prohibitedChars : List Char :=
  ['"', '\'', ';', '|', '&', '$', '`', '<', '>', '\n', '\r', '\x00']

/-- Rust's `{:?}` of a character, as far as prohibited characters need it. -/
def debugChar (c : Char) : String :=
  let body :=
    if c = '\'' then "\\'"
    else if c = '\n' then "\\n"
    else if c = '\r' then "\\r"
    else if c = '\x00' then "\\0"
    else String.singleton c
  "'" ++ body ++ "'"

def validateCleanString (s fieldName : String) : Except DnsManagerError Unit :=
  if s.toList = [] then
    .error (.stateValidationFailed s!"Field '{fieldName}' cannot be empty")
  else
    match s.toList.find? (fun c => prohibitedChars.contains c) with
    | some c =>
        .error (.stateValidationFailed
          s!"Field '{fieldName}' contains prohibited character: {debugChar c}")
    | none => .ok ()

/-- `trim_matches` of braces. -/
def trimBraces (cs : List Char) : List Char :=
  let isBrace := fun c : Char => c == '\x7b' || c == '\x7d'
  ((cs.dropWhile isBrace).reverse.dropWhile isBrace).reverse

/-- Length of a text in UTF-8 bytes. -/
def byteLength (cs : List Char) : Nat := (cs.map Char.utf8Size).sum

def validateGuidFormat (guid : String) : Except DnsManagerError Unit :=
  let parts := (trimBraces guid.toList).splitOn '-'
  if parts.map byteLength ≠ [8, 4, 4, 4, 12] then
    .error (.stateValidationFailed s!"Malformed GUID format: {guid}")
  else if !parts.all (fun part => part.all (isDigitOf 16)) then
    .error (.stateValidationFailed s!"Non-hex character in GUID: {guid}")
  else .ok ()

/-- A check of an optional field. -/
def validateOptional (check : String → Except DnsManagerError Unit) :
    Option String → Except DnsManagerError Unit
  | none => .ok ()
  | some value => check value

/-- The family of each server of a list; the checks of snapshot and applied servers differ
in their texts only. -/
def validateServers (ofFamily : String → Bool) (label : String) (servers : List String) :
    Except DnsManagerError Unit :=
  match servers.find? (fun ip => !ofFamily ip) with
  | some ip => .error (.stateValidationFailed s!"{label}: {ip}")
  | none => .ok ()

theorem validateServers_eq_ok {ofFamily : String → Bool} {label : String} {servers : List String} :
    validateServers ofFamily label servers = .ok () ↔ ∀ ip ∈ servers, ofFamily ip = true := by
  unfold validateServers
  cases found : servers.find? (fun ip => !ofFamily ip) with
  | none => simpa using found
  | some ip =>
      have member := List.mem_of_find?_eq_some found
      have fails := List.find?_some found
      simp only [Bool.not_eq_true'] at fails
      constructor
      · intro impossible
        cases impossible
      · intro all
        exact absurd (all ip member) (by simp [fails])

def failIf (condition : Bool) (message : String) : Except DnsManagerError Unit :=
  if condition then .error (.stateValidationFailed message) else .ok ()

theorem failIf_eq_ok {condition : Bool} {message : String} :
    failIf condition message = .ok () ↔ condition = false := by
  cases condition <;> simp [failIf]

/-! ### Adapter snapshots -/

structure AdapterDnsConfig where
  interfaceIndex : Nat
  interfaceAlias : String
  interfaceGuid : Option String
  interfaceDescription : Option String
  isDhcpV4 : Bool
  isDhcpV6 : Bool
  ipv4Servers : List String
  ipv6Servers : List String
deriving DecidableEq, Repr

namespace AdapterDnsConfig

def validate (config : AdapterDnsConfig) : Except DnsManagerError Unit := do
  failIf (config.interfaceIndex == 0) "Interface index must be greater than 0"
  validateCleanString config.interfaceAlias "interface_alias"
  validateOptional (fun text => validateCleanString text "interface_description")
    config.interfaceDescription
  validateOptional validateGuidFormat config.interfaceGuid
  failIf (decide (config.ipv4Servers.length > 8)) "IPv4 server count exceeds limit (max 8)"
  validateServers isIpv4 "Invalid IPv4 server" config.ipv4Servers
  failIf (decide (config.ipv6Servers.length > 8)) "IPv6 server count exceeds limit (max 8)"
  validateServers isIpv6 "Invalid IPv6 server" config.ipv6Servers

/-- The configuration of the same adapter with static servers. -/
def withServers (config : AdapterDnsConfig) (v4 v6 : List String) : AdapterDnsConfig :=
  { config with isDhcpV4 := false, isDhcpV6 := false, ipv4Servers := v4, ipv6Servers := v6 }

@[simp] theorem withServers_interfaceIndex (config : AdapterDnsConfig) (v4 v6 : List String) :
    (config.withServers v4 v6).interfaceIndex = config.interfaceIndex := rfl

end AdapterDnsConfig

/-- A sequence of checks passes when each of them does. -/
theorem checks_eq_ok {ε β : Type} {check : Except ε Unit} {rest : Unit → Except ε β} {b : β} :
    (check >>= rest) = .ok b ↔ check = .ok () ∧ rest () = .ok b := by
  cases check with
  | error e => simp [bind, Except.bind]
  | ok passed => simp [bind, Except.bind]

/-- What an accepted snapshot satisfies. -/
theorem AdapterDnsConfig.validate_eq_ok {config : AdapterDnsConfig} :
    config.validate = .ok () ↔
      config.interfaceIndex ≠ 0 ∧
      validateCleanString config.interfaceAlias "interface_alias" = .ok () ∧
      validateOptional (fun text => validateCleanString text "interface_description")
        config.interfaceDescription = .ok () ∧
      validateOptional validateGuidFormat config.interfaceGuid = .ok () ∧
      config.ipv4Servers.length ≤ 8 ∧ (∀ ip ∈ config.ipv4Servers, isIpv4 ip = true) ∧
      config.ipv6Servers.length ≤ 8 ∧ (∀ ip ∈ config.ipv6Servers, isIpv6 ip = true) := by
  simp [validate, checks_eq_ok, failIf_eq_ok, validateServers_eq_ok]

/-! ### The persisted state -/

structure DnsOverrideState where
  schemaVersion : Nat
  source : String
  dnsOverrideActive : Bool
  timestampUtc : String
  interfaceIndex : Nat
  interfaceAlias : String
  interfaceGuid : Option String
  originalConfig : AdapterDnsConfig
  appliedV4Servers : List String
  appliedV6Servers : List String
  provider : DnsProvider
deriving DecidableEq, Repr

namespace DnsOverrideState

/-- The clock reads `none` before the epoch. -/
def new (clock : Option Nat) (original : AdapterDnsConfig) (appliedV4 appliedV6 : List String)
    (provider : DnsProvider) : DnsOverrideState where
  schemaVersion := stateSchemaVersion
  source := stateSourceIdentifier
  dnsOverrideActive := true
  timestampUtc := (clock.map toString).getD "0"
  interfaceIndex := original.interfaceIndex
  interfaceAlias := original.interfaceAlias
  interfaceGuid := original.interfaceGuid
  originalConfig := original
  appliedV4Servers := appliedV4
  appliedV6Servers := appliedV6
  provider := provider

def validate (state : DnsOverrideState) : Except DnsManagerError Unit := do
  failIf (state.schemaVersion != stateSchemaVersion)
    s!"Unsupported schema version {state.schemaVersion}; expected {stateSchemaVersion}"
  failIf (state.source != stateSourceIdentifier)
    s!"Invalid source identifier '{state.source}'; expected '{stateSourceIdentifier}'"
  failIf (state.interfaceIndex == 0) "Interface index must be greater than 0"
  validateCleanString state.interfaceAlias "interface_alias"
  validateOptional validateGuidFormat state.interfaceGuid
  state.originalConfig.validate
  failIf (decide (state.appliedV4Servers.length > 8 ∨ state.appliedV6Servers.length > 8))
    "Applied server count exceeds maximum allowable limit"
  validateServers isIpv4 "Invalid applied IPv4 address" state.appliedV4Servers
  validateServers isIpv6 "Invalid applied IPv6 address" state.appliedV6Servers

/-- The state an override writes for a provider. -/
def ofProvider (clock : Option Nat) (original : AdapterDnsConfig) (provider : DnsProvider) :
    DnsOverrideState :=
  new clock original provider.endpointsV4 provider.endpointsV6 provider

end DnsOverrideState

/-! ### Validation of what the controller builds -/

theorem endpoints_valid (provider : DnsProvider) :
    (∀ ip ∈ provider.endpointsV4, isIpv4 ip = true) ∧
      (∀ ip ∈ provider.endpointsV6, isIpv6 ip = true) ∧
      provider.endpointsV4.length ≤ 8 ∧ provider.endpointsV6.length ≤ 8 := by
  cases provider <;> decide

/-- The state built from a snapshot is valid exactly when the snapshot is. -/
theorem DnsOverrideState.validate_ofProvider {clock : Option Nat} {original : AdapterDnsConfig}
    {provider : DnsProvider} :
    (ofProvider clock original provider).validate = .ok () ↔ original.validate = .ok () := by
  obtain ⟨v4, v6, count4, count6⟩ := endpoints_valid provider
  have applied4 : validateServers isIpv4 "Invalid applied IPv4 address" provider.endpointsV4 =
      .ok () := validateServers_eq_ok.mpr v4
  have applied6 : validateServers isIpv6 "Invalid applied IPv6 address" provider.endpointsV6 =
      .ok () := validateServers_eq_ok.mpr v6
  simp only [validate, ofProvider, new, checks_eq_ok, failIf_eq_ok, applied4, applied6]
  constructor
  · tauto
  · intro valid
    obtain ⟨index, name, -, guid, -⟩ := AdapterDnsConfig.validate_eq_ok.mp valid
    simp [index, name, guid, valid, stateSchemaVersion, count4, count6]

/-- An adapter with a valid configuration still has one after an override. -/
theorem AdapterDnsConfig.validate_withServers {config : AdapterDnsConfig} (provider : DnsProvider)
    (valid : config.validate = .ok ()) :
    (config.withServers provider.endpointsV4 provider.endpointsV6).validate = .ok () := by
  obtain ⟨v4, v6, count4, count6⟩ := endpoints_valid provider
  obtain ⟨index, name, description, guid, -⟩ := validate_eq_ok.mp valid
  exact validate_eq_ok.mpr ⟨index, name, description, guid, count4, v4, count6, v6⟩

/-- The adapter a shipped test uses. -/
def exampleAdapter : AdapterDnsConfig where
  interfaceIndex := 2
  interfaceAlias := "Ethernet"
  interfaceGuid := some "\x7b0497CA4C-047D-4034-9761-8FBC3D71961B\x7d"
  interfaceDescription := some "Realtek Gaming 2.5GbE Family Controller"
  isDhcpV4 := true
  isDhcpV6 := true
  ipv4Servers := ["192.168.1.1"]
  ipv6Servers := []

theorem exampleAdapter_valid : exampleAdapter.validate = .ok () := by decide

end ZonDpi.Dns
