import Mathlib.Logic.Function.Basic
import ZonDpi.Lib.Program
import ZonDpi.Dns.Config

/-!
`WindowsAdapterDnsOps` (`core/dns/src/lib.rs`): the commands behind
`apply_dns_servers` and `restore_dns`, and what is left of an adapter's setting
after one and then the other.

An adapter has one DNS setting per family. `WindowsCommand.effect` is the
documented effect of each command on it; `Set-DnsClientServerAddress
-ResetServerAddresses` is the one that touches both families at once. The
restore writes IPv4 lists back, and for IPv6 only knows how to return to DHCP.
-/

namespace ZonDpi.Dns

open Effects ZonDpi.Std

inductive Family where
  | ipv4
  | ipv6
deriving DecidableEq, Repr

/-- The processes the operations start. -/
inductive WindowsCommand where
  | setServerAddresses (interfaceIndex : Nat) (servers : List String)
  | resetServerAddresses (interfaceIndex : Nat)
  | netshDhcp (family : Family) (interfaceIndex : Nat)
  | flushDns
deriving DecidableEq, Repr

/-! ### Command lines -/

/-- `@('1.1.1.1','1.0.0.1',...)` -/
def formatServers (servers : List String) : String :=
  "@(" ++ ",".intercalate (servers.map fun server => "'" ++ server ++ "'") ++ ")"

def powershellArgs (script : String) : List String :=
  ["-NoProfile", "-NonInteractive", "-ExecutionPolicy", "Bypass", "-Command", script]

def Family.keyword : Family → String
  | .ipv4 => "ipv4"
  | .ipv6 => "ipv6"

/-- The executable under `System32` and its arguments. -/
def WindowsCommand.invocation : WindowsCommand → String × List String
  | .setServerAddresses index servers =>
      ("WindowsPowerShell\\v1.0\\powershell.exe", powershellArgs
        s!"Set-DnsClientServerAddress -InterfaceIndex {index} -ServerAddresses {formatServers servers}")
  | .resetServerAddresses index =>
      ("WindowsPowerShell\\v1.0\\powershell.exe", powershellArgs
        s!"Set-DnsClientServerAddress -InterfaceIndex {index} -ResetServerAddresses")
  | .netshDhcp family index =>
      ("netsh.exe", ["interface", family.keyword, "set", "dnsservers", toString index, "dhcp"])
  | .flushDns => ("ipconfig.exe", ["/flushdns"])

/-! ### The operations -/

/-- How a process ended; `debug` is Rust's `{:?}` of its exit status. -/
structure ExitStatus where
  success : Bool
  debug : String
deriving DecidableEq, Repr

/-- A command either cannot be started, with a message, or ends with a status. -/
abbrev WindowsProg (α : Type) : Type :=
  Prog WindowsCommand (fun _ => Except String ExitStatus) α

def flushResolverCache : WindowsProg Unit := do
  let _ ← Prog.ask .flushDns
  return ()

/-- The first address that is none, as the loop over both lists finds it. -/
def checkAddresses (servers : List String) : Except DnsManagerError Unit :=
  match servers.find? (fun ip => (IpAddr.fromStr ip).isNone) with
  | some ip => .error (.stateValidationFailed s!"Invalid IP for DNS server: {ip}")
  | none => .ok ()

def windowsApplyDnsServers (interfaceIndex : Nat) (v4 v6 : List String) :
    WindowsProg (Except DnsManagerError Unit) :=
  if interfaceIndex = 0 then
    pure (.error (.stateValidationFailed "Invalid interface index"))
  else
    match checkAddresses (v4 ++ v6) with
    | .error e => pure (.error e)
    | .ok () => do
        let status ← Prog.ask (.setServerAddresses interfaceIndex (v4 ++ v6))
        match status with
        | .error message => return .error (.commandFailed message)
        | .ok status =>
            if !status.success then
              return .error (.commandFailed
                s!"Set-DnsClientServerAddress failed with status {status.debug}")
            else do
              flushResolverCache
              return .ok ()

/-- IPv4 restoration. -/
def restoreV4 (config : AdapterDnsConfig) : WindowsProg Unit :=
  if config.isDhcpV4 then do
    let _ ← Prog.ask (.resetServerAddresses config.interfaceIndex)
    let _ ← Prog.ask (.netshDhcp .ipv4 config.interfaceIndex)
    return ()
  else if config.ipv4Servers ≠ [] then do
    let _ ← Prog.ask (.setServerAddresses config.interfaceIndex config.ipv4Servers)
    return ()
  else return ()

/-- IPv6 restoration: there is no branch for a static list. -/
def restoreV6 (config : AdapterDnsConfig) : WindowsProg Unit :=
  if config.isDhcpV6 then do
    let _ ← Prog.ask (.netshDhcp .ipv6 config.interfaceIndex)
    return ()
  else return ()

def windowsRestoreDns (config : AdapterDnsConfig) : WindowsProg (Except DnsManagerError Unit) :=
  match config.validate with
  | .error e => pure (.error e)
  | .ok () => do
      restoreV4 config
      restoreV6 config
      flushResolverCache
      return .ok ()

/-! ### Adapter settings -/

/-- The DNS setting of one family. -/
inductive Setting where
  | automatic
  | static (servers : List String) (nonempty : servers ≠ [])
deriving DecidableEq

structure AdapterSetting where
  v4 : Setting
  v6 : Setting
deriving DecidableEq

/-- The servers of a family in a list replace the setting of that family. -/
def Setting.replaceBy (setting : Setting) (servers : List String) : Setting :=
  if nonempty : servers ≠ [] then .static servers nonempty else setting

@[simp] theorem Setting.replaceBy_nil (setting : Setting) : setting.replaceBy [] = setting := rfl

theorem Setting.replaceBy_of_ne {setting : Setting} {servers : List String}
    (nonempty : servers ≠ []) : setting.replaceBy servers = .static servers nonempty :=
  dif_pos nonempty

/-- What a command does when it succeeds, to the adapter it names. -/
def WindowsCommand.effect (adapters : Nat → AdapterSetting) :
    WindowsCommand → Nat → AdapterSetting
  | .setServerAddresses index servers =>
      Function.update adapters index
        { v4 := (adapters index).v4.replaceBy (servers.filter isIpv4)
          v6 := (adapters index).v6.replaceBy (servers.filter isIpv6) }
  | .resetServerAddresses index => Function.update adapters index ⟨.automatic, .automatic⟩
  | .netshDhcp .ipv4 index =>
      Function.update adapters index { adapters index with v4 := .automatic }
  | .netshDhcp .ipv6 index =>
      Function.update adapters index { adapters index with v6 := .automatic }
  | .flushDns => adapters

/-- Every command succeeds. -/
def windowsHandler :
    Prog.Handler WindowsCommand (fun _ => Except String ExitStatus) (Nat → AdapterSetting) where
  answer := fun _ _ => .ok ⟨true, "ExitStatus(ExitStatus(0))"⟩
  effect := fun adapters command _ => command.effect adapters

/-! ### Apply, then restore -/

/-- Non-empty lists of IPv4 and of IPv6 servers. -/
structure ServerLists where
  v4 : List String
  v6 : List String
  v4_ne : v4 ≠ []
  v6_ne : v6 ≠ []
  v4_valid : ∀ ip ∈ v4, isIpv4 ip = true
  v6_valid : ∀ ip ∈ v6, isIpv6 ip = true

/-- How a snapshot records the setting of one family: the list of a family on
DHCP is whatever DHCP supplied. -/
def Setting.RecordedAs : Setting → Bool → List String → Prop
  | .automatic, isDhcp, _ => isDhcp = true
  | .static own _, isDhcp, servers => isDhcp = false ∧ servers = own

/-- A snapshot as `find_active_outbound_adapter` returns it. -/
structure SnapshotOf (setting : AdapterSetting) (config : AdapterDnsConfig) : Prop where
  valid : config.validate = .ok ()
  v4 : setting.v4.RecordedAs config.isDhcpV4 config.ipv4Servers
  v6 : setting.v6.RecordedAs config.isDhcpV6 config.ipv6Servers

/-- `apply_dns_servers` on the adapter of a snapshot, then `restore_dns` of it. -/
def applyThenRestore (config : AdapterDnsConfig) (servers : ServerLists) :
    WindowsProg (Except DnsManagerError Unit) :=
  (windowsApplyDnsServers config.interfaceIndex servers.v4 servers.v6).andThen fun _ =>
    windowsRestoreDns config

namespace ServerLists

variable (servers : ServerLists)

theorem filter_v4 : (servers.v4 ++ servers.v6).filter isIpv4 = servers.v4 := by
  have own : servers.v4.filter isIpv4 = servers.v4 := List.filter_eq_self.mpr servers.v4_valid
  have other : servers.v6.filter isIpv4 = [] := List.filter_eq_nil_iff.mpr fun ip member =>
    fun v4 => by simpa [isIpv4_isIpv6_disjoint v4] using servers.v6_valid ip member
  rw [List.filter_append, own, other, List.append_nil]

theorem filter_v6 : (servers.v4 ++ servers.v6).filter isIpv6 = servers.v6 := by
  have own : servers.v6.filter isIpv6 = servers.v6 := List.filter_eq_self.mpr servers.v6_valid
  have other : servers.v4.filter isIpv6 = [] := List.filter_eq_nil_iff.mpr fun ip member =>
    by simp [isIpv4_isIpv6_disjoint (servers.v4_valid ip member)]
  rw [List.filter_append, own, other, List.nil_append]

theorem checkAddresses_eq_ok : checkAddresses (servers.v4 ++ servers.v6) = .ok () := by
  have none : (servers.v4 ++ servers.v6).find? (fun ip => (IpAddr.fromStr ip).isNone) = none := by
    rw [List.find?_eq_none]
    intro ip member
    rcases List.mem_append.mp member with member | member
    · simp [Option.isSome_iff_ne_none.mp (fromStr_isSome_of_isIpv4 (servers.v4_valid ip member))]
    · simp [Option.isSome_iff_ne_none.mp (fromStr_isSome_of_isIpv6 (servers.v6_valid ip member))]
  simp [checkAddresses, none]

/-- The setting an override leaves. -/
def setting : AdapterSetting :=
  ⟨.static servers.v4 servers.v4_ne, .static servers.v6 servers.v6_ne⟩

theorem run_apply {index : Nat} (positive : index ≠ 0) (adapters : Nat → AdapterSetting) :
    (windowsApplyDnsServers index servers.v4 servers.v6).run windowsHandler adapters =
      (.ok (), Function.update adapters index servers.setting) := by
  simp only [windowsApplyDnsServers, positive, if_false, servers.checkAddresses_eq_ok,
    flushResolverCache, windowsHandler, WindowsCommand.effect, servers.filter_v4,
    servers.filter_v6, Setting.replaceBy_of_ne servers.v4_ne, Setting.replaceBy_of_ne servers.v6_ne,
    setting, Prog.run_bind, Prog.run_ask]
  rfl

end ServerLists

/-! ### What a restore leaves -/

/-- The setting after a restore: the original IPv4 setting, and for IPv6 DHCP if
either family was on DHCP, else the servers that were applied. -/
def restoredSetting (original current : AdapterSetting) : AdapterSetting where
  v4 := original.v4
  v6 := if original.v4 = .automatic ∨ original.v6 = .automatic then .automatic else current.v6

theorem restoredSetting_eq_iff (original current : AdapterSetting) :
    restoredSetting original current = original ↔
      original.v6 = .automatic ∨ original.v4 ≠ .automatic ∧ original.v6 = current.v6 := by
  obtain ⟨v4, v6⟩ := original
  simp only [restoredSetting, AdapterSetting.mk.injEq, true_and]
  by_cases dhcp4 : v4 = .automatic
  · simp [dhcp4, eq_comm]
  · by_cases dhcp6 : v6 = .automatic
    · simp [dhcp6]
    · simp [dhcp4, dhcp6, eq_comm]

section Restore

variable {original : AdapterSetting} {config : AdapterDnsConfig}

theorem SnapshotOf.run_restoreV4 (snapshot : SnapshotOf original config)
    (adapters : Nat → AdapterSetting) :
    ((restoreV4 config).run windowsHandler adapters).2 =
      Function.update adapters config.interfaceIndex
        { v4 := original.v4
          v6 := if original.v4 = .automatic then .automatic
            else (adapters config.interfaceIndex).v6 } := by
  have recorded := snapshot.v4
  cases v4 : original.v4 with
  | automatic =>
      have dhcp : config.isDhcpV4 = true := by simpa [v4, Setting.RecordedAs] using recorded
      simp [restoreV4, dhcp, windowsHandler, WindowsCommand.effect]
  | static own nonempty =>
      obtain ⟨dhcp, servers⟩ : config.isDhcpV4 = false ∧ config.ipv4Servers = own := by
        simpa [v4, Setting.RecordedAs] using recorded
      obtain ⟨-, -, -, -, -, valid, -⟩ := AdapterDnsConfig.validate_eq_ok.mp snapshot.valid
      rw [servers] at valid
      have v4Only : own.filter isIpv4 = own := List.filter_eq_self.mpr valid
      have noV6 : own.filter isIpv6 = [] := List.filter_eq_nil_iff.mpr fun ip member => by
        simp [isIpv4_isIpv6_disjoint (valid ip member)]
      simp only [restoreV4, dhcp, servers, ne_eq, nonempty, not_false_eq_true, if_true,
        Bool.false_eq_true, if_false, Prog.run_bind, Prog.run_ask, windowsHandler,
        WindowsCommand.effect, v4Only, noV6, Setting.replaceBy_of_ne nonempty,
        Setting.replaceBy_nil, reduceCtorEq]
      rfl

theorem SnapshotOf.run_restoreV6 (snapshot : SnapshotOf original config)
    (adapters : Nat → AdapterSetting) :
    ((restoreV6 config).run windowsHandler adapters).2 =
      Function.update adapters config.interfaceIndex
        { v4 := (adapters config.interfaceIndex).v4
          v6 := if original.v6 = .automatic then .automatic
            else (adapters config.interfaceIndex).v6 } := by
  have recorded := snapshot.v6
  cases v6 : original.v6 with
  | automatic =>
      have dhcp : config.isDhcpV6 = true := by simpa [v6, Setting.RecordedAs] using recorded
      simp [restoreV6, dhcp, windowsHandler, WindowsCommand.effect]
  | static own nonempty =>
      obtain ⟨dhcp, -⟩ : config.isDhcpV6 = false ∧ config.ipv6Servers = own := by
        simpa [v6, Setting.RecordedAs] using recorded
      simp [restoreV6, dhcp]

theorem SnapshotOf.run_restore (snapshot : SnapshotOf original config)
    (adapters : Nat → AdapterSetting) :
    (windowsRestoreDns config).run windowsHandler adapters =
      (.ok (), Function.update adapters config.interfaceIndex
        (restoredSetting original (adapters config.interfaceIndex))) := by
  have flush (adapters : Nat → AdapterSetting) :
      (flushResolverCache.run windowsHandler adapters).2 = adapters := rfl
  simp only [windowsRestoreDns, snapshot.valid, Prog.run_bind, Prog.run_pure, flush,
    snapshot.run_restoreV4, snapshot.run_restoreV6, Function.update_self, Function.update_idem,
    restoredSetting]
  congr 3
  by_cases v4 : original.v4 = .automatic <;> by_cases v6 : original.v6 = .automatic <;>
    simp [v4, v6]

end Restore

/-- Both operations succeed, and both families are back at the original setting
exactly when IPv6 was on DHCP, or IPv4 was static and the servers applied for
IPv6 are the ones that were there. -/
theorem windows_restore_exact_iff (adapters : Nat → AdapterSetting) (config : AdapterDnsConfig)
    (servers : ServerLists) (snapshot : SnapshotOf (adapters config.interfaceIndex) config) :
    let after := (applyThenRestore config servers).run windowsHandler adapters
    let original := adapters config.interfaceIndex
    after.1 = .ok () ∧
      (after.2 config.interfaceIndex = original ↔
        original.v6 = .automatic ∨
          original.v4 ≠ .automatic ∧ original.v6 = .static servers.v6 servers.v6_ne) := by
  intro after original
  have positive : config.interfaceIndex ≠ 0 :=
    (AdapterDnsConfig.validate_eq_ok.mp snapshot.valid).1
  have ran : after = (.ok (), Function.update adapters config.interfaceIndex
      (restoredSetting original servers.setting)) := by
    simp [after, original, applyThenRestore, Prog.andThen, servers.run_apply positive,
      snapshot.run_restore]
  rw [ran]
  refine ⟨rfl, ?_⟩
  simp only [Function.update_self]
  exact restoredSetting_eq_iff original servers.setting

/-- An adapter of the kind the tests call restored exactly: static servers for
both families. -/
def staticAdapter : AdapterDnsConfig where
  interfaceIndex := 3
  interfaceAlias := "Ethernet 2"
  interfaceGuid := some "\x7bA1B2C3D4-E5F6-7890-ABCD-EF1234567890\x7d"
  interfaceDescription := some "Intel I225-V"
  isDhcpV4 := false
  isDhcpV6 := false
  ipv4Servers := ["8.8.8.8", "8.8.4.4"]
  ipv6Servers := ["2001:4860:4860::8888"]

def staticSetting : AdapterSetting where
  v4 := .static ["8.8.8.8", "8.8.4.4"] (by decide)
  v6 := .static ["2001:4860:4860::8888"] (by decide)

theorem staticAdapter_snapshot : SnapshotOf staticSetting staticAdapter :=
  ⟨by decide, ⟨rfl, rfl⟩, ⟨rfl, rfl⟩⟩

def cloudflareServers : ServerLists where
  v4 := DnsProvider.cloudflare.endpointsV4
  v6 := DnsProvider.cloudflare.endpointsV6
  v4_ne := by decide
  v6_ne := by decide
  v4_valid := by decide
  v6_valid := by decide

/-- The static IPv6 server is not put back. -/
theorem static_ipv6_not_restored :
    ¬ ∀ (adapters : Nat → AdapterSetting) (config : AdapterDnsConfig) (servers : ServerLists),
      SnapshotOf (adapters config.interfaceIndex) config →
        ((applyThenRestore config servers).run windowsHandler adapters).2 config.interfaceIndex =
          adapters config.interfaceIndex := by
  intro restored
  exact absurd (restored (fun _ => staticSetting) staticAdapter cloudflareServers
    staticAdapter_snapshot) (by decide)

/-- With both families on DHCP the restore is exact. -/
theorem windows_restore_exact_dhcp :
    SnapshotOf ⟨.automatic, .automatic⟩ exampleAdapter ∧
      ((applyThenRestore exampleAdapter cloudflareServers).run windowsHandler
        fun _ => ⟨.automatic, .automatic⟩).2 2 = ⟨.automatic, .automatic⟩ := by
  have snapshot : SnapshotOf ⟨.automatic, .automatic⟩ exampleAdapter :=
    ⟨exampleAdapter_valid, rfl, rfl⟩
  exact ⟨snapshot, (windows_restore_exact_iff (fun _ => ⟨.automatic, .automatic⟩) exampleAdapter
    cloudflareServers snapshot).2.mpr (.inl rfl)⟩

end ZonDpi.Dns
