import ZonDpi.Dns.Windows
import ZonDpi.Lib.ScriptTokens
import ZonDpi.Std.Strtol

/-!
The PowerShell scripts of `WindowsAdapterDnsOps`, read back as PowerShell reads them.

`readScript` knows one command in its two forms, with a decimal interface index and an
array of literal strings. `readScript_set` and `readScript_reset` say that the texts the
operations build are read as the commands they are meant to be. The texts come from a file
that anyone may have written, but an address has no quotes in it, and both operations check
their servers before they build a script (`script_faithful`).
-/

namespace ZonDpi.Dns

open Effects Script ZonDpi.Std

/-! ### Reading a script -/

def readDecimal (digits : List Char) : Option Nat :=
  if digits ≠ [] ∧ digits.all (isDigitOf 10) = true then some (digitsValue 10 digits) else none

/-- The tokens of exactly one `Set-DnsClientServerAddress` command. -/
def readCommand : List Token → Option WindowsCommand
  | .word name :: .word parameter :: .word index :: .word form :: rest =>
      if name = "Set-DnsClientServerAddress".toList ∧ parameter = "-InterfaceIndex".toList then
        if form = "-ResetServerAddresses".toList ∧ rest = [] then
          (readDecimal index).map .resetServerAddresses
        else if form = "-ServerAddresses".toList then
          match readArray rest with
          | some (servers, []) =>
              (readDecimal index).map (.setServerAddresses · (servers.map String.ofList))
          | _ => none
        else none
      else none
  | _ => none

def readScript (script : String) : Option WindowsCommand :=
  (lex .between script.toList).bind readCommand

/-- What a restore is meant to run in PowerShell. -/
def restoreCommand (config : AdapterDnsConfig) : WindowsCommand :=
  if config.isDhcpV4 then .resetServerAddresses config.interfaceIndex
  else .setServerAddresses config.interfaceIndex config.ipv4Servers

/-- The process is no PowerShell, or its script is read as this command. -/
def ReadAs (expected command : WindowsCommand) : Prop :=
  ∀ script, command.invocation =
      ("WindowsPowerShell\\v1.0\\powershell.exe", powershellArgs script) →
    readScript script = some expected

/-! ### The two texts -/

theorem readDecimal_toString (n : Nat) : readDecimal (toString n).toList = some n := by
  have digits : (toString n).toList.all (isDigitOf 10) = true :=
    List.all_eq_true.mpr fun _ => isDigitOf_toString
  rw [readDecimal, if_pos ⟨toList_toString_ne_nil, digits⟩, digitsValue_toString]

/-- The front that both forms of the command share. -/
theorem lex_front (index : Nat) (rest : List Char) :
    lex .between ("Set-DnsClientServerAddress -InterfaceIndex ".toList ++
        ((toString index).toList ++ ' ' :: rest)) =
      (lex .between rest).map ([.word "Set-DnsClientServerAddress".toList,
        .word "-InterfaceIndex".toList, .word (toString index).toList] ++ ·) := by
  have front : "Set-DnsClientServerAddress -InterfaceIndex ".toList =
      "Set-DnsClientServerAddress".toList ++ ' ' :: ("-InterfaceIndex".toList ++ [' ']) := by
    decide
  have digits : isWord (toString index).toList = true := by
    refine isWord_iff.mpr ⟨toList_toString_ne_nil, fun c member => ?_⟩
    simp [isWordChar, Char.isAlphanum, isDigit_toString member]
  rw [front, List.append_assoc, List.cons_append, List.append_assoc, List.singleton_append,
    lex_word _ rfl, lex_word _ rfl, lex_word _ digits]
  simp [Function.comp_def]

theorem readCommand_reset {index : Nat} {digits : List Char}
    (decimal : readDecimal digits = some index) :
    readCommand [.word "Set-DnsClientServerAddress".toList, .word "-InterfaceIndex".toList,
        .word digits, .word "-ResetServerAddresses".toList] =
      some (.resetServerAddresses index) := by
  simp [readCommand, decimal]

theorem readCommand_set {index : Nat} {digits : List Char}
    (decimal : readDecimal digits = some index) (servers : List String) :
    readCommand (.word "Set-DnsClientServerAddress".toList :: .word "-InterfaceIndex".toList ::
        .word digits :: .word "-ServerAddresses".toList ::
        .arrayOpen :: listTokens (servers.map String.toList)) =
      some (.setServerAddresses index servers) := by
  simp [readCommand, decimal, readArray_listTokens, Function.comp_def]

theorem readScript_reset (index : Nat) :
    readScript s!"Set-DnsClientServerAddress -InterfaceIndex {index} -ResetServerAddresses" =
      some (.resetServerAddresses index) := by
  have text :
      (s!"Set-DnsClientServerAddress -InterfaceIndex {index} -ResetServerAddresses").toList =
      "Set-DnsClientServerAddress -InterfaceIndex ".toList ++
        ((toString index).toList ++ ' ' :: "-ResetServerAddresses".toList) := by
    simp only [String.toList_append, List.append_assoc]
    rfl
  rw [readScript, text, lex_front, lex_last rfl, Option.map_some, Option.bind_some]
  exact readCommand_reset (readDecimal_toString index)

/-- The servers in quotes and commas. -/
def serverList (servers : List String) : List Char :=
  [','].intercalate ((servers.map String.toList).map quoted) ++ [')']

theorem toList_formatServers (servers : List String) :
    (formatServers servers).toList = '@' :: '(' :: serverList servers := by
  have each : (servers.map fun server => "'" ++ server ++ "'").map String.toList =
      (servers.map String.toList).map quoted := by
    simp [quoted, Function.comp_def]
  simp only [formatServers, serverList, String.toList_append, String.toList_intercalate, each]
  rfl

theorem lex_formatServers {servers : List String}
    (plain : ∀ server ∈ servers, Unquoted server.toList) :
    lex .between (formatServers servers).toList =
      some (.arrayOpen :: listTokens (servers.map String.toList)) := by
  have all : ∀ item ∈ servers.map String.toList, Unquoted item := by
    intro item member
    obtain ⟨server, known, rfl⟩ := List.mem_map.mp member
    exact plain server known
  have opened : step .between '@' = (.array, []) := rfl
  have bracket : step .array '(' = (.between, [.arrayOpen]) := rfl
  rw [toList_formatServers, lex_cons, opened, lex_cons, bracket, serverList, lex_list all]
  rfl

theorem readScript_set (index : Nat) {servers : List String}
    (plain : ∀ server ∈ servers, Unquoted server.toList) :
    readScript ("Set-DnsClientServerAddress -InterfaceIndex " ++ toString index ++
        " -ServerAddresses " ++ formatServers servers) =
      some (.setServerAddresses index servers) := by
  have text : ("Set-DnsClientServerAddress -InterfaceIndex " ++ toString index ++
        " -ServerAddresses " ++ formatServers servers).toList =
      "Set-DnsClientServerAddress -InterfaceIndex ".toList ++ ((toString index).toList ++
        ' ' :: ("-ServerAddresses".toList ++ ' ' :: (formatServers servers).toList)) := by
    simp only [String.toList_append, List.append_assoc]
    rfl
  rw [readScript, text, lex_front, lex_word _ rfl, lex_formatServers plain]
  simp only [Option.map_some, Option.bind_some, List.cons_append, List.nil_append]
  exact readCommand_set (readDecimal_toString index) servers

example : readScript "Set-DnsClientServerAddress -InterfaceIndex 7 -ServerAddresses @()" =
    some (.setServerAddresses 7 []) ∧
    readScript "Set-DnsClientServerAddress -InterfaceIndex 7 -ServerAddresses @('1');a '2'" =
      none := by
  decide +kernel

/-! ### The operations -/

/-- An address cannot end its quotes. -/
theorem unquoted_of_fromStr {server : String} (accepted : (IpAddr.fromStr server).isSome = true) :
    Unquoted server.toList := by
  intro c member
  have known := isAddressChar_of_fromStr accepted member
  by_contra quote
  simp only [isQuote, Bool.not_eq_false, Bool.or_eq_true, decide_eq_true_eq] at quote
  rcases quote with (((rfl | rfl) | rfl) | rfl) | rfl <;> exact absurd known (by decide)

theorem readAs_set (index : Nat) {servers : List String}
    (accepted : ∀ server ∈ servers, (IpAddr.fromStr server).isSome = true) :
    ReadAs (.setServerAddresses index servers) (.setServerAddresses index servers) := by
  intro script invoked
  simp only [WindowsCommand.invocation, powershellArgs, Prod.mk.injEq, List.cons.injEq, true_and,
    and_true] at invoked
  rw [← invoked]
  exact readScript_set index fun server member => unquoted_of_fromStr (accepted server member)

theorem readAs_reset (index : Nat) :
    ReadAs (.resetServerAddresses index) (.resetServerAddresses index) := by
  intro script invoked
  simp only [WindowsCommand.invocation, powershellArgs, Prod.mk.injEq, List.cons.injEq, true_and,
    and_true] at invoked
  rw [← invoked]
  exact readScript_reset index

theorem readAs_netsh (expected : WindowsCommand) (family : Family) (index : Nat) :
    ReadAs expected (.netshDhcp family index) := by
  intro script invoked
  simp [WindowsCommand.invocation] at invoked

theorem readAs_flushDns (expected : WindowsCommand) : ReadAs expected .flushDns := by
  intro script invoked
  simp [WindowsCommand.invocation] at invoked

theorem accepted_of_checkAddresses {servers : List String}
    (checked : checkAddresses servers = .ok ()) :
    ∀ server ∈ servers, (IpAddr.fromStr server).isSome = true := by
  intro server member
  unfold checkAddresses at checked
  cases found : servers.find? (fun ip => (IpAddr.fromStr ip).isNone) with
  | some ip =>
      rw [found] at checked
      cases checked
  | none => simpa [Option.isSome_iff_ne_none] using List.find?_eq_none.mp found server member

theorem only_flush (expected : WindowsCommand) : flushResolverCache.Only (ReadAs expected) :=
  Prog.Only.bind (Prog.only_ask.mpr (readAs_flushDns expected)) fun _ => Prog.only_pure _

theorem only_apply (index : Nat) (v4 v6 : List String) :
    (windowsApplyDnsServers index v4 v6).Only
      (ReadAs (.setServerAddresses index (v4 ++ v6))) := by
  unfold windowsApplyDnsServers
  by_cases zero : index = 0
  · rw [if_pos zero]
    exact Prog.only_pure _
  · rw [if_neg zero]
    cases checked : checkAddresses (v4 ++ v6) with
    | error e => exact Prog.only_pure _
    | ok passed =>
        have read := readAs_set index (accepted_of_checkAddresses checked)
        refine Prog.Only.bind (Prog.only_ask.mpr read) ?_
        intro status
        cases status with
        | error message => exact Prog.only_pure _
        | ok status =>
            by_cases failed : (!status.success) = true
            · simp only [if_pos failed]
              exact Prog.only_pure _
            · simp only [if_neg failed]
              exact (only_flush _).bind fun _ => Prog.only_pure _

theorem only_restoreV4 {config : AdapterDnsConfig} (valid : config.validate = .ok ()) :
    (restoreV4 config).Only (ReadAs (restoreCommand config)) := by
  unfold restoreV4 restoreCommand
  by_cases dhcp : config.isDhcpV4 = true
  · simp only [if_pos dhcp]
    refine Prog.Only.bind (Prog.only_ask.mpr (readAs_reset config.interfaceIndex)) fun _ => ?_
    exact Prog.Only.bind (Prog.only_ask.mpr (readAs_netsh _ .ipv4 config.interfaceIndex))
      fun _ => Prog.only_pure _
  · simp only [if_neg dhcp]
    by_cases servers : config.ipv4Servers ≠ []
    · simp only [if_pos servers]
      obtain ⟨-, -, -, -, -, addresses, -⟩ := AdapterDnsConfig.validate_eq_ok.mp valid
      have read := readAs_set config.interfaceIndex fun server member =>
        fromStr_isSome_of_isIpv4 (addresses server member)
      exact Prog.Only.bind (Prog.only_ask.mpr read) fun _ => Prog.only_pure _
    · simp only [if_neg servers]
      exact Prog.only_pure _

theorem only_restoreV6 (config : AdapterDnsConfig) :
    (restoreV6 config).Only (ReadAs (restoreCommand config)) := by
  unfold restoreV6
  by_cases dhcp : config.isDhcpV6 = true
  · simp only [if_pos dhcp]
    exact Prog.Only.bind (Prog.only_ask.mpr (readAs_netsh _ .ipv6 config.interfaceIndex))
      fun _ => Prog.only_pure _
  · simp only [if_neg dhcp]
    exact Prog.only_pure _

theorem only_restore (config : AdapterDnsConfig) :
    (windowsRestoreDns config).Only (ReadAs (restoreCommand config)) := by
  unfold windowsRestoreDns
  cases valid : config.validate with
  | error e => exact Prog.only_pure _
  | ok passed =>
      refine (only_restoreV4 valid).bind fun _ => ?_
      refine (only_restoreV6 config).bind fun _ => ?_
      exact (only_flush _).bind fun _ => Prog.only_pure _

/-- Every script of the two operations is the one command it is meant to be, with the
servers as they were given. -/
theorem script_faithful :
    (∀ (index : Nat) (v4 v6 : List String), (windowsApplyDnsServers index v4 v6).Only
      (ReadAs (.setServerAddresses index (v4 ++ v6)))) ∧
      ∀ config : AdapterDnsConfig,
        (windowsRestoreDns config).Only (ReadAs (restoreCommand config)) :=
  ⟨only_apply, only_restore⟩

end ZonDpi.Dns
