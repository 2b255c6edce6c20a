import Mathlib.Data.Finset.Lattice.Lemmas
import ZonDpi.Lib.Getopt
import ZonDpi.Std.Strtol

/-!
How GoodbyeDPI reads its command line (`goodbyedpi.c`, `main`).

`settings` are the variables after the option loop and the defaults behind it. An error
ends the process. The `switch` of the loop is given one group of variables after the
other, since no group depends on another: the variables that are only ever set to one
(`raises`), the three sizes, the number of hops, the TTL, DNS, and what is added to a
list. The filters are kept as what was added to them: the ports, and the one IP
identification that finds its template still there. Fake packets are kept as the calls
that load them.

`inet_pton` and the loading of a blacklist are parameters.
-/

namespace ZonDpi.Engine

open Getopt ZonDpi.Std

/-- The options, by the names of `long_options` and the letters of the others. -/
inductive GoodbyeOpt where
  | mode1
  | mode2
  | mode3
  | mode4
  | mode5
  | mode6
  | mode7
  | mode8
  | mode9
  | p
  | q
  | r
  | s
  | a
  | m
  | f
  | k
  | n
  | e
  | w
  | port
  | ipId
  | dnsAddr
  | dnsv6Addr
  | dnsPort
  | dnsv6Port
  | dnsVerb
  | blacklist
  | allowNoSni
  | fragBySni
  | setTtl
  | minTtl
  | autoTtl
  | wrongChksum
  | wrongSeq
  | nativeFrag
  | reverseFrag
  | maxPayload
  | fakeFromHex
  | fakeWithSni
  | fakeGen
  | fakeResend
  | debugExit
deriving DecidableEq, Repr

/-- `"123456789pqrsaf:e:mwk:n"` and `long_options`. -/
def goodbyeTable : Table GoodbyeOpt where
  short := [⟨'1', false, .mode1⟩, ⟨'2', false, .mode2⟩, ⟨'3', false, .mode3⟩, ⟨'4', false, .mode4⟩,
    ⟨'5', false, .mode5⟩, ⟨'6', false, .mode6⟩, ⟨'7', false, .mode7⟩, ⟨'8', false, .mode8⟩,
    ⟨'9', false, .mode9⟩, ⟨'p', false, .p⟩, ⟨'q', false, .q⟩, ⟨'r', false, .r⟩, ⟨'s', false, .s⟩,
    ⟨'a', false, .a⟩, ⟨'f', true, .f⟩, ⟨'e', true, .e⟩, ⟨'m', false, .m⟩, ⟨'w', false, .w⟩,
    ⟨'k', true, .k⟩, ⟨'n', false, .n⟩]
  long := [⟨"port", .required, .port⟩, ⟨"dns-addr", .required, .dnsAddr⟩,
    ⟨"dns-port", .required, .dnsPort⟩, ⟨"dnsv6-addr", .required, .dnsv6Addr⟩,
    ⟨"dnsv6-port", .required, .dnsv6Port⟩, ⟨"dns-verb", .no, .dnsVerb⟩,
    ⟨"blacklist", .required, .blacklist⟩, ⟨"allow-no-sni", .no, .allowNoSni⟩,
    ⟨"frag-by-sni", .no, .fragBySni⟩, ⟨"ip-id", .required, .ipId⟩, ⟨"set-ttl", .required, .setTtl⟩,
    ⟨"min-ttl", .required, .minTtl⟩, ⟨"auto-ttl", .optional, .autoTtl⟩,
    ⟨"wrong-chksum", .no, .wrongChksum⟩, ⟨"wrong-seq", .no, .wrongSeq⟩,
    ⟨"native-frag", .no, .nativeFrag⟩, ⟨"reverse-frag", .no, .reverseFrag⟩,
    ⟨"max-payload", .optional, .maxPayload⟩, ⟨"fake-from-hex", .required, .fakeFromHex⟩,
    ⟨"fake-with-sni", .required, .fakeWithSni⟩, ⟨"fake-gen", .required, .fakeGen⟩,
    ⟨"fake-resend", .required, .fakeResend⟩, ⟨"debug-exit", .optional, .debugExit⟩]

/-! ### The variables -/

inductive GoodbyeExit where
  | default
  | portBounds
  | dnsV4Addr
  | dnsV6Addr
  | dnsV4Port
  | dnsV6Port
  | blacklistLoad
  | autoTtl
  | atousi
  | atoub
deriving DecidableEq, Repr

/-- The variables that no option sets back. -/
inductive GoodbyeFlag where
  | doPassivedpi
  | doBlockQuic
  | doFragmentHttp
  | doFragmentHttpPersistent
  | doFragmentHttpPersistentNowait
  | doFragmentHttps
  | doHost
  | doHostRemovespace
  | doAdditionalSpace
  | doHttpAllports
  | doHostMixedcase
  | doDnsVerb
  | doTcpVerb
  | doBlacklist
  | doAllowNoSni
  | doFragmentBySni
  | doFakePacket
  | doWrongChksum
  | doWrongSeq
  | doNativeFrag
  | doReverseFrag
  | debugExit
deriving DecidableEq, Repr

structure TtlSettings where
  doAutoTtl : Bool
  ttlOfFakePacket : Nat
  autoTtl1 : Nat
  autoTtl2 : Nat
  autoTtlMax : Nat
deriving DecidableEq

structure DnsSettings where
  doDnsv4Redirect : Bool
  dnsv4Addr : Nat
  dnsv4Port : Nat
  doDnsv6Redirect : Bool
  dnsv6Addr : Nat
  dnsv6Port : Nat
  /-- The UDP ports in the filter. -/
  udpPorts : Finset Nat
deriving DecidableEq

inductive FakeLoad where
  | hex (text : String)
  | sni (name : String)
  | random (count : Nat)
deriving DecidableEq, Repr

structure ListSettings where
  /-- The TCP ports in the filter besides 80 and 443. -/
  tcpPorts : Finset Nat
  ipId : Option Nat
  blacklists : List String
  fakes : List FakeLoad
  fakesResend : Nat
deriving DecidableEq

structure GoodbyeSettings where
  flags : Finset GoodbyeFlag
  httpFragmentSize : Nat
  httpsFragmentSize : Nat
  maxPayloadSize : Nat
  ttlMinNhops : Nat
  ttl : TtlSettings
  dns : DnsSettings
  lists : ListSettings
deriving DecidableEq

def TtlSettings.initial : TtlSettings := ⟨false, 0, 0, 0, 0⟩

def DnsSettings.initial : DnsSettings := ⟨false, 0, 53, false, 0, 53, ∅⟩

def ListSettings.initial : ListSettings := ⟨∅, none, [], [], 1⟩

def GoodbyeSettings.initial : GoodbyeSettings := ⟨∅, 0, 0, 0, 0, .initial, .initial, .initial⟩

/-! ### Values of options -/

def atousi (text : String) : Except GoodbyeExit Nat :=
  if strtoul text.toList > u16Max then .error .atousi else .ok (strtoul text.toList)

def atoub (text : String) : Except GoodbyeExit Nat :=
  if strtoul text.toList > u8Max then .error .atoub else .ok (strtoul text.toList)

/-- The tokens of `strtok` with a dash. -/
def dashTokens (text : String) : List String :=
  ((text.toList.splitOn '-').filter (· ≠ [])).map String.ofList

/-- The two or three numbers of `--auto-ttl`. -/
structure AutoTtl where
  first : Nat
  second : Nat
  max : Option Nat
deriving DecidableEq, Repr

/-- A value of dashes only, for which the source passes a null pointer on, counts as an
error. -/
def readAutoTtl (text : String) : Except GoodbyeExit AutoTtl :=
  if '-' ∈ text.toList then
    match dashTokens text with
    | [] => .error .autoTtl
    | first :: others => do
        let autoTtl1 ← atoub first
        match others with
        | [] => .error .autoTtl
        | second :: others => do
            let autoTtl2 ← atoub second
            match others with
            | [] => .error .autoTtl
            | third :: _ => do
                let autoTtlMax ← atoub third
                return ⟨autoTtl1, autoTtl2, some autoTtlMax⟩
  else do
    let autoTtl2 ← atoub text
    return ⟨autoTtl2, autoTtl2, none⟩

/-- `argv[optind]`, if it does not look like an option. -/
def following : List String → Option String
  | [] => none
  | next :: _ => if next.toList.head? = some '-' then none else some next

/-- An option with its value. Where the value is optional, the source takes the next
argument for it. -/
def GoodbyeOpt.look (opt : GoodbyeOpt) (optarg : Option String) (rest : List String) :
    GoodbyeOpt × Option String :=
  match opt with
  | .autoTtl | .maxPayload => (opt, optarg <|> following rest)
  | opt => (opt, optarg)

/-! ### The options -/

section Flags

open GoodbyeFlag

/-- What the modesets 5 to 9 share. -/
def modernFlags : Finset GoodbyeFlag :=
  {doFragmentHttp, doFragmentHttps, doReverseFrag, doNativeFrag, doFragmentHttpPersistent,
    doFragmentHttpPersistentNowait, doFakePacket}

/-- What the modesets 1 and 2 share. -/
def legacyFlags : Finset GoodbyeFlag :=
  {doPassivedpi, doHost, doHostRemovespace, doFragmentHttp, doFragmentHttps,
    doFragmentHttpPersistent, doFragmentHttpPersistentNowait}

def GoodbyeOpt.raises : GoodbyeOpt → Finset GoodbyeFlag
  | .mode1 | .mode2 => legacyFlags
  | .mode3 => {doPassivedpi, doHost, doHostRemovespace, doFragmentHttps}
  | .mode4 => {doPassivedpi, doHost, doHostRemovespace}
  | .mode5 => modernFlags
  | .mode6 => modernFlags ∪ {doWrongSeq}
  | .mode7 => modernFlags ∪ {doWrongChksum}
  | .mode8 => modernFlags ∪ {doWrongSeq, doWrongChksum}
  | .mode9 => modernFlags ∪ {doBlockQuic, doWrongSeq, doWrongChksum}
  | .p => {doPassivedpi}
  | .q => {doBlockQuic}
  | .r => {doHost}
  | .s => {doHostRemovespace}
  | .a => {doAdditionalSpace, doHostRemovespace}
  | .m => {doHostMixedcase}
  | .f => {doFragmentHttp}
  | .k => {doFragmentHttpPersistent, doNativeFrag}
  | .n | .nativeFrag =>
      {doFragmentHttpPersistent, doFragmentHttpPersistentNowait, doNativeFrag}
  | .reverseFrag =>
      {doReverseFrag, doNativeFrag, doFragmentHttpPersistent, doFragmentHttpPersistentNowait}
  | .e => {doFragmentHttps}
  | .w => {doHttpAllports}
  | .dnsVerb => {doDnsVerb, doTcpVerb}
  | .blacklist => {doBlacklist}
  | .allowNoSni => {doAllowNoSni}
  | .fragBySni => {doFragmentBySni}
  | .setTtl | .minTtl | .autoTtl => {doFakePacket}
  | .wrongChksum => {doFakePacket, doWrongChksum}
  | .wrongSeq => {doFakePacket, doWrongSeq}
  | .debugExit => {GoodbyeFlag.debugExit}
  | .port | .ipId | .dnsAddr | .dnsPort | .dnsv6Addr | .dnsv6Port | .maxPayload | .fakeFromHex
  | .fakeWithSni | .fakeGen | .fakeResend => ∅

end Flags

/-- With `SET_HTTP_FRAGMENT_SIZE_OPTION` the first size other than zero stays. An option
with a required value always has one. -/
def stepHttpSize (size : Nat) (o : GoodbyeOpt × Option String) : Except GoodbyeExit Nat :=
  match o.1 with
  | .mode5 | .mode6 | .mode7 | .mode8 | .mode9 => .ok 2
  | .f | .k => do
      let given ← atousi (o.2.getD "")
      return if size = 0 then given else size
  | _ => .ok size

def stepHttpsSize (size : Nat) (o : GoodbyeOpt × Option String) : Except GoodbyeExit Nat :=
  match o.1 with
  | .mode2 | .mode3 => .ok 40
  | .mode5 | .mode6 | .mode7 | .mode8 | .mode9 => .ok 2
  | .e => atousi (o.2.getD "")
  | _ => .ok size

def stepMaxPayload (size : Nat) (o : GoodbyeOpt × Option String) : Except GoodbyeExit Nat :=
  match o.1 with
  | .mode5 | .mode6 | .mode7 | .mode8 | .mode9 => .ok 1200
  | .maxPayload =>
      match o.2 with
      | some text => atousi text
      | none => .ok 1200
  | _ => .ok size

def stepMinNhops (hops : Nat) (o : GoodbyeOpt × Option String) : Except GoodbyeExit Nat :=
  match o.1 with
  | .minTtl => atoub (o.2.getD "")
  | _ => .ok hops

def TtlSettings.withAutoTtl (v : TtlSettings) (ttl : AutoTtl) : TtlSettings :=
  { v with autoTtl1 := ttl.first, autoTtl2 := ttl.second,
           autoTtlMax := ttl.max.getD v.autoTtlMax }

def stepTtl (v : TtlSettings) (o : GoodbyeOpt × Option String) :
    Except GoodbyeExit TtlSettings :=
  match o.1 with
  | .mode5 => .ok { v with doAutoTtl := true }
  | .setTtl => do
      let ttl ← atoub (o.2.getD "")
      return ⟨false, ttl, 0, 0, 0⟩
  | .autoTtl =>
      match o.2 with
      | some text => do
          let ttl ← readAutoTtl text
          return ({ v with doAutoTtl := true } : TtlSettings).withAutoTtl ttl
      | none => .ok { v with doAutoTtl := true }
  | _ => .ok v

def GoodbyeOpt.isDns : GoodbyeOpt → Bool
  | .dnsAddr | .dnsPort | .dnsv6Addr | .dnsv6Port => true
  | _ => false

/-- What the process finds on the computer. -/
structure GoodbyeHost where
  inetPton4 : String → Option Nat
  inetPton6 : String → Option Nat
  loadList : String → Bool

namespace GoodbyeHost

/-- The port, which is in the filter anyway if it is 53. -/
def portFilter (port : Nat) : Finset Nat := if port ≠ 53 then {port} else ∅

def stepDns (host : GoodbyeHost) (v : DnsSettings) (o : GoodbyeOpt × Option String) :
    Except GoodbyeExit DnsSettings :=
  match o.1 with
  | .dnsAddr =>
      match host.inetPton4 (o.2.getD ""), v.doDnsv4Redirect with
      | some addr, false =>
          .ok { v with doDnsv4Redirect := true, dnsv4Addr := addr, udpPorts := v.udpPorts ∪ {53} }
      | _, _ => .error .dnsV4Addr
  | .dnsv6Addr =>
      match host.inetPton6 (o.2.getD ""), v.doDnsv6Redirect with
      | some addr, false =>
          .ok { v with doDnsv6Redirect := true, dnsv6Addr := addr, udpPorts := v.udpPorts ∪ {53} }
      | _, _ => .error .dnsV6Addr
  | .dnsPort =>
      if !v.doDnsv4Redirect then .error .dnsV4Port
      else do
        let port ← atousi (o.2.getD "")
        return { v with dnsv4Port := port, udpPorts := v.udpPorts ∪ portFilter port }
  | .dnsv6Port =>
      if !v.doDnsv6Redirect then .error .dnsV6Port
      else do
        let port ← atousi (o.2.getD "")
        return { v with dnsv6Port := port, udpPorts := v.udpPorts ∪ portFilter port }
  | _ => .ok v

def stepLists (host : GoodbyeHost) (v : ListSettings) (o : GoodbyeOpt × Option String) :
    Except GoodbyeExit ListSettings :=
  let value := o.2.getD ""
  match o.1 with
  | .port =>
      let i := atoi value.toList
      if i ≤ 0 ∨ i > 65535 then .error .portBounds
      else if i ≠ 80 ∧ i ≠ 443 then .ok { v with tcpPorts := insert i.toNat v.tcpPorts }
      else .ok v
  | .ipId => do
      let id ← atousi value
      return { v with ipId := v.ipId <|> some id }
  | .blacklist =>
      if host.loadList value then .ok { v with blacklists := v.blacklists ++ [value] }
      else .error .blacklistLoad
  | .fakeFromHex => .ok { v with fakes := v.fakes ++ [.hex value] }
  | .fakeWithSni => .ok { v with fakes := v.fakes ++ [.sni value] }
  | .fakeGen => do
      let count ← atoub value
      return { v with fakes := v.fakes ++ [.random count] }
  | .fakeResend => do
      let times ← atoub value
      return { v with fakesResend := times }
  | _ => .ok v

/-- What an option does, its value given. -/
def effect (host : GoodbyeHost) (v : GoodbyeSettings) (o : GoodbyeOpt × Option String) :
    Except GoodbyeExit GoodbyeSettings := do
  let httpFragmentSize ← stepHttpSize v.httpFragmentSize o
  let httpsFragmentSize ← stepHttpsSize v.httpsFragmentSize o
  let maxPayloadSize ← stepMaxPayload v.maxPayloadSize o
  let ttlMinNhops ← stepMinNhops v.ttlMinNhops o
  let ttl ← stepTtl v.ttl o
  let dns ← host.stepDns v.dns o
  let lists ← host.stepLists v.lists o
  return ⟨v.flags ∪ o.1.raises, httpFragmentSize, httpsFragmentSize, maxPayloadSize, ttlMinNhops,
    ttl, dns, lists⟩

/-- The body of the loop. -/
def apply (host : GoodbyeHost) (opt : GoodbyeOpt) (optarg : Option String) (rest : List String)
    (v : GoodbyeSettings) : Except GoodbyeExit GoodbyeSettings :=
  host.effect v (opt.look optarg rest)

end GoodbyeHost

/-! ### The whole command line -/

/-- The number, unless it is zero. -/
def orElse (n otherwise : Nat) : Nat := if n = 0 then otherwise else n

def TtlSettings.finish (v : TtlSettings) : TtlSettings :=
  { v with
    autoTtl1 := orElse v.autoTtl1 1
    autoTtl2 := orElse v.autoTtl2 4
    autoTtlMax := if v.doAutoTtl then orElse v.autoTtlMax 10 else v.autoTtlMax }

/-- The defaults behind the loop. -/
def GoodbyeSettings.finish (v : GoodbyeSettings) : GoodbyeSettings :=
  { v with
    httpFragmentSize := orElse v.httpFragmentSize 2
    httpsFragmentSize := orElse v.httpsFragmentSize 2
    ttlMinNhops := if v.ttl.doAutoTtl then orElse v.ttlMinNhops 3 else v.ttlMinNhops
    ttl := v.ttl.finish }

/-- Without arguments the modeset 9 is in force. -/
def startSettings (args : List String) : GoodbyeSettings :=
  if args = [] then
    { GoodbyeSettings.initial with
      flags := GoodbyeOpt.raises .mode9
      httpFragmentSize := 2
      httpsFragmentSize := 2
      maxPayloadSize := 1200 }
  else .initial

def GoodbyeHost.settings (host : GoodbyeHost) (args : List String) :
    Except GoodbyeExit GoodbyeSettings := do
  let v ← loop goodbyeTable host.apply .default (startSettings args) args
  return v.finish

/-! ### One option -/

variable {host : GoodbyeHost} {o : GoodbyeOpt × Option String} {v v' : GoodbyeSettings}
  {args : List String}

/-- An option acts on every group of variables for itself. -/
theorem effect_eq_ok : host.effect v o = .ok v' ↔
    v'.flags = v.flags ∪ o.1.raises ∧ stepHttpSize v.httpFragmentSize o = .ok v'.httpFragmentSize ∧
      stepHttpsSize v.httpsFragmentSize o = .ok v'.httpsFragmentSize ∧
      stepMaxPayload v.maxPayloadSize o = .ok v'.maxPayloadSize ∧
      stepMinNhops v.ttlMinNhops o = .ok v'.ttlMinNhops ∧ stepTtl v.ttl o = .ok v'.ttl ∧
      host.stepDns v.dns o = .ok v'.dns ∧ host.stepLists v.lists o = .ok v'.lists := by
  unfold GoodbyeHost.effect
  simp only [Fold.bind_eq_ok]
  constructor
  · rintro ⟨_, http, _, https, _, payload, _, hops, _, ttl, _, dns, _, lists, ⟨⟩⟩
    exact ⟨rfl, http, https, payload, hops, ttl, dns, lists⟩
  · rintro ⟨flags, http, https, payload, hops, ttl, dns, lists⟩
    refine ⟨_, http, _, https, _, payload, _, hops, _, ttl, _, dns, _, lists, ?_⟩
    rw [← flags]
    rfl

theorem stepDns_idle (other : o.1.isDns = false) (dns : DnsSettings) :
    host.stepDns dns o = .ok dns := by
  obtain ⟨opt, optarg⟩ := o
  cases opt <;> first | rfl | cases other

theorem loop_apply_eq_ok : loop goodbyeTable host.apply .default v args = .ok v' ↔
    ∃ opts, goodbyeTable.parse GoodbyeOpt.look args = some opts ∧
      opts.foldlM host.effect v = .ok v' :=
  loop_eq_ok fun _ _ _ _ => rfl

theorem settings_eq_ok : host.settings args = .ok v' ↔
    ∃ opts v, goodbyeTable.parse GoodbyeOpt.look args = some opts ∧
      opts.foldlM host.effect (startSettings args) = .ok v ∧ v' = v.finish := by
  unfold GoodbyeHost.settings
  rw [Fold.bind_eq_ok]
  simp only [loop_apply_eq_ok]
  constructor
  · rintro ⟨v, ⟨opts, parsed, applied⟩, ⟨⟩⟩
    exact ⟨opts, v, parsed, applied, rfl⟩
  · rintro ⟨opts, v, parsed, applied, rfl⟩
    exact ⟨v, ⟨opts, parsed, applied⟩, rfl⟩

end ZonDpi.Engine
