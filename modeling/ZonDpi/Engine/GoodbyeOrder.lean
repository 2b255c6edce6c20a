import ZonDpi.Engine.GoodbyeOptions

/-!
Which options of GoodbyeDPI may trade places.

Most of them may, since they set different variables or the same ones to the same value.
`clashes` names the pairs that may not, for an option that is passed through and a typed
one behind it, which the service writes before it.
-/

namespace ZonDpi.Engine

open Fold

/-! ### Who sets what -/

namespace GoodbyeOpt

/-- The modesets 5 to 9. -/
def modern : GoodbyeOpt → Bool
  | .mode5 | .mode6 | .mode7 | .mode8 | .mode9 => true
  | _ => false

def sizesHttp : GoodbyeOpt → Bool
  | .f | .k => true
  | _ => false

def sizesHttps : GoodbyeOpt → Bool
  | .mode2 | .mode3 | .e => true
  | _ => false

def ttlMode : GoodbyeOpt → Bool
  | .mode5 | .setTtl | .autoTtl => true
  | _ => false

def isDnsv4 : GoodbyeOpt → Bool
  | .dnsAddr | .dnsPort => true
  | _ => false

def isDnsv6 : GoodbyeOpt → Bool
  | .dnsv6Addr | .dnsv6Port => true
  | _ => false

def fillsList : GoodbyeOpt → Bool
  | .port | .ipId | .blacklist | .fakeFromHex | .fakeWithSni | .fakeGen | .fakeResend => true
  | _ => false

/-! ### Who must not trade places -/

def httpClash (custom typed : GoodbyeOpt) : Bool := custom.sizesHttp && typed.sizesHttp

/-- The modesets agree on a size with one another, but not with the others. -/
def httpsClash (custom typed : GoodbyeOpt) : Bool :=
  custom.sizesHttps && (typed.sizesHttps || typed.modern) || custom.modern && typed.sizesHttps

def payloadClash (custom typed : GoodbyeOpt) : Bool :=
  custom = .maxPayload && (typed = .maxPayload || typed.modern) ||
    custom.modern && typed = .maxPayload

def hopsClash (custom typed : GoodbyeOpt) : Bool := custom = .minTtl && typed = .minTtl

/-- `--set-ttl` takes back what the others do. -/
def ttlClash (custom typed : GoodbyeOpt) : Bool :=
  custom.ttlMode && typed = .setTtl || custom = .setTtl && typed.ttlMode ||
    custom = .autoTtl && typed = .autoTtl

def dnsClash (custom typed : GoodbyeOpt) : Bool :=
  custom.isDnsv4 && typed.isDnsv4 || custom.isDnsv6 && typed.isDnsv6

def clashes (custom typed : GoodbyeOpt) : Bool :=
  custom.httpClash typed || custom.httpsClash typed || custom.payloadClash typed ||
    custom.hopsClash typed || custom.ttlClash typed || custom.dnsClash typed || typed.fillsList

end GoodbyeOpt

variable {host : GoodbyeHost} {o o' : GoodbyeOpt × Option String}

/-! ### Fragment sizes -/

theorem stepHttpSize_modern (modern : o.1.modern = true) (size : Nat) :
    stepHttpSize size o = .ok 2 := by
  unfold stepHttpSize
  split <;> simp_all [GoodbyeOpt.modern]

theorem stepHttpSize_sized (sizes : o.1.sizesHttp = true) (size : Nat) :
    stepHttpSize size o =
      atousi (o.2.getD "") >>= fun given => .ok (if size = 0 then given else size) := by
  unfold stepHttpSize
  split <;> simp_all [GoodbyeOpt.sizesHttp] <;> rfl

theorem stepHttpSize_idle (modern : o.1.modern = false) (sizes : o.1.sizesHttp = false)
    (size : Nat) : stepHttpSize size o = .ok size := by
  unfold stepHttpSize
  split <;> simp_all [GoodbyeOpt.modern, GoodbyeOpt.sizesHttp]

/-- Once the size is 2, as the modesets have it, no option changes it. -/
theorem stepHttpSize_two {size next : Nat} (applied : stepHttpSize size o = .ok next) :
    stepHttpSize 2 o = .ok 2 := by
  cases modern : o.1.modern with
  | true => exact stepHttpSize_modern modern 2
  | false =>
      cases sizes : o.1.sizesHttp with
      | false => exact stepHttpSize_idle modern sizes 2
      | true =>
          rw [stepHttpSize_sized sizes] at applied ⊢
          obtain ⟨given, read, -⟩ := bind_eq_ok.mp applied
          exact bind_eq_ok.mpr ⟨given, read, rfl⟩

theorem stepHttpSize_swaps (free : o.1.httpClash o'.1 = false) :
    Swaps stepHttpSize o o' := by
  cases modern' : o'.1.modern with
  | true =>
      intro size _ last first second
      rw [stepHttpSize_modern modern'] at second
      cases second
      exact ⟨2, stepHttpSize_modern modern' size, stepHttpSize_two first⟩
  | false =>
      cases sizes' : o'.1.sizesHttp with
      | false => exact swaps_of_idle_right (stepHttpSize_idle modern' sizes')
      | true =>
          have sizes : o.1.sizesHttp = false := by simpa [GoodbyeOpt.httpClash, sizes'] using free
          cases modern : o.1.modern with
          | false => exact swaps_of_idle_left (stepHttpSize_idle modern sizes)
          | true =>
              intro size _ last first second
              rw [stepHttpSize_modern modern] at first
              cases first
              rw [stepHttpSize_sized sizes'] at second
              obtain ⟨given, read, ⟨⟩⟩ := bind_eq_ok.mp second
              refine ⟨if size = 0 then given else size, ?_, stepHttpSize_modern modern _⟩
              rw [stepHttpSize_sized sizes']
              exact bind_eq_ok.mpr ⟨given, read, rfl⟩

theorem stepHttpsSize_modern (modern : o.1.modern = true) (size : Nat) :
    stepHttpsSize size o = .ok 2 := by
  unfold stepHttpsSize
  split <;> simp_all [GoodbyeOpt.modern]

theorem stepHttpsSize_idle (idle : (o.1.modern || o.1.sizesHttps) = false) (size : Nat) :
    stepHttpsSize size o = .ok size := by
  unfold stepHttpsSize
  split <;> simp_all [GoodbyeOpt.modern, GoodbyeOpt.sizesHttps]

theorem stepHttpsSize_swaps (free : o.1.httpsClash o'.1 = false) :
    Swaps stepHttpsSize o o' := by
  unfold GoodbyeOpt.httpsClash at free
  cases idle : (o.1.modern || o.1.sizesHttps) with
  | false => exact swaps_of_idle_left (stepHttpsSize_idle idle)
  | true =>
      cases idle' : (o'.1.modern || o'.1.sizesHttps) with
      | false => exact swaps_of_idle_right (stepHttpsSize_idle idle')
      | true =>
          have modern : o.1.modern = true ∧ o'.1.modern = true := by grind
          exact swaps_of_same (stepHttpsSize_modern modern.1) (stepHttpsSize_modern modern.2)

/-! ### Payload and hops -/

theorem stepMaxPayload_modern (modern : o.1.modern = true) (size : Nat) :
    stepMaxPayload size o = .ok 1200 := by
  unfold stepMaxPayload
  split <;> simp_all [GoodbyeOpt.modern]

theorem stepMaxPayload_idle (idle : (o.1.modern || o.1 = .maxPayload) = false) (size : Nat) :
    stepMaxPayload size o = .ok size := by
  unfold stepMaxPayload
  split <;> simp_all [GoodbyeOpt.modern]

theorem stepMaxPayload_swaps (free : o.1.payloadClash o'.1 = false) :
    Swaps stepMaxPayload o o' := by
  unfold GoodbyeOpt.payloadClash at free
  cases idle : (o.1.modern || o.1 = .maxPayload) with
  | false => exact swaps_of_idle_left (stepMaxPayload_idle idle)
  | true =>
      cases idle' : (o'.1.modern || o'.1 = .maxPayload) with
      | false => exact swaps_of_idle_right (stepMaxPayload_idle idle')
      | true =>
          have modern : o.1.modern = true ∧ o'.1.modern = true := by grind
          exact swaps_of_same (stepMaxPayload_modern modern.1) (stepMaxPayload_modern modern.2)

theorem stepMinNhops_idle (other : o.1 ≠ .minTtl) (hops : Nat) :
    stepMinNhops hops o = .ok hops := by
  unfold stepMinNhops
  split <;> simp_all

theorem stepMinNhops_swaps (free : o.1.hopsClash o'.1 = false) :
    Swaps stepMinNhops o o' := by
  by_cases here : o.1 = .minTtl
  · have other : o'.1 ≠ .minTtl := by simpa [GoodbyeOpt.hopsClash, here] using free
    exact swaps_of_idle_right (stepMinNhops_idle other)
  · exact swaps_of_idle_left (stepMinNhops_idle here)

/-! ### The TTL -/

theorem stepTtl_idle (idle : o.1.ttlMode = false) (ttl : TtlSettings) :
    stepTtl ttl o = .ok ttl := by
  unfold stepTtl
  split <;> simp_all [GoodbyeOpt.ttlMode]

theorem stepTtl_mode5 (mode5 : o.1 = .mode5) (ttl : TtlSettings) :
    stepTtl ttl o = .ok { ttl with doAutoTtl := true } := by
  unfold stepTtl
  simp [mode5]

theorem stepTtl_autoTtl_raised (auto : o.1 = .autoTtl) (ttl : TtlSettings) :
    stepTtl { ttl with doAutoTtl := true } o = stepTtl ttl o := by
  unfold stepTtl
  simp [auto]

theorem stepTtl_autoTtl_raises (auto : o.1 = .autoTtl) {ttl next : TtlSettings}
    (applied : stepTtl ttl o = .ok next) : { next with doAutoTtl := true } = next := by
  simp only [stepTtl, auto] at applied
  split at applied
  · obtain ⟨_, _, ⟨⟩⟩ := bind_eq_ok.mp applied
    rfl
  · cases applied
    rfl

theorem GoodbyeOpt.ttlMode_cases {opt : GoodbyeOpt} (mode : opt.ttlMode = true) :
    opt = .mode5 ∨ opt = .setTtl ∨ opt = .autoTtl := by
  cases opt <;> simp_all [GoodbyeOpt.ttlMode]

theorem stepTtl_swaps (free : o.1.ttlClash o'.1 = false) : Swaps stepTtl o o' := by
  unfold GoodbyeOpt.ttlClash at free
  cases mode : o.1.ttlMode with
  | false => exact swaps_of_idle_left (stepTtl_idle mode)
  | true =>
      cases mode' : o'.1.ttlMode with
      | false => exact swaps_of_idle_right (stepTtl_idle mode')
      | true =>
          have options := GoodbyeOpt.ttlMode_cases mode
          have options' := GoodbyeOpt.ttlMode_cases mode'
          have left : o.1 = .mode5 ∧ (o'.1 = .mode5 ∨ o'.1 = .autoTtl) ∨
              o.1 = .autoTtl ∧ o'.1 = .mode5 := by grind
          intro ttl next last first second
          rcases left with ⟨mode5, mode5' | auto'⟩ | ⟨auto, mode5'⟩
          · rw [stepTtl_mode5 mode5] at first
            rw [stepTtl_mode5 mode5'] at second
            cases first
            cases second
            exact ⟨_, stepTtl_mode5 mode5' ttl, stepTtl_mode5 mode5 _⟩
          · rw [stepTtl_mode5 mode5] at first
            cases first
            rw [stepTtl_autoTtl_raised auto'] at second
            refine ⟨last, second, ?_⟩
            rw [stepTtl_mode5 mode5, stepTtl_autoTtl_raises auto' second]
          · rw [stepTtl_mode5 mode5', stepTtl_autoTtl_raises auto first] at second
            cases second
            refine ⟨_, stepTtl_mode5 mode5' ttl, ?_⟩
            rwa [stepTtl_autoTtl_raised auto]

/-! ### DNS -/

/-- What an option for one version of IP does to the variables of that version, and the
ports it adds. -/
structure DnsStep where
  redirect : Bool
  addr : Nat
  port : Nat
  ports : Finset Nat

def DnsSettings.part4 (dns : DnsSettings) : Bool × Nat × Nat :=
  (dns.doDnsv4Redirect, dns.dnsv4Addr, dns.dnsv4Port)

def DnsSettings.part6 (dns : DnsSettings) : Bool × Nat × Nat :=
  (dns.doDnsv6Redirect, dns.dnsv6Addr, dns.dnsv6Port)

def DnsSettings.set4 (dns : DnsSettings) (next : DnsStep) : DnsSettings :=
  { dns with doDnsv4Redirect := next.redirect, dnsv4Addr := next.addr, dnsv4Port := next.port,
             udpPorts := dns.udpPorts ∪ next.ports }

def DnsSettings.set6 (dns : DnsSettings) (next : DnsStep) : DnsSettings :=
  { dns with doDnsv6Redirect := next.redirect, dnsv6Addr := next.addr, dnsv6Port := next.port,
             udpPorts := dns.udpPorts ∪ next.ports }

theorem DnsSettings.set4_set6 (dns : DnsSettings) (next next' : DnsStep) :
    (dns.set4 next).set6 next' = (dns.set6 next').set4 next := by
  have ports : dns.udpPorts ∪ next.ports ∪ next'.ports = dns.udpPorts ∪ next'.ports ∪ next.ports :=
    Finset.union_right_comm ..
  simp only [DnsSettings.set4, DnsSettings.set6, ports]

/-- The step of an address option on its part of the settings. -/
def DnsStep.ofAddr (exit : GoodbyeExit) (found : Option Nat) (part : Bool × Nat × Nat) :
    Except GoodbyeExit DnsStep :=
  match found, part.1 with
  | some addr, false => .ok ⟨true, addr, part.2.2, {53}⟩
  | _, _ => .error exit

/-- The step of a port option on its part of the settings. -/
def DnsStep.ofPort (exit : GoodbyeExit) (read : Except GoodbyeExit Nat) (part : Bool × Nat × Nat) :
    Except GoodbyeExit DnsStep :=
  if !part.1 then .error exit
  else read >>= fun port => .ok ⟨part.1, part.2.1, port, GoodbyeHost.portFilter port⟩

/-- One version of IP: its options, its part of the settings and what the options do to it. -/
structure DnsFamily (host : GoodbyeHost) where
  addrOpt : GoodbyeOpt
  portOpt : GoodbyeOpt
  addrExit : GoodbyeExit
  portExit : GoodbyeExit
  inetPton : String → Option Nat
  part : DnsSettings → Bool × Nat × Nat
  set : DnsSettings → DnsStep → DnsSettings
  step_addr : ∀ dns optarg, host.stepDns dns (addrOpt, optarg) =
    DnsStep.ofAddr addrExit (inetPton (optarg.getD "")) (part dns) >>= fun next =>
      .ok (set dns next)
  step_port : ∀ dns optarg, host.stepDns dns (portOpt, optarg) =
    DnsStep.ofPort portExit (atousi (optarg.getD "")) (part dns) >>= fun next =>
      .ok (set dns next)
  part_set : ∀ dns next, part (set dns next) = (next.redirect, next.addr, next.port)
  set_set : ∀ dns next next', set (set dns next) next' =
    set dns ⟨next'.redirect, next'.addr, next'.port, next.ports ∪ next'.ports⟩
  set_part : ∀ dns, set dns ⟨(part dns).1, (part dns).2.1, (part dns).2.2, ∅⟩ = dns

def DnsFamily.ipv4 (host : GoodbyeHost) : DnsFamily host where
  addrOpt := .dnsAddr
  portOpt := .dnsPort
  addrExit := .dnsV4Addr
  portExit := .dnsV4Port
  inetPton := host.inetPton4
  part := DnsSettings.part4
  set := DnsSettings.set4
  step_addr := by
    rintro ⟨redirect, _, _, _, _, _, _⟩ optarg
    unfold GoodbyeHost.stepDns DnsStep.ofAddr
    cases host.inetPton4 (optarg.getD "") <;> cases redirect <;> rfl
  step_port := by
    rintro ⟨redirect, _, _, _, _, _, _⟩ optarg
    unfold GoodbyeHost.stepDns DnsStep.ofPort
    cases redirect <;> cases atousi (optarg.getD "") <;> rfl
  part_set := fun _ _ => rfl
  set_set := by simp [DnsSettings.set4]
  set_part := by simp [DnsSettings.set4, DnsSettings.part4]

def DnsFamily.ipv6 (host : GoodbyeHost) : DnsFamily host where
  addrOpt := .dnsv6Addr
  portOpt := .dnsv6Port
  addrExit := .dnsV6Addr
  portExit := .dnsV6Port
  inetPton := host.inetPton6
  part := DnsSettings.part6
  set := DnsSettings.set6
  step_addr := by
    rintro ⟨_, _, _, redirect, _, _, _⟩ optarg
    unfold GoodbyeHost.stepDns DnsStep.ofAddr
    cases host.inetPton6 (optarg.getD "") <;> cases redirect <;> rfl
  step_port := by
    rintro ⟨_, _, _, redirect, _, _, _⟩ optarg
    unfold GoodbyeHost.stepDns DnsStep.ofPort
    cases redirect <;> cases atousi (optarg.getD "") <;> rfl
  part_set := fun _ _ => rfl
  set_set := by simp [DnsSettings.set6]
  set_part := by simp [DnsSettings.set6, DnsSettings.part6]

theorem stepDns_v4 (host : GoodbyeHost) (v4 : o.1.isDnsv4 = true) :
    ∃ g : Bool × Nat × Nat → Except GoodbyeExit DnsStep, ∀ dns, host.stepDns dns o =
      g dns.part4 >>= fun next => .ok (dns.set4 next) := by
  obtain ⟨opt, optarg⟩ := o
  cases opt <;> cases v4
  case dnsAddr => exact ⟨_, fun dns => (DnsFamily.ipv4 host).step_addr dns optarg⟩
  case dnsPort => exact ⟨_, fun dns => (DnsFamily.ipv4 host).step_port dns optarg⟩

theorem stepDns_v6 (host : GoodbyeHost) (v6 : o.1.isDnsv6 = true) :
    ∃ g : Bool × Nat × Nat → Except GoodbyeExit DnsStep, ∀ dns, host.stepDns dns o =
      g dns.part6 >>= fun next => .ok (dns.set6 next) := by
  obtain ⟨opt, optarg⟩ := o
  cases opt <;> cases v6
  case dnsv6Addr => exact ⟨_, fun dns => (DnsFamily.ipv6 host).step_addr dns optarg⟩
  case dnsv6Port => exact ⟨_, fun dns => (DnsFamily.ipv6 host).step_port dns optarg⟩

theorem GoodbyeOpt.isDns_eq (opt : GoodbyeOpt) : opt.isDns = (opt.isDnsv4 || opt.isDnsv6) := by
  cases opt <;> rfl

theorem stepDns_swaps (free : o.1.dnsClash o'.1 = false) : Swaps host.stepDns o o' := by
  unfold GoodbyeOpt.dnsClash at free
  cases here : o.1.isDns with
  | false => exact swaps_of_idle_left (stepDns_idle here)
  | true =>
      cases here' : o'.1.isDns with
      | false => exact swaps_of_idle_right (stepDns_idle here')
      | true =>
          rw [GoodbyeOpt.isDns_eq] at here here'
          have versions : o.1.isDnsv4 = true ∧ o'.1.isDnsv6 = true ∨
              o.1.isDnsv6 = true ∧ o'.1.isDnsv4 = true := by grind
          rcases versions with ⟨v4, v6'⟩ | ⟨v6, v4'⟩
          · obtain ⟨_, step⟩ := stepDns_v4 host v4
            obtain ⟨_, step'⟩ := stepDns_v6 host v6'
            exact swaps_of_apart step step' (fun _ _ => rfl) (fun _ _ => rfl)
              DnsSettings.set4_set6
          · obtain ⟨_, step⟩ := stepDns_v6 host v6
            obtain ⟨_, step'⟩ := stepDns_v4 host v4'
            exact swaps_of_apart step step' (fun _ _ => rfl) (fun _ _ => rfl)
              fun dns next next' => (dns.set4_set6 next' next).symm

theorem stepLists_idle (idle : o.1.fillsList = false) (lists : ListSettings) :
    host.stepLists lists o = .ok lists := by
  unfold GoodbyeHost.stepLists
  split <;> simp_all [GoodbyeOpt.fillsList]

/-! ### All variables -/

/-- Two options that do not clash may trade places. -/
theorem effect_swaps (free : o.1.clashes o'.1 = false) : Swaps host.effect o o' := by
  simp only [GoodbyeOpt.clashes, Bool.or_eq_false_iff] at free
  obtain ⟨⟨⟨⟨⟨⟨freeHttp, freeHttps⟩, freePayload⟩, freeHops⟩, freeTtl⟩, freeDns⟩, freeLists⟩ := free
  intro v next last first second
  obtain ⟨flags, http, https, payload, hops, ttl, dns, lists⟩ := effect_eq_ok.mp first
  obtain ⟨flags', http', https', payload', hops', ttl', dns', lists'⟩ := effect_eq_ok.mp second
  obtain ⟨_, http', http⟩ := stepHttpSize_swaps freeHttp _ _ _ http http'
  obtain ⟨_, https', https⟩ := stepHttpsSize_swaps freeHttps _ _ _ https https'
  obtain ⟨_, payload', payload⟩ := stepMaxPayload_swaps freePayload _ _ _ payload payload'
  obtain ⟨_, hops', hops⟩ := stepMinNhops_swaps freeHops _ _ _ hops hops'
  obtain ⟨_, ttl', ttl⟩ := stepTtl_swaps freeTtl _ _ _ ttl ttl'
  obtain ⟨_, dns', dns⟩ := stepDns_swaps freeDns _ _ _ dns dns'
  obtain ⟨_, lists', lists⟩ :=
    swaps_of_idle_right (a := o) (stepLists_idle freeLists) _ _ _ lists lists'
  rw [flags, Finset.union_right_comm] at flags'
  exact ⟨⟨_, _, _, _, _, _, _, _⟩,
    effect_eq_ok.mpr ⟨rfl, http', https', payload', hops', ttl', dns', lists'⟩,
    effect_eq_ok.mpr ⟨flags', http, https, payload, hops, ttl, dns, lists⟩⟩

end ZonDpi.Engine
