import ZonDpi.Dns.Override
import ZonDpi.Manager.World

/-!
One operation with everything outside the manager given.

An `Environment` fixes the answers an operation gets: what the detector sees,
what the profile file holds, whether the files and the adapters do as they are
told, whether the binary is there and the port free, whether the worker comes up.
With those given an operation is a function of the world, and whether a start
succeeds can be read off the environment (`run_startLocked_isOk`).
-/

namespace ZonDpi.Manager

open Effects ZonDpi.Dns ZonDpi.Engine ZonDpi.Supervisor

structure Environment where
  security : DetectCaller → SecurityEnvironment
  profile : String → Except EngineManagerError ProfileDefinition
  clock : Option Nat
  dirCreated : Except String Unit
  tmpWritten : Except String Unit
  tmpRenamed : Except String Unit
  /-- `apply_dns_servers` and `ops.restore_dns` -/
  applied : Except DnsManagerError Unit
  restored : Except DnsManagerError Unit
  binary : EngineId → Except String BinaryPath
  dll : BinaryPath → DllPlace → Bool
  portFree : String → Nat → Bool
  spawned : Except SupervisorError Unit
  goodbyeStatus : SupervisorStatus × List String
  byedpiStatus : SupervisorStatus × SocksProbe

/-- What `find_active_outbound_adapter` reports, by the state of the adapters. -/
abbrev Finder : Type := DnsWorld → Except DnsManagerError AdapterDnsConfig

namespace Environment

def dnsAnswer (env : Environment) (find : Finder) (d : DnsWorld) : (r : DnsReq) → DnsResp r
  | .isFile => d.stateFile.isSome
  | .readToString => readFile d.stateFile
  | .createDirAll => env.dirCreated
  | .writeTmp _ => env.tmpWritten
  | .rename => env.tmpRenamed
  | .removeFile => .ok ()
  | .unixTime => env.clock
  | .findActiveOutboundAdapter => find d
  | .applyDnsServers _ _ _ => env.applied
  | .restoreDns _ => env.restored

def engineAnswer (env : Environment) (e : EngineWorld) : (r : EngineReq) → EngineResp r
  | .resolveBinary engine => env.binary engine
  | .dllIsFile binary place => env.dll binary place
  | .bindPort ip port => env.portFree ip port
  | .newSupervisor _ => e.workers.length
  | .spawn _ => env.spawned
  | .gracefulStop _ => .ok ()
  | .goodbyeStatus _ => env.goodbyeStatus
  | .byedpiStatus _ _ _ => env.byedpiStatus

def answer (env : Environment) (find : Finder) (w : World) : (r : MgrReq) → MgrResp r
  | .dns r => env.dnsAnswer find w.dns r
  | .engine r => env.engineAnswer w.engines r
  | .detect caller => env.security caller
  | .loadProfile profileId => env.profile profileId
  | .lockInner => w.inner
  | .publish _ => ()

def dnsHandler (env : Environment) (find : Finder) : Prog.Handler DnsReq DnsResp DnsWorld :=
  ⟨env.dnsAnswer find, DnsWorld.effect⟩

def engineHandler (env : Environment) : Prog.Handler EngineReq EngineResp EngineWorld :=
  ⟨env.engineAnswer, EngineWorld.effect⟩

def handler (env : Environment) (find : Finder) : Prog.Handler MgrReq MgrResp World :=
  ⟨env.answer find, World.effect⟩

def serve (env : Environment) (find : Finder) (w : World) (op : ManagerOp) :
    Except EngineManagerError Unit × World :=
  op.program.run (env.handler find) w.accept

/-! ### Whether a start succeeds -/

/-- `apply_dns` for the adapter reported. -/
def overrides (env : Environment) (report : Except DnsManagerError AdapterDnsConfig) : Bool :=
  match report with
  | .error _ => false
  | .ok adapter => adapter.validate.toBool && env.dirCreated.toBool && env.tmpWritten.toBool &&
      env.tmpRenamed.toBool && env.applied.toBool

def dllFound (env : Environment) (binary : BinaryPath) : Bool :=
  binary.parent.isNone || env.dll binary .besideExecutable || env.dll binary .distribution ||
    env.dll binary .workingDirectory

/-- `GoodbyeDpiAdapter::start` -/
def goodbyeStarts (env : Environment) (profile : ProfileDefinition) : Bool :=
  match env.binary .goodbyeDpi with
  | .error _ => false
  | .ok binary =>
      env.dllFound binary && (GoodbyeConfig.fromProfile profile).toBool && env.spawned.toBool

/-- `ByeDpiAdapter::start` -/
def byedpiStarts (env : Environment) (profile : ProfileDefinition) : Bool :=
  match ByeDpiConfig.fromProfile profile with
  | .error _ => false
  | .ok config => (env.binary .byeDpi).toBool && env.portFree config.listenIp config.port &&
      env.spawned.toBool

/-- The worker comes up and passes its health check. -/
def launches (env : Environment) (profile : ProfileDefinition) : EngineId → Bool
  | .goodbyeDpi => env.goodbyeStarts profile &&
      (goodbyeHealth env.goodbyeStatus.1 env.goodbyeStatus.2).isHealthy
  | .byeDpi => env.byedpiStarts profile &&
      (decide (env.byedpiStatus.1.state = .running) && env.byedpiStatus.2.accepted)
  | .native => false

/-- What `start_engine_internal` itself sees. -/
def kasperskyDetected (env : Environment) : Bool :=
  (env.security .startEngineInternal).containsProduct "kaspersky"

/-- GoodbyeDPI is to run beside Kaspersky, and the provider is not the system's
own. -/
def wantsOverride (env : Environment) (engine : EngineId) (provider : DnsProvider) : Bool :=
  decide (engine = .goodbyeDpi) && env.kasperskyDetected && provider.shouldOverrideSystem

def effectiveProfile (env : Environment) (engine : EngineId) (requestedProfile : String) : String :=
  if (env.security .resolveEffectiveProfile).containsProduct "kaspersky" = true ∧
      engine = .goodbyeDpi then "turkey-default"
  else requestedProfile

section Runs

variable {env : Environment} {find : Finder} {w : World}

@[simp] theorem run_liftDns {α : Type} (p : DnsProg α) :
    (liftDns p).run (env.handler find) w =
      ((p.run (env.dnsHandler find) w.dns).1,
        { w with dns := (p.run (env.dnsHandler find) w.dns).2 }) :=
  Prog.run_embed World.dns (fun w d => { w with dns := d }) (fun _ _ => rfl) (fun _ _ => rfl)
    (fun _ _ => rfl) (fun _ _ _ => rfl) (fun _ => rfl) p w

@[simp] theorem run_liftEngine {α : Type} (p : EngineProg α) :
    (liftEngine p).run (env.handler find) w =
      ((p.run env.engineHandler w.engines).1,
        { w with engines := (p.run env.engineHandler w.engines).2 }) :=
  Prog.run_embed World.engines (fun w e => { w with engines := e }) (fun _ _ => rfl)
    (fun _ _ => rfl) (fun _ _ => rfl) (fun _ _ _ => rfl) (fun _ => rfl) p w

theorem isOk_iff {ε : Type} {x : Except ε Unit} : x.toBool = true ↔ x = .ok () := by
  cases x <;> simp [Except.toBool]

theorem isOk_mapError {ε ε' α : Type} (f : ε → ε') (x : Except ε α) :
    (x.mapError f).toBool = x.toBool := by
  cases x <;> rfl

theorem run_saveState_isOk (state : DnsOverrideState) (d : DnsWorld) :
    ((saveState state).run (env.dnsHandler find) d).1.toBool =
      (state.validate.toBool && env.dirCreated.toBool && env.tmpWritten.toBool &&
        env.tmpRenamed.toBool) := by
  have created (d : DnsWorld) : (createDirAll.run (env.dnsHandler find) d).1.toBool =
      env.dirCreated.toBool := isOk_mapError _ env.dirCreated
  have written (text : StateText) (d : DnsWorld) :
      ((writeTmp text).run (env.dnsHandler find) d).1.toBool = env.tmpWritten.toBool :=
    isOk_mapError _ env.tmpWritten
  have renamed (d : DnsWorld) : (rename.run (env.dnsHandler find) d).1.toBool =
      env.tmpRenamed.toBool := isOk_mapError _ env.tmpRenamed
  unfold saveState
  cases state.validate with
  | error e => rfl
  | ok passed =>
      rw [Prog.run_andThen_isOk fun _ d => (Prog.run_andThen_isOk fun _ d => renamed d).trans
        (congrArg (· && _) (written _ d)), created, ← Bool.and_assoc]
      rfl

theorem run_applyDns_isOk {provider : DnsProvider}
    (overriding : provider.shouldOverrideSystem = true)
    (report : Except DnsManagerError AdapterDnsConfig) (d : DnsWorld) :
    ((applyDns provider).run (env.dnsHandler fun _ => report) d).1.toBool =
      env.overrides report := by
  simp only [applyDns, overriding, Bool.not_true, Bool.false_eq_true, if_false]
  cases report with
  | error e => rfl
  | ok adapter =>
      let state := DnsOverrideState.ofProvider env.clock adapter provider
      have valid : state.validate.toBool = adapter.validate.toBool := by
        rw [Bool.eq_iff_iff, isOk_iff, isOk_iff]
        exact DnsOverrideState.validate_ofProvider
      have applied (d : DnsWorld) : (((applyDnsServers adapter.interfaceIndex provider.endpointsV4
          provider.endpointsV6).andThen fun _ => pure (.ok state)).run
            (env.dnsHandler fun _ => .ok adapter) d).1.toBool = env.applied.toBool := by
        rw [Prog.run_andThen_isOk (b := true) fun _ _ => rfl, Bool.and_true]
        rfl
      calc _ = (((saveState state).run (env.dnsHandler fun _ => .ok adapter) d).1.toBool &&
              env.applied.toBool) := Prog.run_andThen_isOk fun _ d => applied d
        _ = env.overrides (.ok adapter) := by
          rw [run_saveState_isOk, valid]
          rfl

theorem run_dllAvailable (binary : BinaryPath) (e : EngineWorld) :
    (dllAvailable binary).run env.engineHandler e = (env.dllFound binary, e) := by
  have asked (place : DllPlace) (e : EngineWorld) :
      (dllIsFile binary place).run env.engineHandler e = (env.dll binary place, e) := rfl
  unfold dllAvailable dllFound
  cases binary.parent with
  | none => rfl
  | some parent =>
      cases beside : env.dll binary .besideExecutable with
      | true => simp [asked, beside]
      | false =>
          cases distributed : env.dll binary .distribution <;> simp [asked, beside, distributed]

theorem run_goodbyeStart_isOk (adapter : GoodbyeDpiAdapter) (profile : ProfileDefinition)
    (suppress : Bool) (e : EngineWorld) :
    ((adapter.start profile suppress).run env.engineHandler e).1.1.toBool =
      env.goodbyeStarts profile := by
  have asked : (resolveBinary .goodbyeDpi).run env.engineHandler e =
      (env.binary .goodbyeDpi, e) := rfl
  simp only [GoodbyeDpiAdapter.start, goodbyeStarts, Prog.run_bind, asked]
  cases env.binary .goodbyeDpi with
  | error message => rfl
  | ok binary =>
      simp only [Prog.run_bind, run_dllAvailable]
      cases env.dllFound binary with
      | false => rfl
      | true =>
          cases GoodbyeConfig.fromProfile profile with
          | error e => rfl
          | ok config => exact isOk_mapError _ env.spawned

theorem run_launchGoodbye_isOk (profile : ProfileDefinition) (suppress : Bool)
    (inner : ManagerInner) :
    ((launchGoodbye profile suppress inner).run (env.handler find) w).1.1.toBool =
      env.launches profile .goodbyeDpi := by
  have checked (adapter : GoodbyeDpiAdapter) (e : EngineWorld) :
      (adapter.healthCheck.run env.engineHandler e).1 =
        goodbyeHealth env.goodbyeStatus.1 env.goodbyeStatus.2 := rfl
  simp only [launchGoodbye, launches, Prog.run_bind, run_liftEngine]
  rw [← run_goodbyeStart_isOk inner.goodbyeAdapter profile suppress w.engines]
  rcases ((inner.goodbyeAdapter.start profile suppress).run env.engineHandler w.engines).1 with
    ⟨_ | _, adapter⟩
  · simp [Except.toBool]
  · simp only [Prog.run_bind, run_liftEngine, checked]
    cases (goodbyeHealth env.goodbyeStatus.1 env.goodbyeStatus.2).isHealthy <;>
      simp [Except.toBool]

theorem run_byedpiStart_isOk (adapter : ByeDpiAdapter) (profile : ProfileDefinition)
    (e : EngineWorld) :
    ((adapter.start profile).run env.engineHandler e).1.1.toBool = env.byedpiStarts profile := by
  have asked : (resolveBinary .byeDpi).run env.engineHandler e = (env.binary .byeDpi, e) := rfl
  have bound (ip : String) (port : Nat) : (bindPort ip port).run env.engineHandler e =
      (env.portFree ip port, e) := rfl
  simp only [ByeDpiAdapter.start, byedpiStarts, Prog.run_bind, asked]
  cases env.binary .byeDpi with
  | error message => cases ByeDpiConfig.fromProfile profile <;> rfl
  | ok binary =>
      cases ByeDpiConfig.fromProfile profile with
      | error e => rfl
      | ok config =>
          simp only [preflightCheckPort, Prog.run_bind, bound]
          cases env.portFree config.listenIp config.port with
          | false => rfl
          | true => exact isOk_mapError _ env.spawned

theorem run_launchByeDpi_isOk (profile : ProfileDefinition) (inner : ManagerInner) :
    ((launchByeDpi profile inner).run (env.handler find) w).1.1.toBool =
      env.launches profile .byeDpi := by
  have checked (adapter : ByeDpiAdapter) (e : EngineWorld) :
      (adapter.healthCheck.run env.engineHandler e).1.isHealthy =
        (decide (env.byedpiStatus.1.state = .running) && env.byedpiStatus.2.accepted) :=
    byedpiHealth_isHealthy _ _ _ _
  simp only [launchByeDpi, launches, Prog.run_bind, run_liftEngine]
  rw [← run_byedpiStart_isOk inner.byedpiAdapter profile w.engines]
  rcases ((inner.byedpiAdapter.start profile).run env.engineHandler w.engines).1 with
    ⟨_ | _, adapter⟩
  · simp [Except.toBool]
  · simp only [Prog.run_bind, run_liftEngine, checked]
    cases decide (env.byedpiStatus.1.state = .running) && env.byedpiStatus.2.accepted <;>
      simp [Except.toBool]

theorem run_launch_isOk (engine : EngineId) (profile : ProfileDefinition) (suppress : Bool)
    (inner : ManagerInner) :
    ((launch engine profile suppress inner).run (env.handler find) w).1.1.toBool =
      env.launches profile engine := by
  cases engine with
  | goodbyeDpi => exact run_launchGoodbye_isOk profile suppress inner
  | byeDpi => exact run_launchByeDpi_isOk profile inner
  | native => rfl

theorem run_stopActive_dnsProvider (inner : ManagerInner) :
    ((stopActive inner).run (env.handler find) w).1.dnsProvider = inner.dnsProvider := by
  unfold stopActive stopEngines rollbackDns
  cases inner.activeEngine.isSome with
  | false => rfl
  | true =>
      cases inner.kasperskyDnsOverrideApplied <;> simp

theorem run_overrideDns_isOk (engine : EngineId) (inner : ManagerInner)
    (report : Except DnsManagerError AdapterDnsConfig) :
    ((overrideDns engine env.kasperskyDetected inner).run (env.handler fun _ => report)
        w).1.1.toBool =
      (!env.wantsOverride engine inner.dnsProvider || env.overrides report) := by
  unfold overrideDns wantsOverride
  split
  · rename_i wanted
    obtain ⟨rfl, kaspersky, overriding⟩ := wanted
    rw [← run_applyDns_isOk overriding report w.dns]
    simp only [Prog.run_bind, run_liftDns, kaspersky, overriding]
    cases ((applyDns inner.dnsProvider).run (env.dnsHandler fun _ => report) w.dns).1 <;>
      simp [Except.toBool]
  · rename_i unwanted
    have unwanted : (decide (engine = .goodbyeDpi) && env.kasperskyDetected &&
        inner.dnsProvider.shouldOverrideSystem) = false := by
      simpa [and_assoc] using unwanted
    rw [unwanted]
    rfl

/-- A start that has its profile succeeds when its override does and the worker
comes up. -/
theorem run_startLocked_isOk_of {engine : EngineId} {inner : ManagerInner} {b : Bool}
    (overridden : ∀ (stopped : ManagerInner) (w' : World), stopped.dnsProvider = inner.dnsProvider →
      ((overrideDns engine env.kasperskyDetected stopped).run (env.handler find)
        w').1.1.toBool = b)
    (profileId : String) (profile : ProfileDefinition) (mode : ActiveMode) :
    ((startLocked engine env.kasperskyDetected profileId profile mode inner).run
        (env.handler find) w).1.1.toBool = (b && env.launches profile engine) := by
  let h := env.handler find
  have provider : ((stopActive { inner with requestedEngine := some engine }).run h
      w).1.dnsProvider = inner.dnsProvider := run_stopActive_dnsProvider _
  rw [startLocked, Prog.run_bind]
  generalize (stopActive { inner with requestedEngine := some engine }).run h w = stopped
    at provider ⊢
  rw [Prog.run_bind, ← overridden stopped.1 stopped.2 provider]
  rcases (overrideDns engine env.kasperskyDetected stopped.1).run h stopped.2 with
    ⟨⟨_ | _, overridden⟩, w'⟩
  · rfl
  · have up : ((launch engine profile env.kasperskyDetected overridden).run h w').1.1.toBool =
        env.launches profile engine := run_launch_isOk ..
    simp only [Prog.run_bind, ← up]
    rcases (launch engine profile env.kasperskyDetected overridden).run h w' with
      ⟨⟨_ | _, launched⟩, w''⟩
    · rfl
    · rfl

/-- With one report of the outbound adapter. -/
theorem run_startLocked_isOk (engine : EngineId) (profileId : String) (profile : ProfileDefinition)
    (mode : ActiveMode) (inner : ManagerInner) (report : Except DnsManagerError AdapterDnsConfig) :
    ((startLocked engine env.kasperskyDetected profileId profile mode inner).run
        (env.handler fun _ => report) w).1.1.toBool =
      ((!env.wantsOverride engine inner.dnsProvider || env.overrides report) &&
        env.launches profile engine) := by
  refine run_startLocked_isOk_of (fun stopped w' provider => ?_) profileId profile mode
  rw [run_overrideDns_isOk, provider]

/-- ByeDPI wants no override, so for it nothing but the worker counts. -/
theorem run_startLocked_byeDpi_isOk (profileId : String) (profile : ProfileDefinition)
    (mode : ActiveMode) (inner : ManagerInner) :
    ((startLocked .byeDpi env.kasperskyDetected profileId profile mode inner).run
        (env.handler find) w).1.1.toBool = env.launches profile .byeDpi := by
  rw [run_startLocked_isOk_of (b := true) (fun _ _ _ => rfl), Bool.true_and]

/-! ### The steps before the lock -/

theorem run_resolveEffectiveProfile (engine : EngineId) (profileId : String) :
    (resolveEffectiveProfile engine profileId).run (env.handler find) w =
      (env.effectiveProfile engine profileId, w) := by
  have asked : (detect .resolveEffectiveProfile).run (env.handler find) w =
      (env.security .resolveEffectiveProfile, w) := rfl
  rw [resolveEffectiveProfile, Prog.run_bind, asked, effectiveProfile]
  split <;> rfl

theorem run_startEngineInternal (engine : EngineId) (profileId : String) (mode : ActiveMode) :
    (startEngineInternal engine profileId mode).run (env.handler find) w =
      match env.profile (env.effectiveProfile engine profileId) with
      | .error e => (.error e, { w with profileRefused := true })
      | .ok profile =>
          (withInner (startLocked engine env.kasperskyDetected
            (env.effectiveProfile engine profileId) profile mode)).run (env.handler find) w := by
  have asked : (detect .startEngineInternal).run (env.handler find) w =
      (env.security .startEngineInternal, w) := rfl
  have loaded (profileId : String) : (loadProfile profileId).run (env.handler find) w =
      (env.profile profileId, w.effect (.loadProfile profileId) (env.profile profileId)) := rfl
  rw [startEngineInternal, Prog.run_bind, asked, Prog.run_bind, run_resolveEffectiveProfile,
    Prog.andThen, Prog.run_bind, loaded]
  cases env.profile (env.effectiveProfile engine profileId) <;> rfl

/-- Code under the lock works on the inner state it found, and what it returns is
published. -/
theorem run_withInner {α : Type} (body : ManagerInner → MgrProg (α × ManagerInner)) :
    (withInner body).run (env.handler find) w =
      (((body w.inner).run (env.handler find) { w with locked := true }).1.1,
        { ((body w.inner).run (env.handler find) { w with locked := true }).2 with
          inner := ((body w.inner).run (env.handler find) { w with locked := true }).1.2
          locked := false }) := by
  have locked : lockInner.run (env.handler find) w = (w.inner, { w with locked := true }) := rfl
  have published (inner : ManagerInner) (w : World) : (publish inner).run (env.handler find) w =
      ((), { w with inner := inner, locked := false }) := rfl
  simp only [withInner, Prog.run_bind, Prog.run_pure, locked, published]

/-! ### Such a run is a run of the manager -/

theorem ends_run {assume : DnsWorld → (r : DnsReq) → DnsResp r → Prop}
    (allowed : ∀ d r, assume d r (env.dnsAnswer find d r)) (rely : Rely) {α : Type}
    (p : MgrProg α) :
    p.Ends (managerMachine assume rely) w (p.run (env.handler find) w).1
      (p.run (env.handler find) w).2 := by
  refine Prog.run_ends fun w r => ⟨w, .refl rely w, ?_, rfl⟩
  cases r with
  | dns r => exact ⟨by cases r <;> trivial, allowed w.dns r⟩
  | engine r => cases r <;> trivial
  | lockInner => rfl
  | _ => trivial

/-- Serving an operation in an environment, as part of a run. -/
theorem reaches_serve {assume : DnsWorld → (r : DnsReq) → DnsResp r → Prop} {rely : Rely}
    {crash : World → World → Prop} {completes : ManagerOp → World → Prop}
    (allowed : ∀ d r, assume d r (env.dnsAnswer find d r)) (op : ManagerOp)
    (done : completes op (env.serve find w op).2) :
    (managerService assume rely crash completes).Reaches ⟨w, .idle⟩
      ⟨(env.serve find w op).2, .idle⟩ :=
  Service.reaches_served (ends_run allowed rely op.program) done

end Runs

end Environment

/-! ### An example computer -/

/-- The shipped profile of that name. -/
def turkeyDefault : ProfileDefinition where
  id := "turkey-default"
  name := "Türk Telekom / Genel Türkiye Varsayılanı (-5 + Cloudflare DNS)"
  description := "Doğrulanmış Modeset -5 (native-frag, reverse-frag, auto-ttl 1-4-10, max-payload " ++
    "1200) ve temiz Cloudflare DNS (1.1.1.1:53 / 2606:4700:4700::1111:53) ile Türkiye DPI aşımı."
  targetEngine := "GoodbyeDPI"
  arguments := ["-5", "--dns-addr", "1.1.1.1", "--dns-port", "53", "--dnsv6-addr",
    "2606:4700:4700::1111", "--dnsv6-port", "53"]

/-- A computer with Kaspersky on which everything works. -/
def kasperskyPc : Environment where
  security := fun _ => ⟨[⟨"Kaspersky Premium", 266240, none, none⟩], .available⟩
  profile := fun _ => .ok turkeyDefault
  clock := some 0
  dirCreated := .ok ()
  tmpWritten := .ok ()
  tmpRenamed := .ok ()
  applied := .ok ()
  restored := .ok ()
  binary := fun _ => .ok ⟨"engine.exe", none⟩
  dll := fun _ _ => true
  portFree := fun _ _ => true
  spawned := .ok ()
  goodbyeStatus := (⟨.running, some 4711, some 0, none⟩, [])
  byedpiStatus := (⟨.running, some 4711, some 0, none⟩, .response 5 0 1)

/-- The outbound adapter is the one with index 2, reported as it is. -/
def findEthernet : Finder := fun d =>
  if (d.adapters 2).interfaceIndex = 2 then .ok (d.adapters 2)
  else .error (.adapterNotFound "No active outbound adapter")

/-- The world before the service has run for the first time. -/
def firstWorld : World where
  dns := cleanWorld
  engines := ⟨[], false⟩
  inner := .new 0 1
  locked := true
  began := .new 0 1
  profileRefused := false

/-- The world after the first boot. -/
def freshWorld : World :=
  { firstWorld with
    engines := ⟨[⟨.new goodbyeName "goodbyedpi.exe" [], .idle⟩,
      ⟨.new byedpiName "ciadpi.exe" [], .idle⟩], false⟩
    locked := false }

example : (newManager.run (kasperskyPc.handler findEthernet) firstWorld).2 = freshWorld := rfl

/-- GoodbyeDPI started on it. -/
def startedWorld : World :=
  (kasperskyPc.serve findEthernet freshWorld (.startEngine .goodbyeDpi "superonline-default")).2

end ZonDpi.Manager
