import ZonDpi.Lib.Service
import ZonDpi.Dns.World
import ZonDpi.Engine.Workers
import ZonDpi.Manager.Program

/-!
The world of the engine manager, its runs, and the rules for its programs.

Between any two requests workers may crash and be restarted, and while `inner` is
not locked another client may set the DNS provider: that is `World.Drift`. An
operation that holds the lock therefore sees nothing change but the workers.
-/

namespace ZonDpi.Manager

open Effects ZonDpi.Dns ZonDpi.Engine ZonDpi.Supervisor

/-- `began` and `profileRefused` are history of the operation being served: the
state it found, and whether a profile it asked for could not be loaded. -/
structure World where
  dns : DnsWorld
  engines : EngineWorld
  inner : ManagerInner
  locked : Bool
  began : ManagerInner
  profileRefused : Bool

namespace World

def effect (w : World) : (r : MgrReq) → MgrResp r → World
  | .dns r, answer => { w with dns := w.dns.effect r answer }
  | .engine r, answer => { w with engines := w.engines.effect r answer }
  | .loadProfile _, .error _ => { w with profileRefused := true }
  | .lockInner, _ => { w with locked := true }
  | .publish inner, _ => { w with inner := inner, locked := false }
  | _, _ => w

/-- The answers a request may get. `assume` restricts those of the adapters'
network configuration; detection and profile loading may answer anything. -/
def Allowed (assume : DnsWorld → (r : DnsReq) → DnsResp r → Prop) (w : World) :
    (r : MgrReq) → MgrResp r → Prop
  | .dns r, answer => DiskFaithful w.dns r answer ∧ assume w.dns r answer
  | .engine r, answer => w.engines.Allowed r answer
  | .lockInner, inner => inner = w.inner
  | _, _ => True

/-- The workers move on their own. -/
def moveWorkers (w : World) (workers : List Worker) : World :=
  { w with engines := { w.engines with workers := workers } }

/-- `set_dns_provider`. -/
def setDnsProvider (w : World) (provider : DnsProvider) : World :=
  { w with inner := { w.inner with dnsProvider := provider } }

/-- What other parties do: workers move, and clients set the provider while the
lock is free. -/
def Drift (rely : Rely) (w w' : World) : Prop :=
  ∃ workers provider, rely.evolve w.engines.workers workers ∧
    (w.locked = true → provider = w.inner.dnsProvider) ∧
    w' = (w.moveWorkers workers).setDnsProvider provider

/-- Taking an operation in: its history begins. -/
def accept (w : World) : World :=
  { w with began := w.inner, profileRefused := false,
           engines := { w.engines with healthy := false } }

end World

def managerMachine (assume : DnsWorld → (r : DnsReq) → DnsResp r → Prop) (rely : Rely) :
    Machine MgrReq MgrResp World :=
  fun w r x w'' => ∃ w', World.Drift rely w w' ∧ w'.Allowed assume r x ∧ w'' = w'.effect r x

/-- The service. A crash leaves the disk and the adapters, and the manager that
is built next starts on a locked world: nobody can reach it yet. -/
def managerService (assume : DnsWorld → (r : DnsReq) → DnsResp r → Prop) (rely : Rely)
    (crash : World → World → Prop) (completes : ManagerOp → World → Prop) :
    Service MgrReq MgrResp World ManagerOp (Except EngineManagerError Unit) where
  machine := managerMachine assume rely
  program := ManagerOp.program
  boot := newManager >>= fun _ => pure (.ok ())
  accept := fun w _ => w.accept
  drift := World.Drift rely
  crash := crash
  completes := completes

namespace World

section Drift

variable {rely : Rely} {w w' w'' : World}

theorem Drift.refl (rely : Rely) (w : World) : Drift rely w w :=
  ⟨w.engines.workers, w.inner.dnsProvider, rely.refl _, fun _ => rfl, rfl⟩

theorem Drift.trans (first : Drift rely w w') (second : Drift rely w' w'') :
    Drift rely w w'' := by
  obtain ⟨workers, provider, evolved, provided, rfl⟩ := first
  obtain ⟨workers', provider', evolved', provided', rfl⟩ := second
  exact ⟨workers', provider', rely.trans evolved evolved',
    fun locked => (provided' locked).trans (provided locked), rfl⟩

theorem Drift.of_locked (drift : Drift rely w w') (locked : w.locked = true) :
    ∃ workers, rely.evolve w.engines.workers workers ∧ w' = w.moveWorkers workers := by
  obtain ⟨workers, provider, evolved, provided, rfl⟩ := drift
  obtain rfl := provided locked
  exact ⟨workers, evolved, rfl⟩

end Drift

end World

/-! ### Rules -/

section Rules

variable {assume : DnsWorld → (r : DnsReq) → DnsResp r → Prop} {rely : Rely} {w : World}
  {guard : World → MgrReq → Prop}

theorem always_mgrCall (r : MgrReq) {post : MgrResp r → World → Prop} :
    (Prog.ask r : MgrProg (MgrResp r)).Always (managerMachine assume rely) guard post w ↔
      guard w r ∧ ∀ w', World.Drift rely w w' → ∀ x, w'.Allowed assume r x →
        post x (w'.effect r x) := by
  rw [Prog.always_ask]
  refine and_congr_right fun _ => ⟨fun all w' drift x allowed =>
    all x _ ⟨w', drift, allowed, rfl⟩, ?_⟩
  rintro all x w'' ⟨w', drift, allowed, rfl⟩
  exact all w' drift x allowed

/-- A program of the DNS controller under the lock: the workers may move
meanwhile, as `E` allows. -/
theorem always_liftDns {α : Type} {p : DnsProg α} (locked : w.locked = true)
    {B : DnsWorld → Prop} {D : α → DnsWorld → Prop} {E : EngineWorld → Prop}
    (stable : ∀ e workers, E e → rely.evolve e.workers workers → E { e with workers := workers })
    (engines : E w.engines)
    (guards : ∀ d e r, B d → E e → guard { w with dns := d, engines := e } r)
    (dns : p.Always (dnsMachine assume) (fun d _ => B d) D w.dns) :
    (liftDns p).Always (managerMachine assume rely) guard
      (fun a w' => ∃ d e, D a d ∧ E e ∧ w' = { w with dns := d, engines := e }) w := by
  refine Prog.Always.embed (fun d w' => ∃ e, E e ∧ w' = { w with dns := d, engines := e })
    ?_ ?_ ?_ ⟨w.engines, engines, rfl⟩ dns
  · rintro d _ r x w'' ⟨e, held, rfl⟩ ⟨w', drift, ⟨faithful, allowed⟩, rfl⟩
    obtain ⟨workers, evolved, rfl⟩ := drift.of_locked locked
    exact ⟨d.effect r x, ⟨faithful, allowed, rfl⟩, _, stable e workers held evolved, rfl⟩
  · rintro d _ r ⟨e, held, rfl⟩ known
    exact guards d e _ known held
  · rintro a d _ ⟨e, held, rfl⟩ known
    exact ⟨d, e, known, held, rfl⟩

/-- A program of an engine adapter under the lock. -/
theorem always_liftEngine {α : Type} {p : EngineProg α} (locked : w.locked = true)
    {E : α → EngineWorld → Prop} (guards : ∀ e r, guard { w with engines := e } r)
    (engine : p.Always (engineMachine rely) (fun _ _ => True) E w.engines) :
    (liftEngine p).Always (managerMachine assume rely) guard
      (fun a w' => ∃ e, E a e ∧ w' = { w with engines := e }) w := by
  refine Prog.Always.embed (fun e w' => w' = { w with engines := e }) ?_ ?_ ?_ rfl engine
  · rintro e _ r x w'' rfl ⟨w', drift, allowed, rfl⟩
    obtain ⟨workers, evolved, rfl⟩ := drift.of_locked locked
    exact ⟨_, ⟨workers, evolved, allowed, rfl⟩, rfl⟩
  · rintro e _ r rfl -
    exact guards e _
  · rintro a e _ rfl known
    exact ⟨e, known, rfl⟩

end Rules

end ZonDpi.Manager
