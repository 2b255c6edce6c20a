import Mathlib.Logic.Relation
import ZonDpi.Lib.Program

/-!
A service that serves one operation at a time.

A service has a world, a program for each operation and a boot program. It
accepts an operation when it is idle, answers the requests of the running
program one at a time, and is idle again when the program returns. Between any
two of these steps the world may drift (other parties act on it) and the service
may crash, which drops the running program and starts the boot program on what
is left of the world.

`Service.Invariant` is the induction over such runs, done once: an invariant
needs one obligation for each operation (a `Prog.Always`), one for the boot
program and one for drift.
-/

namespace Effects

variable {Req : Type} {Resp : Req → Type} {W Op Res : Type}

/-- What a service is doing. -/
inductive Activity (Req : Type) (Resp : Req → Type) (Op Res : Type) : Type where
  | idle
  | booting (rest : Prog Req Resp Res)
  | serving (op : Op) (rest : Prog Req Resp Res)

structure Service (Req : Type) (Resp : Req → Type) (W Op Res : Type) where
  machine : Machine Req Resp W
  program : Op → Prog Req Resp Res
  boot : Prog Req Resp Res
  /-- Taking an operation in. -/
  accept : W → Op → W
  /-- What other parties may do to the world at any time. -/
  drift : W → W → Prop
  /-- What a crash leaves of the world. -/
  crash : W → W → Prop
  /-- The runs considered: an operation ends only in a world this accepts. -/
  completes : Op → W → Prop

namespace Service

structure State (Req : Type) (Resp : Req → Type) (W Op Res : Type) where
  world : W
  activity : Activity Req Resp Op Res

inductive Step (S : Service Req Resp W Op Res) :
    State Req Resp W Op Res → State Req Resp W Op Res → Prop where
  | accept {w : W} (op : Op) :
      Step S ⟨w, .idle⟩ ⟨S.accept w op, .serving op (S.program op)⟩
  | answer {w w' : W} {op : Op} {r : Req} {next : Resp r → Prog Req Resp Res} {x : Resp r} :
      S.machine w r x w' → Step S ⟨w, .serving op (.request r next)⟩ ⟨w', .serving op (next x)⟩
  | finish {w : W} {op : Op} {result : Res} :
      S.completes op w → Step S ⟨w, .serving op (.pure result)⟩ ⟨w, .idle⟩
  | bootAnswer {w w' : W} {r : Req} {next : Resp r → Prog Req Resp Res} {x : Resp r} :
      S.machine w r x w' → Step S ⟨w, .booting (.request r next)⟩ ⟨w', .booting (next x)⟩
  | bootFinish {w : W} {result : Res} : Step S ⟨w, .booting (.pure result)⟩ ⟨w, .idle⟩
  | drift {w w' : W} {activity : Activity Req Resp Op Res} :
      S.drift w w' → Step S ⟨w, activity⟩ ⟨w', activity⟩
  | crash {w w' : W} {activity : Activity Req Resp Op Res} :
      S.crash w w' → Step S ⟨w, activity⟩ ⟨w', .booting S.boot⟩

abbrev Reaches (S : Service Req Resp W Op Res) :
    State Req Resp W Op Res → State Req Resp W Op Res → Prop :=
  Relation.ReflTransGen S.Step

/-- The obligations of an invariant: `Idle` holds whenever no operation runs,
`Busy` holds at every point, `Booted` holds when the boot program returns. -/
structure Invariant (S : Service Req Resp W Op Res) (Idle Busy Booted : W → Prop) : Prop where
  idle_busy : ∀ w, Idle w → Busy w
  booted_idle : ∀ w, Booted w → Idle w
  drift_idle : ∀ w w', S.drift w w' → Idle w → Idle w'
  drift_busy : ∀ w w', S.drift w w' → Busy w → Busy w'
  drift_booted : ∀ w w', S.drift w w' → Booted w → Booted w'
  drift_completes : ∀ op w w', S.drift w w' → S.completes op w' → S.completes op w
  absorbs : ∀ w w' r x w'', S.drift w w' → S.machine w' r x w'' → S.machine w r x w''
  serve : ∀ w op, Idle w → (S.program op).Always S.machine (fun w _ => Busy w)
    (fun _ w => Busy w ∧ (S.completes op w → Idle w)) (S.accept w op)
  restart : ∀ w w', Busy w → S.crash w w' →
    S.boot.Always S.machine (fun w _ => Busy w) (fun _ w => Booted w) w'

/-- What the invariant says of a state: a running program carries the
obligation of what is left of it. -/
def Holds (S : Service Req Resp W Op Res) (Idle Busy Booted : W → Prop) :
    State Req Resp W Op Res → Prop
  | ⟨w, .idle⟩ => Idle w
  | ⟨w, .booting rest⟩ =>
      rest.Always S.machine (fun w _ => Busy w) (fun _ w => Booted w) w
  | ⟨w, .serving op rest⟩ =>
      rest.Always S.machine (fun w _ => Busy w)
        (fun _ w => Busy w ∧ (S.completes op w → Idle w)) w

variable {S : Service Req Resp W Op Res} {Idle Busy Booted : W → Prop}

theorem Invariant.holds_drift (inv : S.Invariant Idle Busy Booted) {w w' : W}
    {activity : Activity Req Resp Op Res} (moved : S.drift w w')
    (holds : S.Holds Idle Busy Booted ⟨w, activity⟩) :
    S.Holds Idle Busy Booted ⟨w', activity⟩ := by
  cases activity with
  | idle => exact inv.drift_idle w w' moved holds
  | booting rest =>
      exact Prog.Always.drift inv.absorbs (fun w w' _ => inv.drift_busy w w')
        (fun _ w w' => inv.drift_booted w w') holds moved
  | serving op rest =>
      refine Prog.Always.drift inv.absorbs (fun w w' _ => inv.drift_busy w w')
        (fun _ w w' moved known => ⟨inv.drift_busy w w' moved known.1, fun done => ?_⟩) holds moved
      exact inv.drift_idle w w' moved (known.2 (inv.drift_completes op w w' moved done))

theorem Invariant.holds_busy (inv : S.Invariant Idle Busy Booted)
    {s : State Req Resp W Op Res} (holds : S.Holds Idle Busy Booted s) : Busy s.world := by
  obtain ⟨w, activity⟩ := s
  cases activity with
  | idle => exact inv.idle_busy w holds
  | booting rest =>
      cases rest with
      | pure result => exact inv.idle_busy w (inv.booted_idle w holds)
      | request r next => exact holds.1
  | serving op rest =>
      cases rest with
      | pure result => exact holds.1
      | request r next => exact holds.1

theorem Invariant.holds_step (inv : S.Invariant Idle Busy Booted)
    {s s' : State Req Resp W Op Res} (holds : S.Holds Idle Busy Booted s) (step : S.Step s s') :
    S.Holds Idle Busy Booted s' := by
  cases step with
  | accept op => exact inv.serve _ op holds
  | answer answered => exact holds.2 _ _ answered
  | finish done => exact holds.2 done
  | bootAnswer answered => exact holds.2 _ _ answered
  | bootFinish => exact inv.booted_idle _ holds
  | drift moved => exact inv.holds_drift moved holds
  | crash crashed => exact inv.restart _ _ (inv.holds_busy holds) crashed

/-- The invariant holds in every reachable state. -/
theorem Invariant.holds_reaches (inv : S.Invariant Idle Busy Booted)
    {s s' : State Req Resp W Op Res} (holds : S.Holds Idle Busy Booted s) (run : S.Reaches s s') :
    S.Holds Idle Busy Booted s' := by
  induction run with
  | refl => exact holds
  | tail _ step ih => exact inv.holds_step ih step

theorem Invariant.busy (inv : S.Invariant Idle Busy Booted) {s s' : State Req Resp W Op Res}
    (holds : S.Holds Idle Busy Booted s) (run : S.Reaches s s') : Busy s'.world :=
  inv.holds_busy (inv.holds_reaches holds run)

theorem Invariant.idle (inv : S.Invariant Idle Busy Booted) {s : State Req Resp W Op Res} {w : W}
    (holds : S.Holds Idle Busy Booted s) (run : S.Reaches s ⟨w, .idle⟩) : Idle w :=
  inv.holds_reaches holds run

theorem Invariant.booted (inv : S.Invariant Idle Busy Booted) {s : State Req Resp W Op Res} {w : W}
    {result : Res} (holds : S.Holds Idle Busy Booted s)
    (run : S.Reaches s ⟨w, .booting (.pure result)⟩) : Booted w :=
  inv.holds_reaches holds run

/-! ### Complete executions are runs of the service -/

theorem reaches_ends {w w' : W} {op : Op} {p : Prog Req Resp Res} {result : Res}
    (ends : p.Ends S.machine w result w') :
    S.Reaches ⟨w, .serving op p⟩ ⟨w', .serving op (.pure result)⟩ := by
  induction ends with
  | pure => exact .refl
  | request step _ ih => exact .head (.answer step) ih

/-- Booting to the end. -/
theorem reaches_booted {w w' : W} {p : Prog Req Resp Res} {result : Res}
    (ends : p.Ends S.machine w result w') :
    S.Reaches ⟨w, .booting p⟩ ⟨w', .booting (.pure result)⟩ := by
  induction ends with
  | pure => exact .refl
  | request step _ ih => exact .head (.bootAnswer step) ih

/-- Serving an operation from idle to idle. -/
theorem reaches_served {w w' : W} {op : Op} {result : Res}
    (ends : (S.program op).Ends S.machine (S.accept w op) result w') (done : S.completes op w') :
    S.Reaches ⟨w, .idle⟩ ⟨w', .idle⟩ :=
  .head (.accept op) ((reaches_ends ends).tail (.finish done))

end Service

end Effects
