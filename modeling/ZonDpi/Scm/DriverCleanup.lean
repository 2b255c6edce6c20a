import ZonDpi.Lib.Program
import ZonDpi.Scm.DriverPath

/-!
# The cleanup of driver services (`service_scm.rs`)

`cleanup_owned_windivert_driver` opens six candidate services one after the other, reads
the path of each one's binary, and stops and deletes those that it takes for the product's
own. The service control manager may refuse any request; what it says about a binary is
true (`Services.machine`).

`driver_cleanup_iff` gathers both halves: which paths are judged rightly, and that no
service of another program is stopped or deleted exactly if the paths of all candidate
services are of that kind.
-/

namespace ZonDpi.Scm

open Effects Effects.Prog

/-- The calls of the service control manager, and the clock. -/
inductive ScmReq where
  | openManager
  | openService (name : String)
  /-- `QueryServiceConfigW` without a buffer: how many bytes it would need. -/
  | queryConfigSize (name : String)
  | queryConfig (name : String) (size : Nat)
  | queryStatus (name : String)
  | stop (name : String)
  | delete (name : String)
  | closeService (name : String)
  | closeManager
  | sleep (milliseconds : Nat)
  | elapsed
deriving DecidableEq, Repr

/-- A handle or null; a number of bytes; the path of the binary, unless the call fails or
gives a null pointer; a state or the last error. -/
abbrev ScmReq.Resp : ScmReq → Type
  | .openManager | .openService _ => Bool
  | .queryConfigSize _ => Nat
  | .queryConfig _ _ => Option (Option String)
  | .queryStatus _ => Except Nat Nat
  | .delete _ => Except Nat Unit
  | .elapsed => Nat
  | _ => Unit

abbrev ScmProg (α : Type) : Type := Prog ScmReq ScmReq.Resp α

/-! ### The calls -/

def openManager : ScmProg Bool := ask ScmReq.openManager

def openService (name : String) : ScmProg Bool := ask (ScmReq.openService name)

def queryConfigSize (name : String) : ScmProg Nat := ask (ScmReq.queryConfigSize name)

def queryConfig (name : String) (size : Nat) : ScmProg (Option (Option String)) :=
  ask (ScmReq.queryConfig name size)

def queryStatus (name : String) : ScmProg (Except Nat Nat) := ask (ScmReq.queryStatus name)

def stop (name : String) : ScmProg Unit := ask (ScmReq.stop name)

def delete (name : String) : ScmProg (Except Nat Unit) := ask (ScmReq.delete name)

def closeService (name : String) : ScmProg Unit := ask (ScmReq.closeService name)

def closeManager : ScmProg Unit := ask ScmReq.closeManager

def sleep (milliseconds : Nat) : ScmProg Unit := ask (ScmReq.sleep milliseconds)

def elapsed : ScmProg Nat := ask ScmReq.elapsed

/-! ### The code -/

def serviceStopped : Nat := 1

def errorServiceDoesNotExist : Nat := 1060

def errorServiceMarkedForDelete : Nat := 1072

def candidateNames : List String :=
  ["WinDivert", "WinDivert14", "WinDivert22", "windivert", "windivert14", "windivert22"]

def binaryPath (name : String) : ScmProg (Option String) := do
  let bytesNeeded ← queryConfigSize name
  if 0 < bytesNeeded then
    let config ← queryConfig name bytesNeeded
    return config.join
  else return none

def stopDriver (name : String) : ScmProg Unit := do
  match ← queryStatus name with
  | .ok state =>
      if state ≠ serviceStopped then
        stop name
        sleep 300
      else return ()
  | .error _ => return ()

/-- The wait of two seconds. `thread::sleep` sleeps at least as long as it is told to, so
there are at most eight turns. -/
def awaitRemoval (name : String) : Nat → ScmProg Bool
  | 0 => return false
  | turns + 1 => do
      let waited ← elapsed
      if waited < 2000 then
        sleep 250
        match ← queryStatus name with
        | .error code =>
            if code = errorServiceDoesNotExist then return true else awaitRemoval name turns
        | .ok _ => awaitRemoval name turns
      else return false

def deleteDriver (name : String) : ScmProg Unit := do
  match ← delete name with
  | .ok _ => return ()
  | .error code =>
      if code = errorServiceMarkedForDelete then
        let _finalized ← awaitRemoval name 8
        return ()
      else return ()

def cleanupService (system : DriverSystem) (name : String) : ScmProg Unit := do
  let opened ← openService name
  if opened then
    let path ← binaryPath name
    if path.any system.isZondpiOwnedDriverPath then
      stopDriver name
      deleteDriver name
      closeService name
    else closeService name
  else return ()

def cleanupServices (system : DriverSystem) : List String → ScmProg Unit
  | [] => return ()
  | name :: names => do
      cleanupService system name
      cleanupServices system names

def cleanupOwnedWindivertDriver (system : DriverSystem) : ScmProg (Except String Unit) := do
  let opened ← openManager
  if opened then
    cleanupServices system candidateNames
    closeManager
    return .ok ()
  else return .ok ()

/-! ### The service control manager -/

/-- The registered services with the paths of their binaries. -/
abbrev Services : Type := String → Option String

namespace Services

/-- A service is opened only if it is registered, and the path it gives is the path of its
binary. Deleting registers nothing. -/
def machine (services : Services) : (req : ScmReq) → req.Resp → Services → Prop
  | .openService name, opened, after =>
      (opened = true → (services name).isSome = true) ∧ after = services
  | .queryConfig name _, config, after =>
      (∀ path, config = some (some path) → services name = some path) ∧ after = services
  | .delete _, _, after => ∀ name path, after name = some path → services name = some path
  | _, _, after => after = services

/-- A service is stopped or deleted only if its binary lies inside the product's
directories. -/
def Confined (system : DriverSystem) (services : Services) : ScmReq → Prop
  | .stop name | .delete name => ∀ path, services name = some path → system.LiesInside path
  | _ => True

/-- However the manager answers, no service of another program is stopped or deleted. -/
def CleanupConfined (system : DriverSystem) (services : Services) : Prop :=
  (cleanupOwnedWindivertDriver system).Always machine (Confined system) (fun _ _ => True) services

/-- The path of the service is judged rightly. -/
def Judged (system : DriverSystem) (services : Services) (name : String) : Prop :=
  ∀ path, services name = some path → system.OwnedOnlyInside path

variable {system : DriverSystem} {services : Services} {name : String}

/-! ### One call -/

/-- A request that nobody watches and that changes nothing. -/
theorem always_quiet {req : ScmReq} {post : req.Resp → Services → Prop}
    (unwatched : Confined system services req)
    (still : ∀ answer after, machine services req answer after ↔ after = services) :
    (ask req).Always machine (Confined system) post services ↔
      ∀ answer, post answer services := by
  rw [always_ask]
  constructor
  · rintro ⟨_, rest⟩ answer
    exact rest answer services ((still answer services).mpr rfl)
  · intro rest
    refine ⟨unwatched, fun answer after moved => ?_⟩
    rw [(still answer after).mp moved]
    exact rest answer

@[simp] theorem always_openManager {post : Bool → Services → Prop} :
    openManager.Always machine (Confined system) post services ↔
      ∀ opened, post opened services :=
  always_quiet trivial fun _ _ => Iff.rfl

@[simp] theorem always_queryConfigSize {post : Nat → Services → Prop} :
    (queryConfigSize name).Always machine (Confined system) post services ↔
      ∀ size, post size services :=
  always_quiet trivial fun _ _ => Iff.rfl

@[simp] theorem always_queryStatus {post : Except Nat Nat → Services → Prop} :
    (queryStatus name).Always machine (Confined system) post services ↔
      ∀ status, post status services :=
  always_quiet trivial fun _ _ => Iff.rfl

@[simp] theorem always_closeService {post : Unit → Services → Prop} :
    (closeService name).Always machine (Confined system) post services ↔
      ∀ closed, post closed services :=
  always_quiet trivial fun _ _ => Iff.rfl

@[simp] theorem always_closeManager {post : Unit → Services → Prop} :
    closeManager.Always machine (Confined system) post services ↔
      ∀ closed, post closed services :=
  always_quiet trivial fun _ _ => Iff.rfl

@[simp] theorem always_sleep {milliseconds : Nat} {post : Unit → Services → Prop} :
    (sleep milliseconds).Always machine (Confined system) post services ↔
      ∀ woken, post woken services :=
  always_quiet trivial fun _ _ => Iff.rfl

@[simp] theorem always_elapsed {post : Nat → Services → Prop} :
    elapsed.Always machine (Confined system) post services ↔ ∀ waited, post waited services :=
  always_quiet trivial fun _ _ => Iff.rfl

@[simp] theorem always_openService {post : Bool → Services → Prop} :
    (openService name).Always machine (Confined system) post services ↔
      ∀ opened, (opened = true → (services name).isSome = true) → post opened services := by
  constructor
  · rintro ⟨_, rest⟩ opened registered
    exact rest opened services ⟨registered, rfl⟩
  · intro rest
    refine ⟨trivial, ?_⟩
    rintro opened _ ⟨registered, rfl⟩
    exact rest opened registered

@[simp] theorem always_queryConfig {size : Nat} {post : Option (Option String) → Services → Prop} :
    (queryConfig name size).Always machine (Confined system) post services ↔
      ∀ config, (∀ path, config = some (some path) → services name = some path) →
        post config services := by
  constructor
  · rintro ⟨_, rest⟩ config right
    exact rest config services ⟨right, rfl⟩
  · intro rest
    refine ⟨trivial, ?_⟩
    rintro config _ ⟨right, rfl⟩
    exact rest config right

@[simp] theorem always_stop {post : Unit → Services → Prop} :
    (stop name).Always machine (Confined system) post services ↔
      (∀ path, services name = some path → system.LiesInside path) ∧
        ∀ stopped, post stopped services := by
  constructor
  · rintro ⟨own, rest⟩
    exact ⟨own, fun stopped => rest stopped services rfl⟩
  · rintro ⟨own, rest⟩
    refine ⟨own, ?_⟩
    rintro stopped _ rfl
    exact rest stopped

@[simp] theorem always_delete {post : Except Nat Unit → Services → Prop} :
    (delete name).Always machine (Confined system) post services ↔
      (∀ path, services name = some path → system.LiesInside path) ∧
        ∀ answer after, (∀ name path, after name = some path → services name = some path) →
          post answer after :=
  Iff.rfl

/-! ### One service -/

theorem always_awaitRemoval (turns : Nat) :
    (awaitRemoval name turns).Always machine (Confined system) (fun _ after => after = services)
      services := by
  induction turns with
  | zero => exact rfl
  | succ turns ih =>
      rw [awaitRemoval, always_bind, always_elapsed]
      intro waited
      by_cases early : waited < 2000
      · simp only [if_pos early, always_bind, always_sleep, always_queryStatus]
        intro _ status
        cases status with
        | ok state => exact ih
        | error code =>
            by_cases gone : code = errorServiceDoesNotExist
            · simp [gone]
            · simpa [gone] using ih
      · rw [if_neg early]
        exact rfl

/-- The path that is read is the path of the binary. -/
theorem always_binaryPath :
    (binaryPath name).Always machine (Confined system)
      (fun found after => (∀ path ∈ found, services name = some path) ∧ after = services)
      services := by
  rw [binaryPath, always_bind, always_queryConfigSize]
  intro size
  by_cases some_ : 0 < size
  · rw [if_pos some_, always_bind, always_queryConfig]
    intro config right
    exact ⟨fun path found => right path (Option.join_eq_some_iff.mp found), rfl⟩
  · rw [if_neg some_]
    exact ⟨nofun, rfl⟩

theorem always_stopDriver (own : ∀ path, services name = some path → system.LiesInside path) :
    (stopDriver name).Always machine (Confined system) (fun _ after => after = services)
      services := by
  rw [stopDriver, always_bind, always_queryStatus]
  intro status
  cases status with
  | error code => exact rfl
  | ok state =>
      by_cases running : state ≠ serviceStopped
      · simp only [if_pos running, always_bind, always_stop, always_sleep]
        exact ⟨own, fun _ _ => trivial⟩
      · simp only [if_neg running]
        exact rfl

theorem always_deleteDriver (own : ∀ path, services name = some path → system.LiesInside path) :
    (deleteDriver name).Always machine (Confined system)
      (fun _ after => ∀ name path, after name = some path → services name = some path)
      services := by
  rw [deleteDriver, always_bind, always_delete]
  refine ⟨own, ?_⟩
  intro answer after fewer
  cases answer with
  | ok done => exact fewer
  | error code =>
      by_cases marked : code = errorServiceMarkedForDelete
      · simp only [if_pos marked]
        refine (always_awaitRemoval 8).bind ?_
        rintro finalized _ rfl
        exact fewer
      · simp only [if_neg marked]
        exact fewer

/-- A service whose path is judged rightly is spared if it is another program's. -/
theorem always_cleanupService (judged : Judged system services name) :
    (cleanupService system name).Always machine (Confined system)
      (fun _ after => ∀ name path, after name = some path → services name = some path)
      services := by
  rw [cleanupService, always_bind, always_openService]
  intro opened _
  cases opened with
  | false => exact fun _ _ same => same
  | true =>
      refine always_binaryPath.bind ?_
      rintro found after ⟨right, same⟩
      rw [same]
      by_cases owned : found.any system.isZondpiOwnedDriverPath = true
      · simp only [if_pos owned]
        obtain ⟨path, rfl, counts⟩ := (Option.any_eq_true _ _).mp owned
        have registered := right path rfl
        have own : ∀ other, services name = some other → system.LiesInside other := by
          intro other also
          rw [registered] at also
          cases also
          exact judged path registered counts
        refine (always_stopDriver own).bind ?_
        rintro _ stopped unchanged
        rw [unchanged]
        refine (always_deleteDriver own).bind ?_
        intro _ after fewer
        rw [always_closeService]
        exact fun _ => fewer
      · simp only [if_neg owned, always_closeService]
        exact fun _ _ _ same => same

/-! ### The loop -/

theorem always_cleanupServices {names : List String}
    (judged : ∀ name ∈ names, Judged system services name) :
    (cleanupServices system names).Always machine (Confined system) (fun _ _ => True)
      services := by
  induction names generalizing services with
  | nil => trivial
  | cons name names ih =>
      refine (always_cleanupService (judged name List.mem_cons_self)).bind ?_
      intro _ after fewer
      refine ih fun other member path registered => ?_
      exact judged other (List.mem_cons_of_mem name member) path (fewer other path registered)

/-- If the manager opens the service and says where its binary is, it is asked to delete
it. -/
theorem judged_of_always {post : Unit → Services → Prop}
    (spared : (cleanupService system name).Always machine (Confined system) post services) :
    Judged system services name := by
  intro path registered owned
  rw [cleanupService, always_bind, always_openService] at spared
  have opened := spared true fun _ => by simp [registered]
  simp only [if_true, binaryPath, always_bind, always_queryConfigSize] at opened
  have sized := opened 1
  simp only [Nat.one_pos, if_true, always_bind, always_queryConfig] at sized
  have found := sized (some (some path)) (by simp [registered])
  simp only [Option.join_some, always_pure, Option.any_some, owned, if_true, stopDriver,
    always_bind, always_queryStatus] at found
  have unknown := found (.error 0)
  simp only [always_pure, deleteDriver, always_bind, always_delete] at unknown
  exact unknown.1 path registered

/-- The manager may open none of the services before the one in question. -/
theorem judged_of_always_cleanupServices {names : List String} {post : Unit → Services → Prop}
    (spared : (cleanupServices system names).Always machine (Confined system) post services)
    (member : name ∈ names) : Judged system services name := by
  induction names with
  | nil => cases member
  | cons first names ih =>
      rw [cleanupServices, always_bind] at spared
      rcases List.mem_cons.mp member with rfl | later
      · exact judged_of_always spared
      · rw [cleanupService, always_bind, always_openService] at spared
        exact ih (spared false nofun) later

theorem cleanup_confined_iff :
    CleanupConfined system services ↔ ∀ name ∈ candidateNames, Judged system services name := by
  rw [CleanupConfined, cleanupOwnedWindivertDriver, always_bind, always_openManager]
  constructor
  · intro spared name member
    have opened := spared true
    simp only [if_true, always_bind] at opened
    exact judged_of_always_cleanupServices opened member
  · intro judged opened
    cases opened with
    | false => trivial
    | true =>
        simp only [if_true, always_bind, always_closeManager, always_pure]
        exact (always_cleanupServices judged).imp fun _ _ _ _ => trivial

end Services

/-! ### The result -/

/-- Every driver path and every state of the service control manager. -/
theorem driver_cleanup_iff (system : DriverSystem) :
    (∀ path, system.OwnedOnlyInside path ↔ system.LiesInside path ∨ system.Apart path) ∧
      ∀ services, Services.CleanupConfined system services ↔
        ∀ name ∈ candidateNames, ∀ path, services name = some path →
          system.LiesInside path ∨ system.Apart path := by
  refine ⟨system.owned_only_inside_iff, fun services => ?_⟩
  rw [Services.cleanup_confined_iff]
  simp only [Services.Judged, system.owned_only_inside_iff]

/-- The product runs from its usual directory. -/
def installed : DriverSystem where
  lowercase := ⟨fun s => s.toList.map Char.toLower, fun _ _ => rfl⟩
  executableDir := some "C:\\Program Files\\ZonDPI"
  programFiles := some "C:\\Program Files"

/-- Another program's driver, in a directory whose name contains the product's. -/
def foreignDriver : Services := fun name =>
  if name = "WinDivert" then some "\\??\\C:\\Tools\\NotZonDPI\\WinDivert64.sys" else none

theorem driver_cleanup_foreign :
    ¬ installed.OwnedOnlyInside "\\??\\C:\\Tools\\NotZonDPI\\WinDivert64.sys" ∧
      ¬ Services.CleanupConfined installed foreignDriver := by
  have owned : installed.isZondpiOwnedDriverPath
      "\\??\\C:\\Tools\\NotZonDPI\\WinDivert64.sys" = true := by decide +kernel
  have outside : ¬ installed.LiesInside "\\??\\C:\\Tools\\NotZonDPI\\WinDivert64.sys" := by
    decide +kernel
  refine ⟨fun judged => outside (judged owned), fun spared => ?_⟩
  rw [Services.cleanup_confined_iff] at spared
  exact outside (spared "WinDivert" (by decide) _ rfl owned)

end ZonDpi.Scm
