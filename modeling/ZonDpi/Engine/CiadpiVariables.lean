import ZonDpi.Engine.CiadpiOptions

/-!
The variables of `ciadpi` that belong to no group: the listening address, the port and the
limit on connections.

Each is what the last option gives that gives anything, and whether an option is valid in
this respect does not depend on those before it. So a list of options succeeds if every
one is valid and they succeed on the groups (`foldlM_effect_eq_ok`).
-/

namespace ZonDpi.Engine

open Getopt Fold ZonDpi.Std

theorem orInvalid_eq_ok {α : Type} {found : Option α} {a : α} {o : CiadpiOpt × Option String} :
    orInvalid o found = .ok a ↔ found = some a := by
  cases found with
  | none => exact iff_of_false nofun nofun
  | some b => simp [orInvalid]

/-! ### What an option gives -/

/-- The address that an option gives. -/
def CiadpiHost.given (host : CiadpiHost) (o : CiadpiOpt × Option String) : Option IpAddr :=
  if o.1 = .ip then (host.getAddrScheme (chars o)).bind fun found => found.2.1 else none

/-- The port in the value of an address. -/
def addrPort (o : CiadpiOpt × Option String) : Option Nat :=
  (splitAddr (splitScheme (chars o)).2).bind Prod.snd

def portGiven (o : CiadpiOpt × Option String) : Option Nat :=
  match o.1 with
  | .ip => addrPort o
  | .port => (number 1 65535 (chars o)).map Int.toNat
  | _ => none

def connGiven (o : CiadpiOpt × Option String) : Option Int :=
  if o.1 = .maxConn then number 1 32766 (chars o) else none

/-- An option that does not fail for its own sake. -/
structure CiadpiHost.Valid (host : CiadpiHost) (o : CiadpiOpt × Option String) : Prop where
  checked : host.check o = .ok ()
  address : o.1 = .ip → (host.getAddrScheme (chars o)).isSome
  port : o.1 = .port → (number 1 65535 (chars o)).isSome
  maxConn : o.1 = .maxConn → (number 1 32766 (chars o)).isSome

variable {host : CiadpiHost} {v v' : CiadpiState} {o : CiadpiOpt × Option String}
  {opts : List (CiadpiOpt × Option String)} {listen listen' : Listen}

theorem port_of_getAddrScheme {mode : Nat} {addr : Option IpAddr} {port : Option Nat}
    (found : host.getAddrScheme (chars o) = some (mode, addr, port)) : port = addrPort o := by
  simp only [CiadpiHost.getAddrScheme, CiadpiHost.getAddr, Option.map_eq_some_iff] at found
  obtain ⟨⟨addr', port'⟩, found, same⟩ := found
  cases same
  unfold addrPort
  split at found
  · cases found
  · rename_i name port here
    rw [here]
    split_ifs at found with empty
    · cases found
      rfl
    · obtain ⟨_, _, ⟨⟩⟩ := Option.map_eq_some_iff.mp found
      rfl

/-! ### One option -/

theorem portGiven_ip (ip : o.1 = .ip) : portGiven o = addrPort o := by
  rw [portGiven, ip]

theorem portGiven_port (port : o.1 = .port) :
    portGiven o = (number 1 65535 (chars o)).map Int.toNat := by
  rw [portGiven, port]

theorem portGiven_other (ip : o.1 ≠ .ip) (port : o.1 ≠ .port) : portGiven o = none := by
  unfold portGiven
  split
  · rename_i same
    exact absurd same ip
  · rename_i same
    exact absurd same port
  · rfl

theorem stepListen_eq_ok : host.stepListen listen o = .ok listen' ↔
    (o.1 = .ip → (host.getAddrScheme (chars o)).isSome) ∧
      (o.1 = .port → (number 1 65535 (chars o)).isSome) ∧
      listen' = ⟨(host.given o).getD listen.laddr, (portGiven o).getD listen.port⟩ := by
  unfold CiadpiHost.stepListen CiadpiHost.given
  split
  · rename_i ip
    rw [if_pos ip, portGiven_ip ip]
    cases found : host.getAddrScheme (chars o) with
    | none => exact iff_of_false nofun (by simp [ip])
    | some result =>
        obtain ⟨mode, addr, port⟩ := result
        obtain rfl := port_of_getAddrScheme found
        constructor
        · rintro ⟨⟩
          exact ⟨fun _ => rfl, by simp [ip], rfl⟩
        · rintro ⟨_, _, rfl⟩
          rfl
  · rename_i port
    rw [if_neg (by simp [port]), portGiven_port port]
    cases found : number 1 65535 (chars o) with
    | none => exact iff_of_false nofun (by simp [port])
    | some val =>
        constructor
        · rintro ⟨⟩
          exact ⟨by simp [port], fun _ => rfl, rfl⟩
        · rintro ⟨_, _, rfl⟩
          rfl
  · rename_i ip port
    rw [if_neg ip, portGiven_other ip port]
    constructor
    · rintro ⟨⟩
      exact ⟨fun same => absurd same ip, fun same => absurd same port, rfl⟩
    · rintro ⟨_, _, rfl⟩
      rfl

theorem stepMaxOpen_eq_ok {maxOpen maxOpen' : Int} : stepMaxOpen maxOpen o = .ok maxOpen' ↔
    (o.1 = .maxConn → (number 1 32766 (chars o)).isSome) ∧
      maxOpen' = (connGiven o).getD maxOpen := by
  unfold stepMaxOpen connGiven
  split_ifs with conn
  · cases number 1 32766 (chars o) with
    | none => exact iff_of_false nofun (by simp [conn])
    | some val =>
        constructor
        · rintro ⟨⟩
          exact ⟨fun _ => rfl, rfl⟩
        · rintro ⟨_, rfl⟩
          rfl
  · constructor
    · rintro ⟨⟩
      exact ⟨fun same => absurd same conn, rfl⟩
    · rintro ⟨_, rfl⟩
      rfl

theorem effect_iff : host.effect v o = .ok v' ↔
    host.Valid o ∧
      v'.listen = ⟨(host.given o).getD v.listen.laddr, (portGiven o).getD v.listen.port⟩ ∧
      v'.maxOpen = (connGiven o).getD v.maxOpen ∧
      host.stepGroups v.groups o = .ok v'.groups := by
  rw [CiadpiHost.effect_eq_ok, stepListen_eq_ok, stepMaxOpen_eq_ok]
  constructor
  · rintro ⟨checked, ⟨address, port, listen⟩, ⟨maxConn, maxOpen⟩, groups⟩
    exact ⟨⟨checked, address, port, maxConn⟩, listen, maxOpen, groups⟩
  · rintro ⟨⟨checked, address, port, maxConn⟩, listen, maxOpen, groups⟩
    exact ⟨checked, ⟨address, port, listen⟩, ⟨maxConn, maxOpen⟩, groups⟩

/-! ### Many options -/

theorem getD_lastSome_cons {α : Type} (given : CiadpiOpt × Option String → Option α) (a : α) :
    (lastSome given (o :: opts)).getD a = (lastSome given opts).getD ((given o).getD a) := by
  rw [lastSome_cons]
  cases lastSome given opts <;> rfl

theorem foldlM_effect_eq_ok : opts.foldlM host.effect v = .ok v' ↔
    (∀ o ∈ opts, host.Valid o) ∧
      v'.listen = ⟨(lastSome host.given opts).getD v.listen.laddr,
        (lastSome portGiven opts).getD v.listen.port⟩ ∧
      v'.maxOpen = (lastSome connGiven opts).getD v.maxOpen ∧
      opts.foldlM host.stepGroups v.groups = .ok v'.groups := by
  induction opts generalizing v with
  | nil =>
      constructor
      · rintro ⟨⟩
        exact ⟨nofun, rfl, rfl, rfl⟩
      · rintro ⟨_, listen, maxOpen, groups⟩
        cases v'
        cases listen
        cases maxOpen
        cases groups
        rfl
  | cons o opts ih =>
      simp only [cons_eq_ok, ih, effect_iff, List.forall_mem_cons, getD_lastSome_cons]
      constructor
      · rintro ⟨next, ⟨valid, listen, maxOpen, groups⟩, valids, listens, maxOpens, rest⟩
        rw [listen] at listens
        rw [maxOpen] at maxOpens
        exact ⟨⟨valid, valids⟩, listens, maxOpens, next.groups, groups, rest⟩
      · rintro ⟨⟨valid, valids⟩, listens, maxOpens, groups, first, rest⟩
        exact ⟨⟨_, _, groups⟩, ⟨valid, rfl, rfl, first⟩, valids, listens, maxOpens, rest⟩

end ZonDpi.Engine
