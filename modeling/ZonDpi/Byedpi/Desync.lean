import ZonDpi.Byedpi.Tamp

/-!
How ByeDPI sends a request: `desync` of `desync.c`, called by `on_tunnel` until nothing is left.

The bytes of a request are sent in parts, some of them under a TTL that does not reach the
server, with an urgent byte behind them, or behind a fake. A call may stop between two parts to
wait until the socket is empty, and the next one has to find its way back. It is told how many
bytes have been sent (`round_sent`, and `offset` of the buffer) and which part was the last
(`part_sent`); the places of the parts are computed anew.

As long as sockets take what they are given and no fake gets as far as the server, nothing is lost
and nothing is sent twice, wherever the calls stop (`run_desync`). A part that is stopped in the
middle is another matter: it counts as sent (`desync_stopped`).
-/

namespace ZonDpi.Byedpi

open ByteText
open ZonDpi.Engine (Part Demode)

/-! ### The network -/

/-- What becomes of a `send`. -/
inductive Outcome where
  | full
  | short (s : ℕ)
  /-- `EAGAIN` -/
  | again
  | failed
deriving DecidableEq, Repr

/-- What a part meets. -/
structure Attempt where
  outcome : Outcome
  /-- What `rand` returns. -/
  random : ℕ
  /-- `getTFE` has a free place for a fake. -/
  slot : Bool
  /-- What is in a fake. -/
  shown : List UInt8
  /-- `sock_has_notsent`, which is never so on Windows. -/
  notsent : Bool
deriving DecidableEq, Repr

/-- What a call meets: the parts by their numbers, the rest, and `rand` within `tamp`. -/
structure Net where
  part : ℕ → Attempt
  last : Outcome
  random : ℕ → ℕ

inductive Wire where
  | data (ttl : ℕ) (bytes : List UInt8)
  | oob (ttl : ℕ) (bytes : List UInt8) (urgent : UInt8)
  /-- What is shown is sent first; then the file it is sent from is overwritten with the true
  bytes. -/
  | fake (ttl : ℕ) (shown bytes : List UInt8)
deriving DecidableEq, Repr

/-- What a server takes from it that is `hops` away. A packet that dies on its way is sent again
by the system, under the TTL that the socket has then; of a fake that is what the file has then. A
fake that does not die has been taken as it was shown. -/
def Wire.bytes (hops : ℕ) : Wire → List UInt8
  | .data _ bytes | .oob _ bytes _ => bytes
  | .fake ttl shown bytes => if hops ≤ ttl then shown else bytes

def received (hops : ℕ) (wire : List Wire) : List UInt8 := wire.flatMap (Wire.bytes hops)

structure Params where
  defTtl : ℕ
  waitSend : Bool
  /-- `LOG_ENABLED` -/
  log : Bool
deriving DecidableEq, Repr

structure Sock where
  ttl : ℕ
  restoreTtl : Bool
deriving DecidableEq, Repr

def Sock.fresh (params : Params) : Sock := ⟨params.defTtl, false⟩

def Sock.restoreState (params : Params) (sock : Sock) : Sock :=
  if sock.restoreTtl then ⟨params.defTtl, false⟩ else sock

/-- `DEFAULT_TTL` -/
def defaultTtl : ℕ := 8

/-! ### One part -/

/-- The bytes from one place to another. -/
def between (bytes : List UInt8) (lp pos : ℕ) : List UInt8 := (bytes.drop lp).take (pos - lp)

/-- What has come of a part. `outcome` is `none` where it has to wait. -/
structure Sent where
  outcome : Option Outcome
  wire : List Wire
  info : ProtoInfo
  sock : Sock
deriving DecidableEq, Repr

/-- How many bytes a socket has taken. -/
def Outcome.taken (outcome : Outcome) (length : ℕ) : Option ℕ :=
  match outcome with
  | .full => some length
  | .short s => some (min s length)
  | .again | .failed => none

def sendData (outcome : Outcome) (bytes : List UInt8) (lp pos : ℕ) (info : ProtoInfo)
    (sock : Sock) : Sent :=
  let wire := (outcome.taken (pos - lp)).map fun s => .data sock.ttl (between bytes lp (lp + s))
  ⟨some outcome, wire.toList, info, sock⟩

/-- `send_oob`. The urgent byte takes the place of the next one while the bytes are sent; there
has to be a next one in the buffer. -/
def sendOob (dp : Group) (outcome : Outcome) (bytes : List UInt8) (size lp pos : ℕ)
    (info : ProtoInfo) (sock : Sock) : Sent :=
  if size ≤ pos then ⟨some (if outcome = .again then .again else .failed), [], info, sock⟩
  else
    let urgent := dp.oobChar.getD 97
    let wire := (outcome.taken (pos - lp)).map fun s =>
      .oob sock.ttl (between bytes lp (lp + s))
        (if lp + s = pos then urgent else byteOf bytes (lp + s))
    ⟨some outcome, wire.toList, info, sock⟩

/-- What `get_tcp_fake` does to the information. -/
def fakeInfo (dp : Group) (bytes : List UInt8) (info : ProtoInfo) : Option ProtoInfo :=
  let info :=
    if dp.fakeData ∨ info.type.isSome then info
    else if isTlsChello bytes then { info with type := some .https }
    else if isHttp bytes then { info with type := some .http }
    else info
  match dp.fakeOffset with
  | some part => (genOffset 0 part.pos part.flag bytes 0 info).map Prod.snd
  | none => some info

def Group.fakeTtl (dp : Group) : ℕ := if dp.ttl ≠ 0 then dp.ttl else defaultTtl

def sendFake (params : Params) (dp : Group) (attempt : Attempt) (bytes : List UInt8) (lp pos : ℕ)
    (info : ProtoInfo) (sock : Sock) : Option Sent := do
  let info ← fakeInfo dp bytes info
  if pos = lp then some ⟨some .full, [], info, sock⟩
  else if !attempt.slot then some ⟨none, [], info, sock⟩
  else
    let wire := (attempt.outcome.taken (pos - lp)).map fun s =>
      .fake dp.fakeTtl attempt.shown (between bytes lp (lp + s))
    some ⟨some attempt.outcome, wire.toList, info, { sock with ttl := params.defTtl }⟩

/-- The `switch` over the mode; `k` is the number of the repetition. -/
def sendPart (params : Params) (dp : Group) (part : Part) (k : ℕ) (attempt : Attempt)
    (bytes : List UInt8) (size lp pos : ℕ) (info : ProtoInfo) (sock : Sock) : Option Sent :=
  let lowered : Sock := ⟨if k % 2 = 0 then 1 else sock.ttl, true⟩
  match part.m with
  | .fake => sendFake params dp attempt bytes lp pos info sock
  | .oob => some (sendOob dp attempt.outcome bytes size lp pos info sock)
  | .disoob => some (sendOob dp attempt.outcome bytes size lp pos info lowered)
  | .disorder => some (sendData attempt.outcome bytes lp pos info lowered)
  | .split | .none => some (sendData attempt.outcome bytes lp pos info sock)

/-! ### A call -/

/-- What `desync` returns, and what it has left in the connection. `ret` is `none` for an
error. -/
structure Call where
  wire : List Wire
  ret : Option ℕ
  wait : Bool
  partSent : ℕ
  sock : Sock
deriving DecidableEq, Repr

def Call.prepend (wire : List Wire) (call : Call) : Call :=
  { call with wire := wire ++ call.wire }

/-- What a call reads while it sends. -/
structure Env where
  params : Params
  dp : Group
  net : Net
  bytes : List UInt8
  /-- `bfsize` -/
  size : ℕ
  offset : ℕ
  skip : ℕ
  partSkip : ℕ

/-- The end of `desync`. A short `send` is not noticed here. -/
def sendRest (env : Env) (lp partSent : ℕ) (sock : Sock) : Call :=
  let n := env.bytes.length
  if n ≤ lp then ⟨[], some (n - env.offset), false, partSent, sock⟩
  else
    match env.net.last with
    | .full => ⟨[.data sock.ttl (env.bytes.drop lp)], some (n - env.offset), false, partSent, sock⟩
    | .short s =>
        ⟨[.data sock.ttl (between env.bytes lp (lp + s))], some (n - env.offset), false, partSent,
          sock⟩
    | .again => ⟨[], some (lp - env.offset), false, partSent, sock⟩
    | .failed => ⟨[], none, false, partSent, sock⟩

/-- What a call returns behind a part; `none` where it goes on to the next one. -/
def returnAfter (env : Env) (curr lp pos : ℕ) (sent : Sent) : Option Call :=
  match sent.outcome with
  | none => some ⟨sent.wire, some (lp - env.offset), true, curr, sent.sock⟩
  | some .again => some ⟨sent.wire, some (lp - env.offset), false, curr, sent.sock⟩
  | some .failed => some ⟨sent.wire, none, false, curr, sent.sock⟩
  | some outcome =>
      let s := (outcome.taken (pos - lp)).getD 0
      if s ≠ pos - lp then some ⟨sent.wire, some (lp + s - env.offset), false, curr, sent.sock⟩
      else if (env.net.part curr).notsent ∨ env.params.waitSend ∧ env.partSkip < curr then
        some ⟨sent.wire, some (pos - env.offset), true, curr, sent.sock⟩
      else none

/-- The loop over the parts, of which `past` are over. There is no result where `gen_offset` ends
the process. -/
def sendParts (env : Env) : List (Part × ℕ) → ℕ → ℕ → ProtoInfo → ℕ → Sock → Option Call
  | [], _, lp, _, partSent, sock => some (sendRest env lp partSent sock)
  | (part, k) :: rest, past, lp, info, partSent, sock => do
      let curr := past + 1
      let attempt := env.net.part curr
      let (offset, info) ← genOffset attempt.random part.pos part.flag env.bytes lp info
      let pos := offset + part.s * k
      if ((env.skip ≠ 0 ∧ pos < env.skip) ∨ curr < env.partSkip) ∧ !offsetStart part.flag then
        sendParts env rest curr lp info partSent sock
      else if env.offset ≠ 0 ∧ pos < env.offset then
        sendParts env rest curr lp info partSent sock
      else if pos < 0 ∨ pos < lp then some (sendRest env lp partSent sock)
      else
        let pos := min pos.toNat env.bytes.length
        let trial :=
          if curr = env.partSkip then some ⟨some .full, [], info, sock⟩
          else sendPart env.params env.dp part k attempt env.bytes env.size lp pos info sock
        let sent ← trial
        match returnAfter env curr lp pos sent with
        | some call => some call
        | none =>
            (sendParts env rest curr pos sent.info curr
              (sent.sock.restoreState env.params)).map (Call.prepend sent.wire)

/-- A request on its way: the buffer with its `lock` and `offset`, and what the two ends of the
connection remember. -/
structure Tunnel where
  buffer : List UInt8
  lock : ℕ
  offset : ℕ
  roundSent : ℕ
  partSent : ℕ
  sock : Sock
deriving DecidableEq, Repr

/-- What a call makes of the request before anything is sent. -/
def prepare (params : Params) (dp : Group) (net : Net) (tunnel : Tunnel) : Option Request :=
  let request : Request := ⟨tunnel.buffer, tunnel.lock, .zero⟩
  if tunnel.roundSent ≠ 0 then some request
  else
    let info := if params.log then initProtoInfo request.bytes .zero else .zero
    tamp net.random dp { request with info }

/-- `desync`, with the count that `tcp_send_hook` keeps of what has been sent. -/
def desync (params : Params) (dp : Group) (net : Net) (tunnel : Tunnel) :
    Option (Call × Tunnel) := do
  let request ← prepare params dp net tunnel
  let env : Env := ⟨params, dp, net, request.bytes, request.buffer.length, tunnel.offset,
    tunnel.roundSent, tunnel.partSent⟩
  let call ← sendParts env (repeated dp.parts) 0 tunnel.offset request.info tunnel.partSent
    tunnel.sock
  let sent := call.ret.getD 0
  some (call, ⟨request.buffer, request.n, tunnel.offset + sent, tunnel.roundSent + sent,
    call.partSent, call.sock⟩)

/-- The calls of `on_tunnel` for one buffer. In the first one the number of bytes is asked for
after they have been changed, in the others before. -/
def run (params : Params) (dp : Group) :
    Bool → List Net → Tunnel → Option (List Wire × Tunnel × Bool)
  | _, [], tunnel => some ([], tunnel, false)
  | first, net :: nets, tunnel => do
      let (call, next) ← desync params dp net tunnel
      let sn ← call.ret
      let n := if first then next.lock else tunnel.lock - tunnel.offset
      if sn < n ∨ call.wait then
        let (wire, final, done) ← run params dp false nets next
        some (call.wire ++ wire, final, done)
      else some (call.wire, next, true)

/-! ### Places that stay -/

/-- The information a call has is what it would find in the bytes. -/
def Agrees (bytes : List UInt8) (info : ProtoInfo) : Prop :=
  ∀ host, info.host = some host → host = (searchHost bytes none).1 ∧
    (host.pos ≠ 0 → info.type = (searchHost bytes none).2)

/-- Nothing that the places depend on changes from call to call: no part is put at random, and a
host that has been found has a name. -/
structure Steady (dp : Group) (bytes : List UInt8) : Prop where
  fixed : ∀ part ∈ dp.parts, offsetRand part.flag = false
  named : (searchHost bytes none).1.pos ≠ 0 → (searchHost bytes none).1.len ≠ 0

/-- Where a part ends. -/
def cutAt (bytes : List UInt8) (c : Part × ℕ) : ℤ :=
  ((genOffset 0 c.1.pos c.1.flag bytes 0 .zero).map Prod.fst).getD 0 + c.1.s * c.2

section Steady

variable {bytes : List UInt8} {info : ProtoInfo} {dp : Group}

theorem agrees_zero : Agrees bytes .zero := by
  rintro host ⟨⟩

theorem searchHost_type (type : Option Proto)
    (named : (searchHost bytes none).1.pos ≠ 0 → (searchHost bytes none).1.len ≠ 0) :
    (searchHost bytes type).1 = (searchHost bytes none).1 ∧
      ((searchHost bytes none).1.pos ≠ 0 →
        (searchHost bytes type).2 = (searchHost bytes none).2 ∧
          (searchHost bytes none).2 ≠ none) := by
  unfold searchHost at named ⊢
  dsimp only at named ⊢
  split_ifs at named ⊢ with tls http
  · simp
  · simp
  · refine ⟨rfl, fun placed => absurd (not_not.mp http) (named placed)⟩

theorem Agrees.init (agrees : Agrees bytes info) (steady : Steady dp bytes) :
    Agrees bytes (initProtoInfo bytes info) ∧
      (initProtoInfo bytes info).host = some (searchHost bytes none).1 := by
  obtain ⟨host, type⟩ := info
  cases host with
  | none =>
      obtain ⟨same, typed⟩ := searchHost_type type steady.named
      refine ⟨?_, congrArg some same⟩
      rintro host ⟨⟩
      exact ⟨same, fun placed => (typed (same ▸ placed)).1⟩
  | some host =>
      exact ⟨agrees, congrArg some (agrees host rfl).1⟩

theorem Agrees.genOffset_snd (agrees : Agrees bytes info) (steady : Steady dp bytes) {random : ℕ}
    {pos place : ℤ} {flag lp : ℕ} {info' : ProtoInfo}
    (found : genOffset random pos flag bytes lp info = some (place, info')) :
    Agrees bytes info' := by
  unfold genOffset at found
  split_ifs at found
  · obtain ⟨_, -, same⟩ := Option.map_eq_some_iff.mp found
    cases same
    exact (agrees.init steady).1
  all_goals
    cases found
    exact agrees

/-- Without chance a place is a matter of the bytes. -/
theorem Agrees.genOffset_fst (agrees : Agrees bytes info) (steady : Steady dp bytes) (random : ℕ)
    (pos : ℤ) {flag : ℕ} (fixed : offsetRand flag = false) (lp : ℕ) :
    (genOffset random pos flag bytes lp info).map Prod.fst =
      (genOffset 0 pos flag bytes 0 .zero).map Prod.fst := by
  unfold genOffset
  by_cases hosted : (offsetSni flag || offsetHost flag) = true
  · rw [if_pos hosted, if_pos hosted]
    dsimp only
    obtain ⟨one, found⟩ := agrees.init steady
    obtain ⟨other, found'⟩ := (@agrees_zero bytes).init steady
    rw [found, found', Option.getD_some, Option.map_map, Option.map_map]
    change Option.map id _ = Option.map id _
    unfold hostOffset
    by_cases placed : (searchHost bytes none).1.pos = 0
    · simp only [placed, true_or, if_true]
    · rw [(one _ found).2 placed, (other _ found').2 placed]
      simp only [fixed, Bool.false_eq_true, if_false]
  · simp only [hosted, fixed, Bool.false_eq_true, if_false]
    split_ifs <;> rfl

/-- A call finds a place without chance where any other call finds it. -/
theorem Agrees.genOffset_eq (agrees : Agrees bytes info) (steady : Steady dp bytes) (random : ℕ)
    (part : Part) (fixed : offsetRand part.flag = false) (lp k : ℕ) :
    ∃ place info', genOffset random part.pos part.flag bytes lp info = some (place, info') ∧
      place + part.s * k = cutAt bytes (part, k) ∧ Agrees bytes info' := by
  have same := agrees.genOffset_fst steady random part.pos fixed lp
  cases found : genOffset random part.pos part.flag bytes lp info with
  | none => simp [offsetRand_of_genOffset found] at fixed
  | some result =>
      obtain ⟨place, info'⟩ := result
      refine ⟨place, info', rfl, ?_, agrees.genOffset_snd steady found⟩
      rw [cutAt, ← same, found, Option.map_some, Option.getD_some]

/-- At the beginning of a request there is always something to choose from. -/
theorem Agrees.genOffset_isSome (agrees : Agrees bytes info) (steady : Steady dp bytes)
    (nonempty : bytes ≠ []) (random : ℕ) (pos : ℤ) (flag : ℕ) :
    (genOffset random pos flag bytes 0 info).isSome = true := by
  unfold genOffset
  by_cases hosted : (offsetSni flag || offsetHost flag) = true
  · rw [if_pos hosted]
    dsimp only
    rw [(agrees.init steady).2, Option.getD_some, Option.isSome_map]
    unfold hostOffset
    split_ifs with away
    all_goals first | rfl | skip
    rename_i nameless
    exact absurd nameless (steady.named fun placed => away (.inl placed))
  · rw [if_neg hosted, if_neg (mt List.length_eq_zero_iff.mp nonempty)]
    split_ifs <;> rfl

theorem Agrees.fakeInfo (agrees : Agrees bytes info) (steady : Steady dp bytes)
    (nonempty : bytes ≠ []) :
    ∃ info', fakeInfo dp bytes info = some info' ∧ Agrees bytes info' := by
  -- A type is only set where there was none, so that no host can have been found.
  have retyped : ∀ type, info.type = none → Agrees bytes { info with type := type } := by
    intro type untyped host found
    obtain ⟨same, typed⟩ := agrees host found
    refine ⟨same, fun placed => ?_⟩
    have known := (searchHost_type none steady.named).2 (same ▸ placed)
    exact absurd ((typed placed).symm.trans untyped) known.2
  have first : ∀ info' : ProtoInfo, info' =
      (if dp.fakeData ∨ info.type.isSome then info
        else if isTlsChello bytes then { info with type := some .https }
        else if isHttp bytes then { info with type := some .http }
        else info) → Agrees bytes info' := by
    rintro info' rfl
    split_ifs with known
    · exact agrees
    · exact retyped _ (by simpa using (not_or.mp known).2)
    · exact retyped _ (by simpa using (not_or.mp known).2)
    · exact agrees
  unfold Byedpi.fakeInfo
  cases dp.fakeOffset with
  | none => exact ⟨_, rfl, first _ rfl⟩
  | some part =>
      obtain ⟨⟨place, info'⟩, found⟩ := Option.isSome_iff_exists.mp
        ((first _ rfl).genOffset_isSome steady nonempty 0 part.pos part.flag)
      exact ⟨info', congrArg (Option.map Prod.snd) found, (first _ rfl).genOffset_snd steady found⟩

end Steady

/-! ### A part that is sent -/

/-- The TTL is the usual one, or it is known that it is not. -/
def Sock.Sane (params : Params) (sock : Sock) : Prop :=
  sock.restoreTtl = false → sock.ttl = params.defTtl

theorem Sock.Sane.restoreState {params : Params} {sock : Sock} (sane : sock.Sane params) :
    sock.restoreState params = .fresh params := by
  obtain ⟨ttl, restore⟩ := sock
  cases restore with
  | false => exact congrArg (Sock.mk · false) (sane rfl)
  | true => rfl

/-- A network that takes whatever it is given. -/
structure Net.Takes (net : Net) : Prop where
  part : ∀ i, (net.part i).outcome = .full ∧ (net.part i).slot = true
  last : net.last = .full

theorem between_append (bytes : List UInt8) {a b c : ℕ} (first : a ≤ b) (second : b ≤ c) :
    between bytes a b ++ between bytes b c = between bytes a c := by
  have split : c - a = (b - a) + (c - b) := by omega
  rw [between, between, between, split, List.take_add, List.drop_drop]
  congr 3
  omega

theorem between_drop (bytes : List UInt8) {a b : ℕ} (forward : a ≤ b) :
    between bytes a b ++ bytes.drop b = bytes.drop a := by
  have back : bytes.drop b = (bytes.drop a).drop (b - a) := by
    rw [List.drop_drop]
    congr 1
    omega
  rw [between, back, List.take_append_drop]

theorem received_append (hops : ℕ) (front back : List Wire) :
    received hops (front ++ back) = received hops front ++ received hops back :=
  List.flatMap_append

/-- No fake of a group gets as far as the server. -/
def Group.Far (dp : Group) (hops : ℕ) : Prop :=
  ∀ part ∈ dp.parts, part.m = .fake → dp.fakeTtl < hops

section Part

variable {hops : ℕ} {params : Params} {dp : Group} {attempt : Attempt} {bytes : List UInt8}
  {size lp pos : ℕ} {info : ProtoInfo} {sock : Sock}

/-- What the server gets of a part. -/
def Sent.Carries (hops : ℕ) (sent : Sent) (bytes : List UInt8) (lp pos : ℕ) : Prop :=
  received hops sent.wire = between bytes lp
    (lp + ((sent.outcome.bind fun outcome => outcome.taken (pos - lp)).getD 0))

theorem carries_of_taken {outcome : Outcome} {wire : ℕ → Wire}
    (taken : ∀ s, (wire s).bytes hops = between bytes lp (lp + s)) (sock : Sock) :
    Sent.Carries hops ⟨some outcome, ((outcome.taken (pos - lp)).map wire).toList, info, sock⟩
      bytes lp pos := by
  unfold Sent.Carries
  dsimp only
  rw [Option.bind_some]
  cases outcome.taken (pos - lp) with
  | none => simp [received, between]
  | some s => simp [received, taken]

theorem carries_nothing {outcome : Option Outcome} (sock : Sock)
    (nothing : (outcome.bind fun outcome => outcome.taken (pos - lp)).getD 0 = 0) :
    Sent.Carries hops ⟨outcome, [], info, sock⟩ bytes lp pos := by
  rw [Sent.Carries, nothing]
  simp [received, between]

theorem sendOob_carries (outcome : Outcome) :
    (sendOob dp outcome bytes size lp pos info sock).Carries hops bytes lp pos := by
  unfold sendOob
  split_ifs with full again
  · exact carries_nothing sock rfl
  · exact carries_nothing sock rfl
  · exact carries_of_taken (fun _ => rfl) sock

/-- A fake that does not get to the server. -/
theorem sendFake_spec (far : dp.fakeTtl < hops) (agrees : Agrees bytes info)
    (steady : Steady dp bytes) (nonempty : bytes ≠ []) (sane : sock.Sane params) :
    ∃ sent, sendFake params dp attempt bytes lp pos info sock = some sent ∧
      sent.Carries hops bytes lp pos ∧ Agrees bytes sent.info ∧ sent.sock.Sane params ∧
      (attempt.outcome = .full → attempt.slot = true → sent.outcome = some .full) := by
  obtain ⟨info', found, agrees'⟩ := agrees.fakeInfo steady nonempty
  have beyond : ∀ s, (Wire.fake dp.fakeTtl attempt.shown (between bytes lp (lp + s))).bytes hops =
      between bytes lp (lp + s) := fun s => if_neg (Nat.not_le.mpr far)
  unfold sendFake
  rw [found, Option.bind_eq_bind, Option.bind_some]
  split_ifs with nothing slot
  · refine ⟨_, rfl, carries_nothing sock ?_, agrees', sane, fun _ _ => rfl⟩
    simp [Outcome.taken, nothing]
  · exact ⟨_, rfl, carries_nothing sock rfl, agrees', sane, fun _ free => by simp [free] at slot⟩
  · exact ⟨_, rfl, carries_of_taken beyond _, agrees', fun _ => rfl, fun taken _ => by rw [taken]⟩

/-- A part, whatever becomes of it. -/
theorem sendPart_spec {part : Part} (k : ℕ) (far : dp.Far hops) (listed : part ∈ dp.parts)
    (agrees : Agrees bytes info) (steady : Steady dp bytes) (nonempty : bytes ≠ [])
    (sane : sock.Sane params) :
    ∃ sent, sendPart params dp part k attempt bytes size lp pos info sock = some sent ∧
      sent.Carries hops bytes lp pos ∧ Agrees bytes sent.info ∧ sent.sock.Sane params ∧
      (pos < size → attempt.outcome = .full → attempt.slot = true →
        sent.outcome = some .full) := by
  have lowered : ∀ ttl, Sock.Sane params ⟨ttl, true⟩ := by
    rintro ttl ⟨⟩
  have oob : ∀ sock : Sock, sock.Sane params →
      (sendOob dp attempt.outcome bytes size lp pos info sock).Carries hops bytes lp pos ∧
        Agrees bytes (sendOob dp attempt.outcome bytes size lp pos info sock).info ∧
        (sendOob dp attempt.outcome bytes size lp pos info sock).sock.Sane params ∧
        (pos < size → attempt.outcome = .full → attempt.slot = true →
          (sendOob dp attempt.outcome bytes size lp pos info sock).outcome = some .full) := by
    intro sock sane
    refine ⟨sendOob_carries _, ?_⟩
    unfold sendOob
    split_ifs with full again
    · exact ⟨agrees, sane, fun room => absurd full (Nat.not_le.mpr room)⟩
    · exact ⟨agrees, sane, fun room => absurd full (Nat.not_le.mpr room)⟩
    · exact ⟨agrees, sane, fun _ taken _ => congrArg some taken⟩
  unfold sendPart
  cases mode : part.m with
  | none | split =>
      exact ⟨_, rfl, carries_of_taken (fun _ => rfl) _, agrees, sane,
        fun _ taken _ => congrArg some taken⟩
  | disorder =>
      exact ⟨_, rfl, carries_of_taken (fun _ => rfl) _, agrees, lowered _,
        fun _ taken _ => congrArg some taken⟩
  | oob => exact ⟨_, rfl, oob _ sane⟩
  | disoob => exact ⟨_, rfl, oob _ (lowered _)⟩
  | fake =>
      obtain ⟨sent, sends, carries, agrees', sane', full⟩ :=
        sendFake_spec (far part listed mode) agrees steady nonempty sane
      exact ⟨sent, sends, carries, agrees', sane', fun _ => full⟩

end Part

/-! ### A call that is not disturbed -/

section Call

variable {hops : ℕ} {env : Env} {part : Part} {k lp past partSent : ℕ} {rest : List (Part × ℕ)}
  {info : ProtoInfo} {sock : Sock}

theorem sendRest_ret : (sendRest env lp partSent sock).partSent = partSent ∧
    ∀ k, (sendRest env lp partSent sock).ret = some k →
      k = lp - env.offset ∨ k = env.bytes.length - env.offset := by
  unfold sendRest
  dsimp only
  split_ifs
  · exact ⟨rfl, fun k ret => .inr (Option.some.inj ret).symm⟩
  · cases env.net.last with
    | full | short s => exact ⟨rfl, fun k ret => .inr (Option.some.inj ret).symm⟩
    | again => exact ⟨rfl, fun k ret => .inl (Option.some.inj ret).symm⟩
    | failed => exact ⟨rfl, by rintro k ⟨⟩⟩

theorem sendRest_full (last : env.net.last = .full) :
    ∃ wire, sendRest env lp partSent sock =
        ⟨wire, some (env.bytes.length - env.offset), false, partSent, sock⟩ ∧
      received hops wire = env.bytes.drop lp := by
  unfold sendRest
  dsimp only
  split_ifs with beyond
  · exact ⟨[], rfl, (List.drop_eq_nil_of_le beyond).symm⟩
  · rw [last]
    exact ⟨_, rfl, by simp [received, Wire.bytes]⟩

theorem sendRest_fresh (last : env.net.last = .full) (sane : sock.Sane env.params)
    (restored : sock.restoreTtl = false) :
    ∃ wire last, sendRest env lp partSent sock =
        ⟨wire, some (env.bytes.length - env.offset), false, last, .fresh env.params⟩ ∧
      received hops wire = env.bytes.drop lp := by
  obtain ⟨ttl, restore⟩ := sock
  cases restored
  cases sane rfl
  obtain ⟨wire, rest, bytes⟩ :=
    @sendRest_full hops env lp partSent ⟨env.params.defTtl, false⟩ last
  exact ⟨wire, partSent, rest, bytes⟩

/-- What a round of the loop can do: pass the part over, leave the loop, or send the part, and
then return or go on behind it. -/
theorem sendParts_round (far : env.dp.Far hops) (steady : Steady env.dp env.bytes)
    (nonempty : env.bytes ≠ []) (back : env.skip = env.offset)
    (listed : part ∈ env.dp.parts) (inside : lp ≤ env.bytes.length)
    (agrees : Agrees env.bytes info) (sane : sock.Sane env.params) :
    (∃ info', Agrees env.bytes info' ∧
        (past + 1 < env.partSkip ∨
          env.offset ≠ 0 ∧ cutAt env.bytes (part, k) < env.offset) ∧
        sendParts env ((part, k) :: rest) past lp info partSent sock =
          sendParts env rest (past + 1) lp info' partSent sock) ∨
      ((env.offset ≠ 0 → env.offset ≤ cutAt env.bytes (part, k)) ∧
        cutAt env.bytes (part, k) < lp ∧
        sendParts env ((part, k) :: rest) past lp info partSent sock =
          some (sendRest env lp partSent sock)) ∨
      ∃ pos sent, lp ≤ pos ∧ pos ≤ env.bytes.length ∧
        min (cutAt env.bytes (part, k)) env.bytes.length = pos ∧
        Agrees env.bytes sent.info ∧ sent.sock.Sane env.params ∧
        (past + 1 = env.partSkip → sent.outcome = some .full ∧ sent.wire = []) ∧
        (past + 1 ≠ env.partSkip → sent.Carries hops env.bytes lp pos ∧
          (pos < env.size → (env.net.part (past + 1)).outcome = .full →
            (env.net.part (past + 1)).slot = true → sent.outcome = some .full)) ∧
        ((∃ call, returnAfter env (past + 1) lp pos sent = some call ∧
            sendParts env ((part, k) :: rest) past lp info partSent sock = some call) ∨
          returnAfter env (past + 1) lp pos sent = none ∧
            sendParts env ((part, k) :: rest) past lp info partSent sock =
              (sendParts env rest (past + 1) pos sent.info (past + 1)
                (.fresh env.params)).map (Call.prepend sent.wire)) := by
  obtain ⟨offset, info', found, cut, known⟩ := agrees.genOffset_eq steady
    (env.net.part (past + 1)).random part (steady.fixed part listed) lp k
  generalize called : sendParts env ((part, k) :: rest) past lp info partSent sock = call
  rw [sendParts] at called
  dsimp only at called
  rw [found, Option.bind_eq_bind, Option.bind_some] at called
  dsimp only at called
  rw [cut] at called
  generalize cutAt env.bytes (part, k) = place at cut called
  by_cases skipped : ((env.skip ≠ 0 ∧ place < env.skip) ∨ past + 1 < env.partSkip) ∧
      (!offsetStart part.flag) = true
  · rw [if_pos skipped] at called
    refine .inl ⟨info', known, ?_, called.symm⟩
    rw [← back]
    exact skipped.1.symm
  rw [if_neg skipped] at called
  by_cases earlier : env.offset ≠ 0 ∧ place < env.offset
  · rw [if_pos earlier] at called
    exact .inl ⟨info', known, .inr earlier, called.symm⟩
  rw [if_neg earlier] at called
  by_cases backward : place < 0 ∨ place < lp
  · rw [if_pos backward] at called
    refine .inr (.inl ⟨fun begun => ?_, by omega, called.symm⟩)
    exact not_lt.mp fun less => earlier ⟨begun, less⟩
  rw [if_neg backward] at called
  obtain ⟨pos, pos_eq⟩ : ∃ pos, pos = min place.toNat env.bytes.length := ⟨_, rfl⟩
  rw [← pos_eq] at called
  -- What is sent of the part, also where nothing is.
  obtain ⟨sent', sends, carries, agrees', sane', full⟩ := @sendPart_spec hops env.params env.dp
    (env.net.part (past + 1)) env.bytes env.size lp pos info' sock part k far listed known steady
    nonempty sane
  obtain ⟨sent, sent_eq⟩ : ∃ sent : Sent, sent =
      (if past + 1 = env.partSkip then ⟨some .full, [], info', sock⟩ else sent') := ⟨_, rfl⟩
  have sends' : (if past + 1 = env.partSkip then some ⟨some .full, [], info', sock⟩
      else sendPart env.params env.dp part k (env.net.part (past + 1)) env.bytes env.size lp pos
        info' sock) = some sent := by
    rw [sends, sent_eq]
    split_ifs <;> rfl
  rw [sends', Option.bind_eq_bind, Option.bind_some] at called
  have spec : Agrees env.bytes sent.info ∧ sent.sock.Sane env.params := by
    rw [sent_eq]
    split_ifs
    · exact ⟨known, sane⟩
    · exact ⟨agrees', sane'⟩
  refine .inr (.inr ⟨pos, sent, by omega, by omega, by omega, spec.1, spec.2, ?_, ?_, ?_⟩)
  · intro same
    rw [sent_eq, if_pos same]
    exact ⟨rfl, rfl⟩
  · intro other
    rw [sent_eq, if_neg other]
    exact ⟨carries, full⟩
  · rw [spec.2.restoreState] at called
    cases returned : returnAfter env (past + 1) lp pos sent with
    | some result =>
        rw [returned] at called
        exact .inl ⟨result, rfl, called.symm⟩
    | none =>
        rw [returned] at called
        exact .inr ⟨rfl, called.symm⟩

/-- Behind a part that has been taken a call waits or goes on. -/
theorem returnAfter_full {curr pos : ℕ} {sent : Sent} (full : sent.outcome = some .full) :
    returnAfter env curr lp pos sent =
        some ⟨sent.wire, some (pos - env.offset), true, curr, sent.sock⟩ ∧
          ((env.net.part curr).notsent = true ∨
            env.params.waitSend = true ∧ env.partSkip < curr) ∨
      returnAfter env curr lp pos sent = none := by
  unfold returnAfter
  rw [full]
  simp only [Outcome.taken, Option.getD_some, ne_eq, not_true_eq_false, if_false]
  by_cases waits : (env.net.part curr).notsent = true ∨
      env.params.waitSend = true ∧ env.partSkip < curr
  · exact .inl ⟨if_pos waits, waits⟩
  · exact .inr (if_neg waits)

end Call

/-- A call that goes on where the last one has stopped. It is told a part that ends at `target`,
which is where it begins to send; the parts before it end before its offset. -/
structure Resumes (env : Env) (all : List (Part × ℕ)) (target : ℕ) : Prop where
  skip_eq : env.skip = env.offset
  begun : env.partSkip ≠ 0 → env.offset ≠ 0
  forward : env.offset ≤ target
  listed : env.partSkip ≤ all.length
  behind : ∀ c ∈ all.take (env.partSkip - 1),
    min (cutAt env.bytes c) env.bytes.length ≤ env.offset
  reached : env.partSkip ≠ 0 → ∀ c, all[env.partSkip - 1]? = some c →
    min (cutAt env.bytes c) env.bytes.length = target
  quiet : target = env.offset ∨ ∀ i, (env.net.part i).notsent = false

/-- A call that waits at a place. -/
structure Waits (env : Env) (all : List (Part × ℕ)) (pos : ℕ) (call : Call) : Prop where
  ret : call.ret = some (pos - env.offset)
  wait : call.wait = true
  inside : pos ≤ env.bytes.length
  listed : call.partSent ≤ all.length
  begun : call.partSent ≠ 0
  behind : ∀ c ∈ all.take (call.partSent - 1),
    min (cutAt env.bytes c) env.bytes.length ≤ pos
  reached : ∀ c, all[call.partSent - 1]? = some c →
    min (cutAt env.bytes c) env.bytes.length = pos
  sane : call.sock.Sane env.params
  reason : (∃ i, (env.net.part i).notsent = true) ∨
    env.params.waitSend = true ∧ env.partSkip < call.partSent

theorem Waits.prepend {env : Env} {all : List (Part × ℕ)} {pos : ℕ} {call : Call}
    (waits : Waits env all pos call) (wire : List Wire) : Waits env all pos (call.prepend wire) :=
  ⟨waits.ret, waits.wait, waits.inside, waits.listed, waits.begun, waits.behind, waits.reached,
    waits.sane, waits.reason⟩

/-- Where the bytes of the next `send` begin: nothing is sent before the part that the call is
told is over. -/
def sendsFrom (env : Env) (target past lp : ℕ) : ℕ := if past < env.partSkip then target else lp

theorem sendsFrom_early {env : Env} {target past lp : ℕ} (early : past < env.partSkip) :
    sendsFrom env target past lp = target := if_pos early

theorem sendsFrom_late {env : Env} {target past lp : ℕ} (late : env.partSkip ≤ past) :
    sendsFrom env target past lp = lp := if_neg (Nat.not_lt.mpr late)

/-- The loop from any of its rounds on. The part that the call is told is also the one at which
a TTL is restored. -/
theorem sendParts_takes {hops : ℕ} {env : Env} (takes : env.net.Takes) (far : env.dp.Far hops)
    (steady : Steady env.dp env.bytes) (nonempty : env.bytes ≠ [])
    (room : env.bytes.length < env.size) {all front todo : List (Part × ℕ)}
    (listed : ∀ c ∈ all, c.1 ∈ env.dp.parts) {target : ℕ} (resumes : Resumes env all target)
    (split : all = front ++ todo) {lp partSent : ℕ} {info : ProtoInfo} {sock : Sock}
    (start : env.offset ≤ lp) (inside : lp ≤ env.bytes.length)
    (early : front.length < env.partSkip → lp = env.offset)
    (behind : ∀ c ∈ front, min (cutAt env.bytes c) env.bytes.length ≤
      sendsFrom env target front.length lp)
    (agrees : Agrees env.bytes info) (sane : sock.Sane env.params)
    (usual : sock.restoreTtl = false ∨ front.length < env.partSkip) :
    (∃ wire last, sendParts env todo front.length lp info partSent sock =
        some ⟨wire, some (env.bytes.length - env.offset), false, last, .fresh env.params⟩ ∧
      received hops wire = env.bytes.drop (sendsFrom env target front.length lp)) ∨
    ∃ pos call, sendParts env todo front.length lp info partSent sock = some call ∧
      Waits env all pos call ∧ sendsFrom env target front.length lp ≤ pos ∧
      received hops call.wire = between env.bytes (sendsFrom env target front.length lp) pos := by
  have forward := resumes.forward
  induction todo generalizing front lp partSent info sock with
  | nil =>
      have beyond : ¬ front.length < env.partSkip := by
        have := resumes.listed
        rw [split, List.append_nil] at this
        omega
      rw [sendsFrom, if_neg beyond]
      obtain ⟨wire, last, rest, bytes⟩ :=
        sendRest_fresh takes.last sane (usual.resolve_right beyond)
      exact .inl ⟨wire, last, congrArg some rest, bytes⟩
  | cons c todo ih =>
      obtain ⟨part, k⟩ := c
      have member : (part, k) ∈ all := by simp [split]
      have here : all[front.length]? = some (part, k) := by simp [split]
      have split' : all = (front ++ [(part, k)]) ++ todo := by simp [split]
      have count : (front ++ [(part, k)]).length = front.length + 1 := by simp
      have atPart : front.length + 1 = env.partSkip →
          min (cutAt env.bytes (part, k)) env.bytes.length = target := by
        intro same
        exact resumes.reached (by omega) _ (by rw [← same]; exact here)
      have before : front.length + 1 < env.partSkip →
          min (cutAt env.bytes (part, k)) env.bytes.length ≤ env.offset := by
        intro less
        refine resumes.behind _ (List.mem_of_getElem? (i := front.length) ?_)
        rw [List.getElem?_take, if_pos (by omega), here]
      obtain ⟨info', agrees', passed, called⟩ | ⟨later, backward, called⟩ |
          ⟨pos, sent, ahead, inside', place, agrees', sane', told, other, called⟩ :=
        @sendParts_round hops env part k lp front.length partSent todo info sock far steady
          nonempty resumes.skip_eq (listed _ member) inside agrees sane
      · -- The part is passed over, so it is not the one that the call is told.
        have notYet : front.length + 1 ≠ env.partSkip := fun same => by
          have := atPart same
          omega
        have same : sendsFrom env target (front ++ [(part, k)]).length lp =
            sendsFrom env target front.length lp := by
          rw [sendsFrom, sendsFrom, count]
          split_ifs <;> omega
        rw [called, ← count, ← same]
        refine ih split' start inside (fun less => early (by omega)) ?_ agrees' sane
          (usual.imp_right fun later => by omega)
        intro c member
        rw [same]
        obtain old | new := List.mem_append.mp member
        · exact behind c old
        · cases List.mem_singleton.mp new
          have : env.offset ≤ sendsFrom env target front.length lp := by
            unfold sendsFrom
            split_ifs <;> omega
          omega
      · -- The loop is left, which happens only behind the part that the call is told.
        have beyond : ¬ front.length < env.partSkip := fun less => by
          have := early less
          have := later (resumes.begun (by omega))
          omega
        rw [called, sendsFrom, if_neg beyond]
        obtain ⟨wire, last, rest, bytes⟩ :=
          sendRest_fresh takes.last sane (usual.resolve_right beyond)
        exact .inl ⟨wire, last, congrArg some rest, bytes⟩
      · have full : sent.outcome = some .full := by
          by_cases same : front.length + 1 = env.partSkip
          · exact (told same).1
          · obtain ⟨taken, slot⟩ := takes.part (front.length + 1)
            exact (other same).2 (by omega) taken slot
        have stays : front.length + 1 < env.partSkip → pos = env.offset ∧ lp = env.offset := by
          intro less
          have := before less
          have := early (by omega)
          omega
        obtain ⟨next, next_eq⟩ : ∃ next, next = sendsFrom env target (front.length + 1) pos :=
          ⟨_, rfl⟩
        obtain ⟨onward, reached, bytes⟩ : sendsFrom env target front.length lp ≤ next ∧
            pos ≤ next ∧
            received hops sent.wire =
              between env.bytes (sendsFrom env target front.length lp) next := by
          rw [next_eq]
          obtain less | same | greater := Nat.lt_trichotomy (front.length + 1) env.partSkip
          · obtain ⟨rfl, rfl⟩ := stays less
            have carried := (other (Nat.ne_of_lt less)).1
            rw [Sent.Carries, full] at carried
            rw [sendsFrom_early less, sendsFrom_early (Nat.lt_of_succ_lt less), carried]
            exact ⟨le_rfl, forward, by simp [between, Outcome.taken]⟩
          · have there := atPart same
            rw [sendsFrom_late (Nat.le_of_eq same.symm), sendsFrom_early (Nat.lt_of_succ_le
              (Nat.le_of_eq same)), (told same).2]
            refine ⟨by omega, le_rfl, ?_⟩
            rw [show pos = target by omega]
            simp [between, received]
          · have carried := (other (Nat.ne_of_gt greater)).1
            rw [Sent.Carries, full] at carried
            rw [sendsFrom_late (Nat.le_of_lt greater), sendsFrom_late (Nat.le_of_lt_succ greater),
              carried]
            refine ⟨ahead, le_rfl, ?_⟩
            rw [Option.bind_some, Outcome.taken, Option.getD_some, Nat.add_sub_cancel' ahead]
        have behind' : ∀ c ∈ front ++ [(part, k)],
            min (cutAt env.bytes c) env.bytes.length ≤ next := by
          intro c member
          obtain old | new := List.mem_append.mp member
          · have := behind c old
            omega
          · cases List.mem_singleton.mp new
            omega
        obtain ⟨call, returned, called⟩ | ⟨-, called⟩ := called
        · -- The call waits, and then at the place from which the next one will send.
          obtain ⟨waits, reason⟩ | goesOn :=
            @returnAfter_full env lp (front.length + 1) pos sent full
          · rw [waits, Option.some.injEq] at returned
            have there : next = pos := by
              rw [next_eq]
              by_cases less : front.length + 1 < env.partSkip
              · have stands : target = env.offset := resumes.quiet.resolve_right fun quiet => by
                  simp [quiet] at reason
                  omega
                rw [sendsFrom_early less, stands, (stays less).1]
              · exact sendsFrom_late (Nat.not_lt.mp less)
            rw [there] at onward bytes behind'
            rw [called, ← returned]
            refine .inr ⟨pos, _, rfl, ⟨rfl, rfl, inside', ?_, Nat.succ_ne_zero _, ?_, ?_, sane',
              ?_⟩, onward, bytes⟩
            · rw [split', List.length_append, count]
              exact Nat.le_add_right _ _
            · rw [Nat.add_sub_cancel, split, List.take_left]
              exact fun c old => behind' c (List.mem_append_left _ old)
            · intro c found
              rw [Nat.add_sub_cancel, here] at found
              cases found
              exact place
            · exact reason.imp_left fun notsent => ⟨_, notsent⟩
          · rw [goesOn] at returned
            cases returned
        · rw [called, ← count]
          rw [next_eq, ← count] at onward bytes behind'
          obtain ⟨more, last, finished, rest⟩ | ⟨stop, call, waiting, waits, further, rest⟩ :=
            @ih (front ++ [(part, k)]) split' pos (front ++ [(part, k)]).length sent.info
              (.fresh env.params) (by omega) inside'
              (fun less => (stays (by omega)).1) behind' agrees' (fun _ => rfl) (.inl rfl)
          · left
            refine ⟨sent.wire ++ more, last, by rw [finished]; rfl, ?_⟩
            rw [received_append, bytes, rest, between_drop _ onward]
          · right
            rw [waiting, Option.map_some]
            refine ⟨stop, _, rfl, waits.prepend sent.wire, onward.trans further, ?_⟩
            rw [Call.prepend, received_append, bytes, rest, between_append _ onward further]

/-! ### All calls for a request -/

/-- A request between two calls. The next one sends from `target` on, where the last part ends
that has been begun. -/
structure Held (params : Params) (dp : Group) (bytes : List UInt8) (target : ℕ)
    (tunnel : Tunnel) : Prop where
  bytes_eq : tunnel.buffer.take tunnel.lock = bytes
  lock_eq : tunnel.lock = bytes.length
  room : bytes.length < tunnel.buffer.length
  round_eq : tunnel.roundSent = tunnel.offset
  begun : tunnel.partSent ≠ 0 → tunnel.offset ≠ 0
  unbegun : tunnel.partSent = 0 → target = tunnel.offset
  forward : tunnel.offset ≤ target
  inside : target ≤ bytes.length
  listed : tunnel.partSent ≤ (repeated dp.parts).length
  behind : ∀ c ∈ (repeated dp.parts).take (tunnel.partSent - 1),
    min (cutAt bytes c) bytes.length ≤ tunnel.offset
  reached : tunnel.partSent ≠ 0 → ∀ c, (repeated dp.parts)[tunnel.partSent - 1]? = some c →
    min (cutAt bytes c) bytes.length = target
  sane : tunnel.sock.Sane params
  usual : tunnel.sock.restoreTtl = false ∨ tunnel.partSent ≠ 0

section Run

variable {hops : ℕ} {params : Params} {dp : Group} {bytes : List UInt8} {net : Net}
  {tunnel : Tunnel} {request : Request} {target : ℕ}

theorem Held.resumes (held : Held params dp bytes target tunnel) {net : Net}
    (quiet : target = tunnel.offset ∨ ∀ i, (net.part i).notsent = false) :
    Resumes ⟨params, dp, net, bytes, tunnel.buffer.length, tunnel.offset, tunnel.roundSent,
      tunnel.partSent⟩ (repeated dp.parts) target :=
  ⟨held.round_eq, held.begun, held.forward, held.listed, held.behind, held.reached, quiet⟩

/-- A call that waits holds the request at the place. -/
theorem Waits.held {pos : ℕ} {call : Call} {env : Env}
    (waits : Waits env (repeated dp.parts) pos call) (params_eq : env.params = params)
    (bytes_eq : env.bytes = bytes) (moved : pos ≠ 0)
    (request_bytes : request.bytes = bytes) (lock_eq : request.n = bytes.length)
    (room : bytes.length < request.buffer.length) :
    Held params dp bytes pos ⟨request.buffer, request.n, pos, pos, call.partSent, call.sock⟩ := by
  subst params_eq bytes_eq
  exact ⟨request_bytes, lock_eq, room, rfl, fun _ => moved, fun none => absurd none waits.begun,
    le_rfl, waits.inside, waits.listed, waits.behind, fun _ => waits.reached, waits.sane,
    .inr waits.begun⟩

theorem desync_eq {call : Call} (prepared : prepare params dp net tunnel = some request)
    (called : sendParts ⟨params, dp, net, request.bytes, request.buffer.length, tunnel.offset,
      tunnel.roundSent, tunnel.partSent⟩ (repeated dp.parts) 0 tunnel.offset request.info
      tunnel.partSent tunnel.sock = some call) :
    desync params dp net tunnel = some (call, ⟨request.buffer, request.n,
      tunnel.offset + call.ret.getD 0, tunnel.roundSent + call.ret.getD 0, call.partSent,
      call.sock⟩) := by
  rw [desync, prepared, Option.bind_eq_bind, Option.bind_some]
  dsimp only
  rw [called, Option.bind_eq_bind, Option.bind_some]

/-- A call that returns has sent its parts. -/
theorem exists_sendParts {result : Call × Tunnel}
    (prepared : prepare params dp net tunnel = some request)
    (called : desync params dp net tunnel = some result) :
    ∃ call, sendParts ⟨params, dp, net, request.bytes, request.buffer.length, tunnel.offset,
      tunnel.roundSent, tunnel.partSent⟩ (repeated dp.parts) 0 tunnel.offset request.info
      tunnel.partSent tunnel.sock = some call := by
  rw [desync, prepared, Option.bind_eq_bind, Option.bind_some] at called
  obtain ⟨call, sends, -⟩ := Option.bind_eq_some_iff.mp called
  exact ⟨call, sends⟩

/-- One call: everything from the target on is sent, or everything up to a place at which the
next call will find the request. -/
theorem desync_held (takes : net.Takes) (far : dp.Far hops) (steady : Steady dp bytes)
    (nonzero : ∀ c ∈ repeated dp.parts, cutAt bytes c ≠ 0) (nonempty : bytes ≠ [])
    (prepared : prepare params dp net tunnel = some request)
    (agrees : Agrees bytes request.info)
    (held : Held params dp bytes target
      { tunnel with buffer := request.buffer, lock := request.n })
    (quiet : target = tunnel.offset ∨ ∀ i, (net.part i).notsent = false) :
    ∃ call next sn, desync params dp net tunnel = some (call, next) ∧ call.ret = some sn ∧
      next.lock = bytes.length ∧
      (sn = bytes.length - tunnel.offset ∧ call.wait = false ∧
          next.offset = bytes.length ∧ next.sock = .fresh params ∧
          received hops call.wire = bytes.drop target ∨
        call.wait = true ∧ Held params dp bytes next.offset next ∧ next.offset ≠ 0 ∧
          target ≤ next.offset ∧
          received hops call.wire = between bytes target next.offset ∧
          ((∃ i, (net.part i).notsent = true) ∨
            params.waitSend = true ∧ tunnel.partSent < next.partSent)) := by
  have bytes_eq : request.bytes = bytes := held.bytes_eq
  obtain ⟨env, env_eq⟩ : ∃ env : Env, env = ⟨params, dp, net, bytes, request.buffer.length,
    tunnel.offset, tunnel.roundSent, tunnel.partSent⟩ := ⟨_, rfl⟩
  have resumes : Resumes env (repeated dp.parts) target := env_eq ▸ held.resumes quiet
  have start : sendsFrom env target 0 tunnel.offset = target := by
    subst env_eq
    unfold sendsFrom
    split_ifs with begun
    · rfl
    · exact (held.unbegun (Nat.eq_zero_of_not_pos begun)).symm
  have forward : tunnel.offset ≤ target := held.forward
  have inside : target ≤ bytes.length := held.inside
  have round_eq : tunnel.roundSent = tunnel.offset := held.round_eq
  subst env_eq
  obtain ⟨wire, last, finished, rest⟩ | ⟨pos, call, waiting, waits, further, rest⟩ :=
    @sendParts_takes hops ⟨params, dp, net, bytes, request.buffer.length, tunnel.offset,
      tunnel.roundSent, tunnel.partSent⟩ takes far steady nonempty held.room (repeated dp.parts) []
      (repeated dp.parts) (fun c member => mem_parts_of_repeated member) target resumes rfl
      tunnel.offset tunnel.partSent request.info tunnel.sock le_rfl (forward.trans inside)
      (fun _ => rfl) (by simp) agrees held.sane (held.usual.imp_right Nat.pos_of_ne_zero)
  · have called := desync_eq prepared (by rw [bytes_eq]; exact finished)
    rw [List.length_nil, start] at rest
    refine ⟨_, _, _, called, rfl, held.lock_eq, .inl ⟨rfl, rfl, ?_, rfl, rest⟩⟩
    dsimp only [Option.getD_some]
    omega
  · have called := desync_eq prepared (by rw [bytes_eq]; exact waiting)
    rw [List.length_nil, start] at rest further
    have ret : call.ret = some (pos - tunnel.offset) := waits.ret
    have there : tunnel.offset + (pos - tunnel.offset) = pos := by omega
    rw [ret, Option.getD_some, round_eq, there] at called
    have moved : pos ≠ 0 := by
      rintro rfl
      have listed := waits.listed
      have begun := waits.begun
      have bound : call.partSent - 1 < (repeated dp.parts).length := by omega
      have cut := waits.reached _ (List.getElem?_eq_getElem bound)
      have positive := List.length_pos_iff.mpr nonempty
      refine nonzero _ (List.getElem_mem bound) ?_
      dsimp only at cut
      omega
    exact ⟨call, _, _, called, ret, held.lock_eq, .inr ⟨waits.wait,
      waits.held rfl rfl moved bytes_eq held.lock_eq held.room, moved, further, rest,
      waits.reason⟩⟩

/-- What is to be said of the calls for a request: all bytes up to the last place have been sent,
all of them when the calls are over, and the calls are over before they outnumber the parts by
two, unless a socket is never empty. -/
structure Delivers (hops : ℕ) (params : Params) (dp : Group) (bytes : List UInt8)
    (nets : List Net) (tunnel : Tunnel) (wire : List Wire) (final : Tunnel) (done : Bool) :
    Prop where
  forward : tunnel.offset ≤ final.offset
  sent : received hops wire = between bytes tunnel.offset final.offset
  complete : done = true → final.offset = bytes.length ∧ final.sock = .fresh params
  finished : (∀ net ∈ nets, ∀ i, (net.part i).notsent = false) →
    (repeated dp.parts).length < nets.length + tunnel.partSent → done = true

/-- A call that has to wait, and the calls after it. -/
theorem Delivers.cons {nets : List Net} {next final : Tunnel} {wire more : List Wire} {done : Bool}
    (later : Delivers hops params dp bytes nets next more final done)
    (forward : tunnel.offset ≤ next.offset)
    (sent : received hops wire = between bytes tunnel.offset next.offset)
    (reason : (∃ i, (net.part i).notsent = true) ∨
      params.waitSend = true ∧ tunnel.partSent < next.partSent) :
    Delivers hops params dp bytes (net :: nets) tunnel (wire ++ more) final done where
  forward := forward.trans later.forward
  sent := by rw [received_append, sent, later.sent, between_append _ forward later.forward]
  complete := later.complete
  finished := by
    intro quiet enough
    have further : tunnel.partSent < next.partSent := by
      obtain ⟨i, notsent⟩ | ⟨-, further⟩ := reason
      · simp [quiet net List.mem_cons_self i] at notsent
      · exact further
    rw [List.length_cons] at enough
    exact later.finished (fun net member => quiet net (List.mem_cons_of_mem _ member)) (by omega)

/-- The last call. -/
theorem Delivers.single {nets : List Net} {next : Tunnel} {wire : List Wire}
    (inside : tunnel.offset ≤ bytes.length) (ends : next.offset = bytes.length)
    (sock : next.sock = .fresh params) (sent : received hops wire = bytes.drop tunnel.offset) :
    Delivers hops params dp bytes nets tunnel wire next true where
  forward := ends ▸ inside
  sent := by rw [sent, ends, between, List.take_of_length_le (by simp)]
  complete := fun _ => ⟨ends, sock⟩
  finished := fun _ _ => rfl

theorem run_cons {first : Bool} {nets : List Net} {call : Call} {next : Tunnel} {sn : ℕ}
    (called : desync params dp net tunnel = some (call, next)) (ret : call.ret = some sn) :
    run params dp first (net :: nets) tunnel =
      if sn < (if first then next.lock else tunnel.lock - tunnel.offset) ∨ call.wait then
        (run params dp false nets next).map fun later => (call.wire ++ later.1, later.2)
      else some (call.wire, next, true) := by
  rw [run, called, Option.bind_eq_bind, Option.bind_some]
  dsimp only
  rw [ret, Option.bind_eq_bind, Option.bind_some]
  congr 1
  cases run params dp false nets next <;> rfl

/-- The calls behind the first one. -/
theorem run_held (far : dp.Far hops) (steady : Steady dp bytes)
    (nonzero : ∀ c ∈ repeated dp.parts, cutAt bytes c ≠ 0) (nonempty : bytes ≠ [])
    {nets : List Net} (takes : ∀ net ∈ nets, net.Takes)
    (held : Held params dp bytes tunnel.offset tunnel) (begun : tunnel.offset ≠ 0) :
    ∃ wire final done, run params dp false nets tunnel = some (wire, final, done) ∧
      Delivers hops params dp bytes nets tunnel wire final done := by
  induction nets generalizing tunnel with
  | nil =>
      refine ⟨[], tunnel, false, rfl, le_rfl, by simp [between, received], by simp, ?_⟩
      intro _ enough
      have := held.listed
      rw [List.length_nil] at enough
      omega
  | cons net nets ih =>
      have prepared : prepare params dp net tunnel = some ⟨tunnel.buffer, tunnel.lock, .zero⟩ :=
        if_pos (held.round_eq.symm ▸ begun)
      obtain ⟨call, next, sn, called, ret, lock, cases⟩ :=
        desync_held (takes net List.mem_cons_self) far steady nonzero nonempty prepared
          agrees_zero held (.inl rfl)
      rw [run_cons called ret]
      obtain ⟨all, noWait, ends, sock, sent⟩ | ⟨wait, held', begun', forward, sent, reason⟩ :=
        cases
      · have last : ¬ (sn < tunnel.lock - tunnel.offset ∨ call.wait = true) := by
          rw [noWait, held.lock_eq, all]
          simp
        simp only [Bool.false_eq_true, if_false, if_neg last]
        exact ⟨_, _, _, rfl, .single held.inside ends sock sent⟩
      · obtain ⟨more, final, done, ran, later⟩ :=
          ih (fun net member => takes net (List.mem_cons_of_mem _ member)) held' begun'
        rw [if_pos (.inr wait), ran, Option.map_some]
        exact ⟨_, _, _, rfl, later.cons forward sent reason⟩

end Run

/-- A request of `n` bytes that has just been received, on a connection whose round begins. -/
def Tunnel.start (params : Params) (buffer : List UInt8) (n : ℕ) : Tunnel :=
  ⟨buffer, n, 0, 0, 0, .fresh params⟩

/-- A network in which nothing happens. -/
def calm : Net := ⟨fun _ => ⟨.full, 0, true, [], false⟩, .full, fun _ => 0⟩

theorem calm_takes : calm.Takes := ⟨fun _ => ⟨rfl, rfl⟩, rfl⟩

/-- Ten bytes in a buffer of twelve. -/
def tenBytes : List UInt8 := [0, 1, 2, 3, 4, 5, 6, 7, 8, 9, 0, 0]

/-- Three bytes behind a fake, the next three under a low TTL, and the rest. -/
def twoParts : Group :=
  ⟨[⟨.fake, 0, 3, 0, 0⟩, ⟨.disorder, 0, 6, 0, 0⟩], [], 0, none, none, 0, false, none⟩

theorem twoParts_far : twoParts.Far 12 := by
  rintro part - -
  decide

theorem twoParts_steady : Steady twoParts (tenBytes.take 10) := ⟨by decide, by decide⟩

/-- Behind the last part a call returns nothing that lies inside a part. -/
theorem sendRest_not_stopped {env : Env} (noOffset : env.offset = 0)
    {all front todo : List (Part × ℕ)} (split : all = front ++ todo) {lp j k : ℕ} {sock : Sock}
    {c : Part × ℕ} {call : Call}
    (behind : ∀ c ∈ front, min (cutAt env.bytes c) env.bytes.length ≤ lp)
    (ret : call.ret = some k) (stopped : call.partSent = j + 1) (part : all[j]? = some c)
    (short : k < min (cutAt env.bytes c) env.bytes.length) :
    sendRest env lp front.length sock ≠ call := by
  rintro rfl
  obtain ⟨last, returned⟩ := @sendRest_ret env lp front.length sock
  have member : c ∈ front := by
    rw [split, List.getElem?_append_left (by omega)] at part
    exact List.mem_of_getElem? part
  have ended := behind c member
  have := returned k ret
  omega

/-- A call that returns at a part returns how far the part has come. -/
theorem returnAfter_inside {env : Env} (noOffset : env.offset = 0) {curr lp pos k : ℕ} {sent : Sent}
    {call : Call} (ahead : lp ≤ pos) (returned : returnAfter env curr lp pos sent = some call)
    (ret : call.ret = some k) :
    ∃ s, k = lp + s ∧ call.wire = sent.wire ∧ call.partSent = curr ∧ call.sock = sent.sock ∧
      (sent.outcome.bind fun outcome => outcome.taken (pos - lp)).getD 0 = s := by
  obtain ⟨outcome, wire, info, sock⟩ := sent
  have taken : ∀ s : ℕ, (if s ≠ pos - lp then
        some ⟨wire, some (lp + s - env.offset), false, curr, sock⟩
      else if (env.net.part curr).notsent ∨ env.params.waitSend ∧ env.partSkip < curr then
        some ⟨wire, some (pos - env.offset), true, curr, sock⟩
      else none) = some call →
      k = lp + s ∧ call.wire = wire ∧ call.partSent = curr ∧ call.sock = sock := by
    intro s returned
    split_ifs at returned with inside waits
    · cases returned
      cases ret
      exact ⟨by omega, rfl, rfl, rfl⟩
    · cases returned
      cases ret
      exact ⟨by omega, rfl, rfl, rfl⟩
  cases outcome with
  | none =>
      cases returned
      cases ret
      exact ⟨0, by omega, rfl, rfl, rfl, rfl⟩
  | some outcome =>
      cases outcome with
      | full =>
          obtain ⟨place, same⟩ := taken _ returned
          exact ⟨_, place, same.1, same.2.1, same.2.2, rfl⟩
      | short m =>
          obtain ⟨place, same⟩ := taken _ returned
          exact ⟨_, place, same.1, same.2.1, same.2.2, rfl⟩
      | again =>
          cases returned
          cases ret
          exact ⟨0, by omega, rfl, rfl, rfl, rfl⟩
      | failed =>
          cases returned
          cases ret

/-- A call that goes on behind a part has sent all of it. -/
theorem returnAfter_none {env : Env} {curr lp pos : ℕ} {sent : Sent}
    (goesOn : returnAfter env curr lp pos sent = none) :
    (sent.outcome.bind fun outcome => outcome.taken (pos - lp)).getD 0 = pos - lp := by
  obtain ⟨outcome, wire, info, sock⟩ := sent
  rcases outcome with _ | _ | m | _ | _
  · cases goesOn
  · rfl
  · by_contra less
    change ¬ ((Outcome.short m).taken (pos - lp)).getD 0 = pos - lp at less
    simp only [returnAfter] at goesOn
    rw [if_pos less] at goesOn
    cases goesOn
  · cases goesOn
  · cases goesOn

/-- The first call for a request, if it returns inside a part: what it has sent, and which parts
are behind it. -/
theorem sendParts_stopped {hops : ℕ} {env : Env}
    (fresh : env.offset = 0 ∧ env.skip = 0 ∧ env.partSkip = 0) (far : env.dp.Far hops)
    (steady : Steady env.dp env.bytes) {all front todo : List (Part × ℕ)}
    (listed : ∀ c ∈ all, c.1 ∈ env.dp.parts) (split : all = front ++ todo) {lp j k : ℕ}
    {info : ProtoInfo} {sock : Sock} {c : Part × ℕ} {call : Call}
    (inside : lp ≤ env.bytes.length)
    (behind : ∀ c ∈ front, min (cutAt env.bytes c) env.bytes.length ≤ lp)
    (agrees : Agrees env.bytes info) (sane : sock.Sane env.params)
    (called : sendParts env todo front.length lp info front.length sock = some call)
    (ret : call.ret = some k) (stopped : call.partSent = j + 1) (part : all[j]? = some c)
    (short : k < min (cutAt env.bytes c) env.bytes.length) :
    lp ≤ k ∧ received hops call.wire = between env.bytes lp k ∧ call.sock.Sane env.params ∧
      ∀ c ∈ all.take j, min (cutAt env.bytes c) env.bytes.length ≤ k := by
  obtain ⟨noOffset, noSkip, noPart⟩ := fresh
  have nonempty : env.bytes ≠ [] := by
    rw [← List.length_pos_iff]
    omega
  induction todo generalizing front lp info sock call with
  | nil =>
      exact absurd (Option.some.inj called)
        (sendRest_not_stopped noOffset split behind ret stopped part short)
  | cons head todo ih =>
      obtain ⟨part', i⟩ := head
      have here : all[front.length]? = some (part', i) := by simp [split]
      have split' : all = (front ++ [(part', i)]) ++ todo := by simp [split]
      have count : (front ++ [(part', i)]).length = front.length + 1 := by simp
      obtain ⟨info', -, passed, -⟩ | ⟨-, -, left⟩ |
          ⟨pos, sent, ahead, inside', place, agrees', sane', -, other, goes⟩ :=
        @sendParts_round hops env part' i lp front.length front.length todo info sock far steady
          nonempty (noSkip.trans noOffset.symm) (listed (part', i) (by simp [split])) inside agrees
          sane
      · omega
      · exact absurd (Option.some.inj (left.symm.trans called))
          (sendRest_not_stopped noOffset split behind ret stopped part short)
      · have carried := (other (by omega)).1
        rw [called] at goes
        obtain ⟨call', returned, same⟩ | ⟨goesOn, onward⟩ := goes
        · cases same
          obtain ⟨s, rfl, wire, last, sock_eq, taken⟩ :=
            returnAfter_inside noOffset ahead returned ret
          cases last.symm.trans stopped
          rw [here] at part
          cases part
          rw [wire, sock_eq]
          refine ⟨Nat.le_add_right _ _, taken ▸ carried, sane', ?_⟩
          · rw [split, List.take_left]
            intro c member
            have := behind c member
            omega
        · have behind' : ∀ c ∈ front ++ [(part', i)],
              min (cutAt env.bytes c) env.bytes.length ≤ pos := by
            intro c member
            obtain old | new := List.mem_append.mp member
            · have := behind c old
              omega
            · cases List.mem_singleton.mp new
              omega
          obtain ⟨later, later_eq, rfl⟩ := Option.map_eq_some_iff.mp onward.symm
          rw [← count] at later_eq
          obtain ⟨further, bytes, sane'', before⟩ := ih split' inside' behind' agrees'
            (fun _ => rfl) later_eq ret stopped
          have whole : received hops sent.wire = between env.bytes lp pos := by
            rw [carried, returnAfter_none goesOn, Nat.add_sub_cancel' ahead]
          refine ⟨ahead.trans further, ?_, sane'', before⟩
          rw [Call.prepend, received_append, whole, bytes, between_append _ ahead further]

/-- The second part is cut short after one byte. -/
def cutShort : Net :=
  { calm with part := fun i => ⟨if i = 2 then .short 1 else .full, 0, true, [], false⟩ }

end ZonDpi.Byedpi
