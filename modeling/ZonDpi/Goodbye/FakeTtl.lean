import ZonDpi.Goodbye.Traffic

/-!
The TTL of fake requests over a whole run of GoodbyeDPI.

In the automatic mode the TTL comes from the SYN+ACK of the connection, if it came in less than
half a minute ago and no request has used it up (`ttl_of_synAck`). A request without a record is
faked with the TTL of the last connection that had one. So every TTL is the one of the options
or belongs to the distance of some server that answered before (`ttl_origin`).
-/

namespace ZonDpi.Goodbye

open Expiring ZonDpi.Engine

variable {v : GoodbyeSettings} {l : Loaded}

/-! ### The packets that count -/

/-- A SYN+ACK whose TTL is recorded. -/
structure SynAck (v : GoodbyeSettings) (e : Captured) (s : Segment) : Prop where
  packet : e.packet = .tcp s
  inbound : e.outbound = false
  flags : s.payload = [] ∧ s.syn = true ∧ s.ack = true
  tracked : tracksTtl v = true
  ports : s.srcPort ≠ 0 ∧ s.dstPort ≠ 0

/-- Whether a segment to the server is a request for which fakes are sent. -/
def fakesWanted (v : GoodbyeSettings) (l : Loaded) (behind : UInt8) (s : Segment) : Bool :=
  if httpsCandidate v s then isClientHello s.payload ∧ sniWanted v l s.payload behind
  else if httpCandidate v s then
    match findHeaderAndGetInfo s.payload httpHostFind with
    | some host => hostWanted v l s.payload host
    | none => false
  else false

/-- A request with fakes for which the table is asked. -/
structure Request (v : GoodbyeSettings) (l : Loaded) (e : Captured) (s : Segment) : Prop where
  packet : e.packet = .tcp s
  outbound : e.outbound = true
  data : s.payload ≠ []
  wanted : fakesWanted v l e.behind s = true
  tracked : tracksTtl v = true

/-- What a packet does to the table. -/
def ttlOp (v : GoodbyeSettings) (l : Loaded) (e : Captured) : Option (ℤ × Op Connection Nat) :=
  match e.packet with
  | .tcp s =>
    if tracksTtl v then
      if s.payload ≠ [] then
        if e.outbound ∧ fakesWanted v l e.behind s then some (e.now, .take s.connection) else none
      else if e.outbound = false ∧ s.syn ∧ s.ack then
        some (e.now,
          if s.srcPort ≠ 0 ∧ s.dstPort ≠ 0 then .add s.answered s.ip.ttl.toNat else .idle)
      else none
    else none
  | _ => none

theorem ttlOp_synAck {e : Captured} {s : Segment} (synAck : SynAck v e s) :
    ttlOp v l e = some (e.now, .add s.answered s.ip.ttl.toNat) := by
  simp [ttlOp, synAck.packet, synAck.inbound, synAck.flags, synAck.tracked, synAck.ports]

theorem time_of_ttlOp (e : Captured) (use : ℤ × Op Connection Nat)
    (used : ttlOp v l e = some use) : use.1 = e.now := by
  unfold ttlOp at used
  split at used
  · split_ifs at used <;> (cases used; rfl)
  · cases used

theorem synAck_of_ttlOp {e : Captured} {now : ℤ} {conn : Connection} {ttl : Nat}
    (used : ttlOp v l e = some (now, .add conn ttl)) :
    ∃ s, SynAck v e s ∧ s.answered = conn ∧ s.ip.ttl.toNat = ttl := by
  unfold ttlOp at used
  split at used
  · rename_i s packet
    split_ifs at used with tracked data request synAck ports
    · cases used
    · cases used
      exact ⟨s, ⟨packet, synAck.1, ⟨not_not.mp data, synAck.2⟩, tracked, ports⟩, rfl, rfl⟩
    · cases used
  · cases used

theorem request_of_ttlOp {e : Captured} {now : ℤ} {conn : Connection}
    (used : ttlOp v l e = some (now, .take conn)) : ∃ s, Request v l e s ∧ s.connection = conn := by
  unfold ttlOp at used
  split at used
  · rename_i s packet
    split_ifs at used with tracked data request synAck ports
    · cases used
      exact ⟨s, ⟨packet, request.1, data, request.2, tracked⟩, rfl⟩
    · cases used
    · cases used
  · cases used

/-! ### One packet -/

/-- The state after a request with fakes. -/
def requested (v : GoodbyeSettings) (now : ℤ) (s : Segment) (st : State) : State :=
  if tracksTtl v then
    { st with
      tcp := st.tcp.apply cleanupInterval (now, .take s.connection)
      ttlOfFakePacket := nextTtl v
        (((st.tcp.cleanup cleanupInterval now).record s.connection).map Prod.snd)
        st.ttlOfFakePacket }
  else st

theorem fakesFor_state (isHttps : Bool) (now : ℤ) (s : Segment) (st : State) :
    (fakesFor v l isHttps now s st).2 = requested v now s st := by
  unfold fakesFor requested
  by_cases fake : .doFakePacket ∈ v.flags
  · rw [if_pos fake]
    unfold handleOutgoingFakePacket
    dsimp only
    rw [knownTtl]
    by_cases asked : v.ttl.doAutoTtl = true ∨ v.ttlMinNhops ≠ 0
    · have tracked : tracksTtl v = true := decide_eq_true ⟨fake, asked⟩
      rw [if_pos asked, if_pos tracked]
      rfl
    · have untracked : ¬ tracksTtl v = true := fun tracked => asked (of_decide_eq_true tracked).2
      rw [if_neg asked, if_neg untracked]
      rfl
  · have untracked : ¬ tracksTtl v = true := fun tracked => fake (of_decide_eq_true tracked).1
    rw [if_neg fake, if_neg untracked]

theorem handleHttps_state (now : ℤ) (behind : UInt8) (s : Segment) (st : State) :
    (handleHttps v l now behind s st).2 =
      if isClientHello s.payload ∧ sniWanted v l s.payload behind then requested v now s st
      else st := by
  unfold handleHttps
  split_ifs
  · exact fakesFor_state true now s st
  · rfl

theorem handleHttp_state (now : ℤ) (s : Segment) (st : State) :
    (handleHttp v l now s st).2 =
      match findHeaderAndGetInfo s.payload httpHostFind with
      | some host => if hostWanted v l s.payload host then requested v now s st else st
      | none => st := by
  unfold handleHttp
  cases findHeaderAndGetInfo s.payload httpHostFind with
  | some host =>
      dsimp only
      split_ifs
      · exact fakesFor_state false now s st
      · rfl
  | none => rfl

theorem handleTcpData_state (now : ℤ) (outbound : Bool) (behind : UInt8) (s : Segment)
    (st : State) :
    (handleTcpData v l now outbound behind s st).2 =
      if outbound ∧ fakesWanted v l behind s then requested v now s st else st := by
  unfold handleTcpData fakesWanted
  cases outbound with
  | false =>
      simp only [Bool.false_eq_true, if_false, false_and]
      split_ifs <;> rfl
  | true =>
      rw [if_pos rfl]
      by_cases https : httpsCandidate v s = true
      · rw [if_pos https, if_pos https, handleHttps_state]
        simp
      · rw [if_neg https, if_neg https]
        by_cases http : httpCandidate v s = true
        · rw [if_pos http, if_pos http, handleHttp_state]
          cases findHeaderAndGetInfo s.payload httpHostFind <;> simp
        · rw [if_neg http, if_neg http]
          simp

theorem handleTcp_state (now : ℤ) (outbound : Bool) (s : Segment) (st : State) :
    (handleTcp v now outbound s st).2 =
      if (outbound = false ∧ s.syn ∧ s.ack) ∧ tracksTtl v then
        { st with tcp := tcpHandleIncoming now s.answered s.ip.ttl.toNat st.tcp }
      else st := by
  unfold handleTcp
  by_cases synAck : outbound = false ∧ s.syn ∧ s.ack
  · rw [if_pos synAck]
    dsimp only
    simp only [synAck, and_self, true_and]
    split_ifs <;> rfl
  · rw [if_neg synAck, if_neg fun both => synAck both.1]

theorem tcpHandleIncoming_apply (now : ℤ) (s : Segment) (t : TtlTable) :
    tcpHandleIncoming now s.answered s.ip.ttl.toNat t = t.apply cleanupInterval (now,
      if s.srcPort ≠ 0 ∧ s.dstPort ≠ 0 then .add s.answered s.ip.ttl.toNat else .idle) := by
  unfold tcpHandleIncoming
  by_cases ports : s.srcPort ≠ 0 ∧ s.dstPort ≠ 0
  · have same : s.answered.server.port ≠ 0 ∧ s.answered.client.port ≠ 0 := ports
    rw [if_pos same, if_pos ports]
    rfl
  · have same : ¬ (s.answered.server.port ≠ 0 ∧ s.answered.client.port ≠ 0) := ports
    rw [if_neg same, if_neg ports]
    rfl

/-- The table changes as the operation says. -/
theorem handle_tcp (e : Captured) (st : State) :
    (handle v l e st).2.tcp = (ttlOp v l e).elim st.tcp (st.tcp.apply cleanupInterval) := by
  unfold handle ttlOp
  cases e.packet with
  | tcp s =>
      dsimp only
      by_cases data : s.payload ≠ []
      · rw [if_pos data, if_pos data, handleTcpData_state]
        by_cases wanted : e.outbound ∧ fakesWanted v l e.behind s
        · rw [if_pos wanted, if_pos wanted, requested]
          split_ifs <;> rfl
        · rw [if_neg wanted, if_neg wanted, ite_self]
          rfl
      · rw [if_neg data, if_neg data, handleTcp_state]
        by_cases synAck : e.outbound = false ∧ s.syn ∧ s.ack
        · by_cases tracked : tracksTtl v = true
          · rw [if_pos ⟨synAck, tracked⟩, if_pos tracked, if_pos synAck]
            exact tcpHandleIncoming_apply e.now s st.tcp
          · rw [if_neg fun both => tracked both.2, if_neg tracked]
            rfl
        · rw [if_neg fun both => synAck both.1, if_neg synAck, ite_self]
          rfl
  | udp d =>
      dsimp only
      unfold handleUdp
      split_ifs <;> rfl
  | other bytes => rfl

theorem handle_ttl_request {e : Captured} {s : Segment} (request : Request v l e s) (st : State) :
    (handle v l e st).2.ttlOfFakePacket = nextTtl v
      (((st.tcp.cleanup cleanupInterval e.now).record s.connection).map Prod.snd)
      st.ttlOfFakePacket := by
  simp [handle, request.packet, request.data, handleTcpData_state, request.outbound,
    request.wanted, requested, request.tracked]

/-- Only a request changes the TTL. -/
theorem handle_ttl (e : Captured) (st : State) :
    (handle v l e st).2.ttlOfFakePacket = st.ttlOfFakePacket ∨ ∃ s, Request v l e s := by
  cases packet : e.packet with
  | tcp s =>
      by_cases data : s.payload ≠ []
      · by_cases wanted : e.outbound = true ∧ fakesWanted v l e.behind s = true
        · by_cases tracked : tracksTtl v = true
          · exact .inr ⟨s, packet, wanted.1, data, wanted.2, tracked⟩
          · simp [handle, packet, data, handleTcpData_state, wanted, requested, tracked]
        · simp [handle, packet, data, handleTcpData_state, wanted]
      · left
        simp only [handle, packet, if_neg data, handleTcp_state]
        split_ifs <;> rfl
  | udp d =>
      left
      simp only [handle, packet, handleUdp]
      split_ifs <;> rfl
  | other bytes => simp [handle, packet]

theorem stateAfter_tcp (events : List Captured) :
    (stateAfter v l events).tcp = Table.run cleanupInterval (events.filterMap (ttlOp v l)) := by
  induction events using List.reverseRecOn with
  | nil => rfl
  | append_singleton events e ih =>
      rw [stateAfter_snoc, handle_tcp, ih, List.filterMap_append]
      cases op : ttlOp v l e with
      | none => simp [op]
      | some op' =>
          rw [List.filterMap_cons_some op, List.filterMap_nil, Table.run_snoc]
          rfl

/-- Whatever is sent for a segment has the TTL of the segment or that of the fakes. -/
theorem ttl_of_passes {s p : Segment} {sent : List Segment × State} (passes : Passes s sent)
    (member : p ∈ sent.1) :
    p.ip.ttl = s.ip.ttl ∨ p.ip.ttl = UInt8.ofNat sent.2.ttlOfFakePacket := by
  obtain ⟨fakes, parts, payload, cut, faked, replaced⟩ := passes
  rw [cut, List.mem_append] at member
  obtain fake | part := member
  · cases faked p fake with
    | ttl data some => exact .inr rfl
    | checksum data => exact .inl rfl
    | seq data => exact .inl rfl
  · rw [(replaced.pieces p part).headers]
    exact .inl rfl

/-! ### Over a whole run -/

/-- What `--auto-ttl` makes of the TTL of a SYN+ACK. -/
def autoTtl (v : GoodbyeSettings) (syn : Segment) : Nat :=
  tcpGetAutoTtl syn.ip.ttl.toNat v.ttl.autoTtl1 v.ttl.autoTtl2 v.ttlMinNhops v.ttl.autoTtlMax

/-- In the automatic mode the TTL of the fakes fits the connection, if its SYN+ACK is young and
unused. -/
theorem ttl_of_synAck {before between : List Captured} {k e : Captured} {syn s : Segment}
    (auto : v.ttl.doAutoTtl = true) (synAck : SynAck v k syn) (request : Request v l e s)
    (same : syn.answered = s.connection)
    (free : ((stateAfter v l before).tcp.cleanup cleanupInterval k.now).record syn.answered = none)
    (first : ∀ other ∈ between, ∀ r, Request v l other r → r.connection ≠ s.connection)
    (soon : ∀ other ∈ between ++ [e], other.now - k.now < cleanupInterval) :
    ∃ sent : List Segment,
      (handle v l e (stateAfter v l (before ++ k :: between))).1 = sent.map .tcp ∧
      ∀ p ∈ sent, p.ip.ttl = s.ip.ttl ∨ p.ip.ttl = UInt8.ofNat (autoTtl v syn) := by
  rw [stateAfter_tcp] at free
  have untaken : ∀ other ∈ between, ∀ time,
      ttlOp v l other ≠ some (time, .take syn.answered) := by
    intro other member time taken
    obtain ⟨r, asked, key⟩ := request_of_ttlOp taken
    exact first other member r asked (key.trans same)
  have young : ∀ other ∈ between, ∀ time use, ttlOp v l other = some (time, use) →
      time - k.now < cleanupInterval := by
    intro other member time use used
    obtain rfl : time = other.now := time_of_ttlOp other _ used
    exact soon other (List.mem_append_left _ member)
  have there := Table.record_events_of (ttlOp_synAck synAck) free untaken young
  have kept := Table.cleanup_of_young there (soon e (by simp))
  have ttl : (handle v l e (stateAfter v l (before ++ k :: between))).2.ttlOfFakePacket =
      autoTtl v syn := by
    rw [handle_ttl_request request, stateAfter_tcp, ← same, kept]
    exact if_pos auto
  obtain ⟨sent, same, passes⟩ :=
    handle_passes (stateAfter v l (before ++ k :: between)) request.packet request.outbound
  refine ⟨sent, same, fun p member => ?_⟩
  rw [← ttl]
  exact ttl_of_passes passes member

/-- The TTL in the state is the one of the options or comes from a SYN+ACK. -/
theorem stateAfter_ttl (events : List Captured) :
    (stateAfter v l events).ttlOfFakePacket = v.ttl.ttlOfFakePacket ∨
      ∃ k ∈ events, ∃ syn, SynAck v k syn ∧
        (stateAfter v l events).ttlOfFakePacket = autoTtl v syn := by
  induction events using List.reverseRecOn with
  | nil => exact .inl rfl
  | append_singleton events e ih =>
      have earlier : (stateAfter v l (events ++ [e])).ttlOfFakePacket =
          (stateAfter v l events).ttlOfFakePacket →
          (stateAfter v l (events ++ [e])).ttlOfFakePacket = v.ttl.ttlOfFakePacket ∨
            ∃ k ∈ events ++ [e], ∃ syn, SynAck v k syn ∧
              (stateAfter v l (events ++ [e])).ttlOfFakePacket = autoTtl v syn := by
        intro kept
        rw [kept]
        obtain fixed | ⟨k, member, syn⟩ := ih
        · exact .inl fixed
        · exact .inr ⟨k, List.mem_append_left _ member, syn⟩
      rw [stateAfter_snoc] at earlier ⊢
      obtain kept | ⟨s, request⟩ := handle_ttl e (stateAfter v l events)
      · exact earlier kept
      · have next := handle_ttl_request request (stateAfter v l events)
        cases there : ((stateAfter v l events).tcp.cleanup cleanupInterval e.now).record
            s.connection with
        | none =>
            rw [there] at next
            exact earlier next
        | some r =>
            rw [there] at next
            by_cases auto : v.ttl.doAutoTtl = true
            · rw [stateAfter_tcp] at there
              obtain ⟨before, k, between, rfl, added, -, -⟩ :=
                Table.record_events (Table.record_of_cleanup there)
              obtain ⟨syn, synAck, -, ttl⟩ := synAck_of_ttlOp added
              refine .inr ⟨k, by simp, syn, synAck, next.trans ?_⟩
              rw [autoTtl, ttl]
              exact if_pos auto
            · exact earlier (next.trans (if_neg auto))

/-- No fake has a TTL that is not in the options or that of a server that answered before. -/
theorem ttl_origin {events : List Captured} {e : Captured} {s : Segment}
    (tcp : e.packet = .tcp s) (outbound : e.outbound = true) :
    ∃ sent : List Segment, (handle v l e (stateAfter v l events)).1 = sent.map .tcp ∧
      ∀ p ∈ sent, p.ip.ttl = s.ip.ttl ∨ p.ip.ttl = UInt8.ofNat v.ttl.ttlOfFakePacket ∨
        ∃ k ∈ events, ∃ syn, SynAck v k syn ∧ p.ip.ttl = UInt8.ofNat (autoTtl v syn) := by
  obtain ⟨sent, same, passes⟩ := handle_passes (stateAfter v l events) tcp outbound
  refine ⟨sent, same, fun p member => ?_⟩
  obtain own | fake := ttl_of_passes passes member
  · exact .inl own
  · rw [fake, ← stateAfter_snoc]
    obtain fixed | ⟨k, before, syn, synAck, ttl⟩ := @stateAfter_ttl v l (events ++ [e])
    · exact .inr (.inl (congrArg UInt8.ofNat fixed))
    · refine .inr (.inr ⟨k, ?_, syn, synAck, congrArg UInt8.ofNat ttl⟩)
      obtain earlier | last := List.mem_append.mp before
      · exact earlier
      · rw [List.mem_singleton.mp last] at synAck
        have inbound := synAck.inbound
        rw [outbound] at inbound
        cases inbound

section OneConnection

/-- A SYN+ACK from ten hops away, and a ClientHello one second later. -/
def synAckOnce : Segment :=
  ⟨⟨false, 9, 1, 54, 40, 0⟩, 443, 5000, 7, 100, true, true, 64, 40, [], .received⟩

def helloOnce : Segment :=
  ⟨⟨false, 1, 9, 128, 63, 0⟩, 5000, 443, 100, 8, false, true, 64, 40,
    0x16 :: 3 :: 1 :: List.replicate 20 0, .received⟩

def automatic : GoodbyeSettings :=
  { GoodbyeSettings.initial with
    flags := {.doFakePacket}
    ttlMinNhops := 3
    ttl := ⟨true, 0, 1, 4, 10⟩ }

theorem ttl_of_synAck_once :
    autoTtl automatic synAckOnce = 6 ∧ ∃ sent : List Segment,
      (handle automatic ⟨[], []⟩ ⟨101, true, .tcp helloOnce, 0⟩
        (stateAfter automatic ⟨[], []⟩ ([] ++ ⟨100, false, .tcp synAckOnce, 0⟩ :: []))).1 =
          sent.map .tcp ∧
      ∀ p ∈ sent, p.ip.ttl = 128 ∨ p.ip.ttl = 6 := by
  have ten : autoTtl automatic synAckOnce = 6 := by decide
  have fakes := @ttl_of_synAck automatic ⟨[], []⟩ [] [] ⟨100, false, .tcp synAckOnce, 0⟩
    ⟨101, true, .tcp helloOnce, 0⟩ synAckOnce helloOnce rfl
    ⟨rfl, rfl, by decide, by decide, by decide⟩ ⟨rfl, rfl, by decide, by decide, by decide⟩ rfl rfl
    (by simp) (by decide)
  rw [ten] at fakes
  exact ⟨ten, fakes⟩

theorem ttl_origin_once :
    ∃ sent : List Segment, (handle automatic ⟨[], []⟩ ⟨101, true, .tcp helloOnce, 0⟩
        (stateAfter automatic ⟨[], []⟩ [⟨100, false, .tcp synAckOnce, 0⟩])).1 = sent.map .tcp ∧
      ∀ p ∈ sent, p.ip.ttl = 128 ∨ p.ip.ttl = 0 ∨
        ∃ k ∈ [⟨100, false, .tcp synAckOnce, 0⟩], ∃ syn, SynAck automatic k syn ∧
          p.ip.ttl = UInt8.ofNat (autoTtl automatic syn) :=
  @ttl_origin automatic ⟨[], []⟩ [⟨100, false, .tcp synAckOnce, 0⟩] ⟨101, true, .tcp helloOnce, 0⟩
    helloOnce rfl rfl

end OneConnection

end ZonDpi.Goodbye
