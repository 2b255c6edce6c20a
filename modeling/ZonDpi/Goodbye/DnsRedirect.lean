import ZonDpi.Goodbye.Loop

/-!
DNS under GoodbyeDPI: a redirected query and its answer.

The client asks one server, another one is asked, and the answer must look as if it came from
the first. Over any sequence of packets an answer that reaches the client bears the address of
the server in a query that was redirected for the same client port, less than a minute ago and
without an answer since (`dns_origin`). The other way round the first answer within half a
minute always gets there (`dns_answer`).
-/

namespace ZonDpi.Goodbye

open Expiring ZonDpi.Engine

variable {v : GoodbyeSettings} {l : Loaded}

/-! ### Queries and responses -/

/-- A packet that is handled as a DNS query. -/
structure Query (v : GoodbyeSettings) (e : Captured) (d : Datagram) : Prop where
  packet : e.packet = .udp d
  outbound : e.outbound = true
  redirected : redirects v d.ip.v6 = true
  dns : dnsIsDnsPacket d.payload true = true
  ports : d.srcPort ≠ 0 ∧ d.dstPort ≠ 0

/-- A packet that is handled as a DNS response. -/
structure Response (v : GoodbyeSettings) (e : Captured) (d : Datagram) : Prop where
  packet : e.packet = .udp d
  inbound : e.outbound = false
  redirected : redirects v d.ip.v6 = true
  dns : dnsIsDnsPacket d.payload false = true

/-- What a packet does to the table. -/
def dnsOp (v : GoodbyeSettings) (e : Captured) : Option (ℤ × Op Endpoint Endpoint) :=
  match e.packet with
  | .udp d =>
    if redirects v d.ip.v6 ∧ 16 ≤ d.payload.length then
      some (e.now,
        if e.outbound then
          if dnsIsDnsPacket d.payload true ∧ d.srcPort ≠ 0 ∧ d.dstPort ≠ 0 then
            .add (d.ip.source d.srcPort) (d.ip.destination d.dstPort)
          else .idle
        else if dnsIsDnsPacket d.payload false then .take (d.ip.destination d.dstPort)
        else .idle)
    else none
  | _ => none

theorem length_of_dns {payload : List UInt8} {outgoing : Bool}
    (dns : dnsIsDnsPacket payload outgoing = true) : 16 ≤ payload.length := by
  unfold dnsIsDnsPacket at dns
  by_contra short
  rw [if_pos (by omega)] at dns
  cases dns

theorem ne_nil_of_long {payload : List UInt8} (long : 16 ≤ payload.length) : payload ≠ [] := by
  rintro rfl
  cases long

theorem dnsOp_query {e : Captured} {d : Datagram} (query : Query v e d) :
    dnsOp v e = some (e.now, .add (d.ip.source d.srcPort) (d.ip.destination d.dstPort)) := by
  simp [dnsOp, query.packet, query.outbound, query.redirected, query.dns, query.ports,
    length_of_dns query.dns]

theorem dnsOp_response {e : Captured} {d : Datagram} (response : Response v e d) :
    dnsOp v e = some (e.now, .take (d.ip.destination d.dstPort)) := by
  simp [dnsOp, response.packet, response.inbound, response.redirected, response.dns,
    length_of_dns response.dns]

theorem dnsHandleOutgoing_table {now : ℤ} {src dst : Endpoint} {payload : List UInt8}
    {t : DnsTable} (long : 16 ≤ payload.length) :
    (dnsHandleOutgoing now src dst payload t).2 = t.apply cleanupInterval (now,
      if dnsIsDnsPacket payload true ∧ src.port ≠ 0 ∧ dst.port ≠ 0 then .add src dst
      else .idle) := by
  unfold dnsHandleOutgoing
  rw [if_neg (by omega)]
  dsimp only
  split_ifs
  · cases added : (t.cleanup cleanupInterval now).add now src dst <;> simp [Table.apply, added]
  · rfl

theorem dnsHandleIncoming_table {now : ℤ} {dst : Endpoint} {payload : List UInt8} {t : DnsTable}
    (long : 16 ≤ payload.length) :
    (dnsHandleIncoming now dst payload t).2 = t.apply cleanupInterval (now,
      if dnsIsDnsPacket payload false then .take dst else .idle) := by
  unfold dnsHandleIncoming
  rw [if_neg (by omega)]
  dsimp only
  split_ifs
  · rfl
  · rfl

/-- Only datagrams touch the table. -/
theorem handleTcp_dns (now : ℤ) (outbound : Bool) (s : Segment) (st : State) :
    (handleTcp v now outbound s st).2.dns = st.dns := by
  unfold handleTcp
  split_ifs <;> rfl

theorem fakesFor_dns (isHttps : Bool) (now : ℤ) (s : Segment) (st : State) :
    (fakesFor v l isHttps now s st).2.dns = st.dns := by
  unfold fakesFor
  split_ifs <;> rfl

theorem handleTcpData_dns (now : ℤ) (outbound : Bool) (behind : UInt8) (s : Segment) (st : State) :
    (handleTcpData v l now outbound behind s st).2.dns = st.dns := by
  unfold handleTcpData handleHttps handleHttp
  split_ifs
  · exact fakesFor_dns true now s st
  · rfl
  · split
    · split_ifs
      · exact fakesFor_dns false now s st
      · rfl
    · rfl
  · rfl
  · rfl
  · rfl

theorem handleUdp_dns (now : ℤ) (outbound : Bool) (d : Datagram) (st : State) :
    (handleUdp v now outbound d st).2.dns =
      if d.payload ≠ [] ∧ redirects v d.ip.v6 then
        if outbound then (dnsHandleOutgoing now (d.ip.source d.srcPort)
          (d.ip.destination d.dstPort) d.payload st.dns).2
        else (dnsHandleIncoming now (d.ip.destination d.dstPort) d.payload st.dns).2
      else st.dns := by
  unfold handleUdp
  by_cases handled : d.payload ≠ [] ∧ redirects v d.ip.v6
  · rw [if_pos handled, if_pos handled]
    cases outbound <;> rfl
  · rw [if_neg handled, if_neg handled]

/-- The table changes as the operation says. -/
theorem handle_dns (e : Captured) (st : State) :
    (handle v l e st).2.dns = (dnsOp v e).elim st.dns (st.dns.apply cleanupInterval) := by
  unfold handle dnsOp
  cases e.packet with
  | tcp s =>
      dsimp only
      split_ifs
      · exact handleTcpData_dns _ _ _ s st
      · exact handleTcp_dns _ _ s st
  | udp d =>
      dsimp only
      rw [handleUdp_dns]
      by_cases counted : redirects v d.ip.v6 = true ∧ 16 ≤ d.payload.length
      · have handled : d.payload ≠ [] ∧ redirects v d.ip.v6 = true :=
          ⟨ne_nil_of_long counted.2, counted.1⟩
        rw [if_pos handled, if_pos counted, dnsHandleOutgoing_table counted.2,
          dnsHandleIncoming_table counted.2]
        cases e.outbound <;> rfl
      · rw [if_neg counted]
        split_ifs with handled outbound
        · have short : ¬ 16 ≤ d.payload.length := fun long => counted ⟨handled.2, long⟩
          rw [dnsHandleOutgoing, if_pos (by omega)]
          rfl
        · have short : ¬ 16 ≤ d.payload.length := fun long => counted ⟨handled.2, long⟩
          rw [dnsHandleIncoming, if_pos (by omega)]
          rfl
        · rfl
  | other bytes => rfl

theorem stateAfter_dns (events : List Captured) :
    (stateAfter v l events).dns = Table.run cleanupInterval (events.filterMap (dnsOp v)) := by
  induction events using List.reverseRecOn with
  | nil => rfl
  | append_singleton events e ih =>
      rw [stateAfter_snoc, handle_dns, ih, List.filterMap_append]
      cases op : dnsOp v e with
      | none => simp [op]
      | some op' =>
          rw [List.filterMap_cons_some op, List.filterMap_nil, Table.run_snoc]
          rfl

/-! ### What becomes of queries and responses -/

/-- A query is redirected if none is pending from the same address, and dropped otherwise. It never
leaves for the server that the client asked. -/
theorem handle_query {e : Captured} {d : Datagram} (query : Query v e d) (st : State) :
    (handle v l e st).1 =
      if ((st.dns.cleanup cleanupInterval e.now).record (d.ip.source d.srcPort)).isSome then []
      else [.udp (d.sentTo (dnsServer v d.ip.v6))] := by
  have long := length_of_dns query.dns
  have tracked : (dnsHandleOutgoing e.now (d.ip.source d.srcPort) (d.ip.destination d.dstPort)
      d.payload st.dns).1 = !((st.dns.cleanup cleanupInterval e.now).record
        (d.ip.source d.srcPort)).isSome := by
    have looked : dnsIsDnsPacket d.payload true = true ∧ (d.ip.source d.srcPort).port ≠ 0 ∧
        (d.ip.destination d.dstPort).port ≠ 0 := ⟨query.dns, query.ports⟩
    rw [dnsHandleOutgoing, if_neg (by omega)]
    dsimp only
    rw [if_pos looked, Table.add]
    split_ifs with pending <;> simp [pending]
  unfold handle
  rw [query.packet, query.outbound]
  dsimp only
  rw [handleUdp, if_pos ⟨ne_nil_of_long long, query.redirected⟩, if_pos rfl]
  dsimp only
  rw [tracked, query.dns]
  cases ((st.dns.cleanup cleanupInterval e.now).record (d.ip.source d.srcPort)).isSome <;> rfl

/-- A response is delivered if the table says where it seems to come from. -/
theorem handle_response {e : Captured} {d : Datagram} (response : Response v e d) (st : State) :
    (handle v l e st).1 =
      match (st.dns.cleanup cleanupInterval e.now).record (d.ip.destination d.dstPort) with
      | some asked => [.udp (d.sentFrom asked.2)]
      | none => [] := by
  have long := length_of_dns response.dns
  unfold handle
  rw [response.packet, response.inbound]
  dsimp only
  rw [handleUdp, if_pos ⟨ne_nil_of_long long, response.redirected⟩, if_neg (by simp)]
  dsimp only
  rw [dnsHandleIncoming, if_neg (show ¬ d.payload.length < 16 by omega)]
  dsimp only
  rw [if_pos response.dns, Table.take, response.dns]
  cases (st.dns.cleanup cleanupInterval e.now).record (d.ip.destination d.dstPort) <;> rfl

/-! ### Over a whole run -/

theorem time_of_dnsOp (e : Captured) (use : ℤ × Op Endpoint Endpoint)
    (used : dnsOp v e = some use) : use.1 = e.now := by
  unfold dnsOp at used
  split at used
  · split_ifs at used <;> (cases used; rfl)
  · cases used

theorem query_of_dnsOp {e : Captured} {now : ℤ} {src dst : Endpoint}
    (used : dnsOp v e = some (now, .add src dst)) :
    ∃ d, Query v e d ∧ d.ip.source d.srcPort = src ∧ d.ip.destination d.dstPort = dst := by
  unfold dnsOp at used
  split at used
  · rename_i d packet
    split_ifs at used with handled outbound query response
    · cases used
      exact ⟨d, ⟨packet, outbound, handled.1, query.1, query.2⟩, rfl, rfl⟩
    · cases used
    · cases used
    · cases used
  · cases used

theorem response_of_dnsOp {e : Captured} {now : ℤ} {dst : Endpoint}
    (used : dnsOp v e = some (now, .take dst)) :
    ∃ d, Response v e d ∧ d.ip.destination d.dstPort = dst := by
  unfold dnsOp at used
  split at used
  · rename_i d packet
    split_ifs at used with handled outbound query response
    · cases used
    · cases used
    · cases used
      exact ⟨d, ⟨packet, by simpa using outbound, handled.1, response⟩, rfl⟩
    · cases used
  · cases used

/-- An answer that reaches the client seems to come from the server that the client asked. -/
theorem dns_origin {events : List Captured} {a : Captured} {answer : Datagram}
    (response : Response v a answer) (passed : (handle v l a (stateAfter v l events)).1 ≠ []) :
    ∃ before q asked between, events = before ++ q :: between ∧ Query v q asked ∧
      asked.ip.source asked.srcPort = answer.ip.destination answer.dstPort ∧
      (handle v l q (stateAfter v l before)).1 = [.udp (asked.sentTo (dnsServer v asked.ip.v6))] ∧
      (∀ e ∈ between, ∀ d, Response v e d →
        d.ip.destination d.dstPort ≠ answer.ip.destination answer.dstPort) ∧
      (handle v l a (stateAfter v l events)).1 =
        [.udp (answer.sentFrom (asked.ip.destination asked.dstPort))] ∧
      (Table.Clocked ((events ++ [a]).map Captured.now) → a.now - q.now < 2 * cleanupInterval) := by
  rw [handle_response response, stateAfter_dns] at passed ⊢
  cases there : ((Table.run cleanupInterval (events.filterMap (dnsOp v))).cleanup cleanupInterval
      a.now).record (answer.ip.destination answer.dstPort) with
  | none =>
      rw [there] at passed
      exact absurd rfl passed
  | some asked =>
      obtain ⟨time, server⟩ := asked
      obtain ⟨before, q, between, rfl, added, free, untaken⟩ :=
        Table.record_events (Table.record_of_cleanup there)
      obtain ⟨asked, query, source, rfl⟩ := query_of_dnsOp added
      obtain rfl : time = q.now := time_of_dnsOp q _ added
      refine ⟨before, q, asked, between, rfl, query, source, ?_, ?_, rfl, ?_⟩
      · rw [handle_query query, stateAfter_dns, source, free]
        rfl
      · intro e member d other same
        exact untaken e member e.now (same ▸ dnsOp_response other)
      · intro clocked
        rw [List.map_append] at clocked
        exact Table.events_age_lt time_of_dnsOp (by decide) clocked there

/-- The first answer within the interval is delivered. -/
theorem dns_answer {before between : List Captured} {q a : Captured} {asked answer : Datagram}
    (query : Query v q asked) (response : Response v a answer)
    (same : answer.ip.destination answer.dstPort = asked.ip.source asked.srcPort)
    (redirected : (handle v l q (stateAfter v l before)).1 ≠ [])
    (first : ∀ e ∈ between, ∀ d, Response v e d →
      d.ip.destination d.dstPort ≠ asked.ip.source asked.srcPort)
    (soon : ∀ e ∈ between ++ [a], e.now - q.now < cleanupInterval) :
    (handle v l a (stateAfter v l (before ++ q :: between))).1 =
      [.udp (answer.sentFrom (asked.ip.destination asked.dstPort))] := by
  rw [handle_query query, stateAfter_dns] at redirected
  have free : ((Table.run cleanupInterval (before.filterMap (dnsOp v))).cleanup cleanupInterval
      q.now).record (asked.ip.source asked.srcPort) = none := by
    split_ifs at redirected with pending
    · exact absurd rfl redirected
    · simpa using pending
  have untaken : ∀ e ∈ between, ∀ time,
      dnsOp v e ≠ some (time, .take (asked.ip.source asked.srcPort)) := by
    intro e member time taken
    obtain ⟨d, other, key⟩ := response_of_dnsOp taken
    exact first e member d other key
  have young : ∀ e ∈ between, ∀ time use, dnsOp v e = some (time, use) →
      time - q.now < cleanupInterval := by
    intro e member time use used
    obtain rfl : time = e.now := time_of_dnsOp e _ used
    exact soon e (List.mem_append_left _ member)
  have there := Table.record_events_of (dnsOp_query query) free untaken young
  rw [handle_response response, stateAfter_dns, same,
    Table.cleanup_of_young there (soon a (by simp))]

section OneQuery

/-- A query from port 5000 to port 53 of address 9, one second before its answer from port 1253 of
address 77. -/
def askedOnce : Datagram :=
  ⟨⟨false, 1, 9, 128, 44, 0⟩, 5000, 53, List.replicate 16 0, .received⟩

def answeredOnce : Datagram :=
  ⟨⟨false, 77, 1, 60, 44, 0⟩, 1253, 5000, [0, 0, 0x80] ++ List.replicate 13 0, .received⟩

def redirecting : GoodbyeSettings :=
  { GoodbyeSettings.initial with dns := ⟨true, 77, 1253, false, 0, 53, ∅⟩ }

theorem dns_origin_once :
    (handle redirecting ⟨[], []⟩ ⟨101, false, .udp answeredOnce, 0⟩
        (stateAfter redirecting ⟨[], []⟩ [⟨100, true, .udp askedOnce, 0⟩])).1 ≠ [] ∧
      ∃ before q asked between,
        [⟨100, true, .udp askedOnce, 0⟩] = before ++ q :: between ∧ Query redirecting q asked ∧
        (Table.Clocked [100, 101] → 101 - q.now < 2 * cleanupInterval) := by
  have passed : (handle redirecting ⟨[], []⟩ ⟨101, false, .udp answeredOnce, 0⟩
      (stateAfter redirecting ⟨[], []⟩ [⟨100, true, .udp askedOnce, 0⟩])).1 ≠ [] := by decide
  obtain ⟨before, q, asked, between, cut, query, -, -, -, -, age⟩ :=
    dns_origin ⟨rfl, rfl, rfl, by decide⟩ passed
  exact ⟨passed, before, q, asked, between, cut, query, age⟩

theorem dns_answer_once :
    (handle redirecting ⟨[], []⟩ ⟨101, false, .udp answeredOnce, 0⟩
        (stateAfter redirecting ⟨[], []⟩ ([] ++ ⟨100, true, .udp askedOnce, 0⟩ :: []))).1 =
      [.udp (answeredOnce.sentFrom ⟨false, 9, 53⟩)] :=
  @dns_answer redirecting ⟨[], []⟩ [] [] ⟨100, true, .udp askedOnce, 0⟩
    ⟨101, false, .udp answeredOnce, 0⟩ askedOnce answeredOnce
    ⟨rfl, rfl, rfl, by decide, by decide⟩ ⟨rfl, rfl, rfl, by decide⟩ rfl (by decide) (by simp)
    (by decide)

end OneQuery

end ZonDpi.Goodbye
