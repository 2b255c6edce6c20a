import ZonDpi.Goodbye.Packet

/-!
The loop of GoodbyeDPI (`main` in `goodbyedpi.c`): what is sent for every packet that the driver
hands over.

A packet is taken out of the traffic, and what is not sent again is lost. `handle` is the body
of the loop. Its state are the two tables and the TTL of fake requests, which in the automatic
mode the last tracked connection sets for all. `stateAfter` is the state behind any sequence of
packets.
-/

namespace ZonDpi.Goodbye

open ByteText ZonDpi.Engine

/-! ### The state of the loop -/

structure State where
  dns : DnsTable
  tcp : TtlTable
  ttlOfFakePacket : Nat

/-- A packet from `WinDivertRecv`, with the time and the byte that stands behind it in the
buffer. -/
structure Captured where
  now : ℤ
  outbound : Bool
  packet : Packet
  behind : UInt8

/-- What has been loaded for the options: the list of hosts and the fake requests. -/
structure Loaded where
  hosts : List (List UInt8)
  fakes : List (List UInt8)

variable (v : GoodbyeSettings) (l : Loaded)

def initial : State := ⟨.empty, .empty, v.ttl.ttlOfFakePacket⟩

/-! ### Recognition -/

/-- `is_passivedpi_redirect` -/
def isPassivedpiRedirect (payload : List UInt8) : Bool :=
  (ascii "HTTP/1.1 302 " <+: payload ∨ ascii "HTTP/1.0 302 " <+: payload) ∧
    (find (crlf ++ ascii "Location: http://") payload).isSome ∧
    (find (crlf ++ ascii "Connection: close") payload).isSome

/-- The first bytes of a TLS handshake; a window of two bytes lets only two of them through. -/
def isClientHello (payload : List UInt8) : Bool :=
  payload = [0x16, 3] ∨ [0x16, 3, 1] <+: payload ∨ [0x16, 3, 3] <+: payload

/-- The name in a ClientHello, which is looked for only if an option needs it. -/
def sniOf (payload : List UInt8) (behind : UInt8) : Option (Nat × Nat) :=
  if .doBlacklist ∈ v.flags ∨ .doFragmentBySni ∈ v.flags then extractSni payload behind else none

/-- Whether the options apply to a connection with this name. -/
def sniWanted (payload : List UInt8) (behind : UInt8) : Bool :=
  if .doBlacklist ∈ v.flags then
    match sniOf v payload behind with
    | some (place, length) =>
      checkHostname l.hosts (((payload ++ [behind]).drop place).take length)
    | none => .doAllowNoSni ∈ v.flags
  else true

def hostWanted (payload : List UInt8) (host : Header) : Bool :=
  if .doBlacklist ∈ v.flags then
    checkHostname l.hosts ((payload.drop host.valueAt).take host.valueLen)
  else true

/-! ### TCP segments with data -/

/-- `TCP_HANDLE_OUTGOING_TTL_PARSE_PACKET_IF`, where an option needs it. -/
def knownTtl (now : ℤ) (s : Segment) (st : State) : Option Nat × TtlTable :=
  if v.ttl.doAutoTtl ∨ v.ttlMinNhops ≠ 0 then tcpHandleOutgoing now s.connection st.tcp
  else (none, st.tcp)

/-- `ttl_of_fake_packet` after a record has been looked up. -/
def nextTtl (known : Option Nat) (ttlOfFakePacket : Nat) : Nat :=
  match known with
  | some ttl =>
    if v.ttl.doAutoTtl then
      tcpGetAutoTtl ttl v.ttl.autoTtl1 v.ttl.autoTtl2 v.ttlMinNhops v.ttl.autoTtlMax
    else ttlOfFakePacket
  | none => ttlOfFakePacket

/-- With a fixed TTL and a minimal distance, servers that are too near get no fakes. -/
def shouldSendFake (known : Option Nat) : Bool :=
  match known with
  | some ttl => v.ttl.doAutoTtl ∨ tcpGetAutoTtl ttl 0 0 v.ttlMinNhops 0 ≠ 0
  | none => true

/-- `TCP_HANDLE_OUTGOING_FAKE_PACKET` -/
def handleOutgoingFakePacket (isHttps : Bool) (now : ℤ) (s : Segment) (st : State) :
    List Segment × State :=
  let known := knownTtl v now s st
  let ttl := nextTtl v known.1 st.ttlOfFakePacket
  (if shouldSendFake v known.1 then
      sendFakes l.fakes v.lists.fakesResend s isHttps ttl (.doWrongChksum ∈ v.flags)
        (.doWrongSeq ∈ v.flags)
    else [],
    { st with tcp := known.2, ttlOfFakePacket := ttl })

/-- The fakes for a request, if there are to be any. -/
def fakesFor (isHttps : Bool) (now : ℤ) (s : Segment) (st : State) : List Segment × State :=
  if .doFakePacket ∈ v.flags then handleOutgoingFakePacket v l isHttps now s st else ([], st)

/-- `current_fragment_size`, or zero where the segment is not cut. -/
def fragmentSize (s : Segment) (recalc : Bool) (sni : Option (Nat × Nat)) : Nat :=
  if recalc ∧ .doNativeFrag ∈ v.flags then
    if .doFragmentHttp ∈ v.flags ∧ s.dstPort = 80 then v.httpFragmentSize
    else if .doFragmentHttps ∈ v.flags ∧ s.dstPort ≠ 80 then
      match sni with
      | some (place, _) => if .doFragmentBySni ∈ v.flags then place else v.httpsFragmentSize
      | none => v.httpsFragmentSize
    else 0
  else 0

/-- The end of the loop's body: the segment in fragments, or whole. -/
def reinject (s : Segment) (recalc : Bool) (sni : Option (Nat × Nat)) : List Segment :=
  if fragmentSize v s recalc sni ≠ 0 then
    nativeFragments (.doReverseFrag ∈ v.flags) s (fragmentSize v s recalc sni)
  else [if recalc then { s with checksum := .calculated } else s]

/-- `should_recalc_checksum` after the changes to a request. -/
def hostRecalc (host : Header) (payload : List UInt8) : Bool :=
  let httpFrag := if .doFragmentHttp ∈ v.flags then v.httpFragmentSize else 0
  .doNativeFrag ∈ v.flags ∨ .doHostMixedcase ∈ v.flags ∨ .doHost ∈ v.flags ∨
    (.doAdditionalSpace ∈ v.flags ∧ .doHostRemovespace ∈ v.flags ∧
      (findHttpMethodEnd (recase v host payload) httpFrag).isSome) ∨
    (.doAdditionalSpace ∉ v.flags ∧ .doHostRemovespace ∈ v.flags ∧
      (findHeaderAndGetInfo (recase v host payload) httpUseragentFind).isSome)

/-- The conditions before the search for a TLS handshake. -/
def httpsCandidate (s : Segment) : Bool :=
  ((.doFragmentHttps ∈ v.flags ∧ s.payload.length = v.httpsFragmentSize) ∨
      s.payload.length > 16) ∧
    s.dstPort ≠ 80 ∧ (.doFakePacket ∈ v.flags ∨ .doNativeFrag ∈ v.flags)

/-- The conditions before the search for a `Host` header. -/
def httpCandidate (s : Segment) : Bool :=
  let httpFrag := if .doFragmentHttp ∈ v.flags then v.httpFragmentSize else 0
  s.payload.length > 16 ∧ (.doHttpAllports ∈ v.flags ∨ s.dstPort = 80) ∧
    (findHttpMethodEnd s.payload httpFrag).isSome ∧
    (.doHost ∈ v.flags ∨ .doHostRemovespace ∈ v.flags ∨ .doHostMixedcase ∈ v.flags ∨
      .doFragmentHttpPersistent ∈ v.flags ∨ .doFakePacket ∈ v.flags)

/-- A segment with a TLS handshake. -/
def handleHttps (now : ℤ) (behind : UInt8) (s : Segment) (st : State) : List Segment × State :=
  if isClientHello s.payload ∧ sniWanted v l s.payload behind then
    let sent := fakesFor v l true now s st
    (sent.1 ++ reinject v s (.doNativeFrag ∈ v.flags) (sniOf v s.payload behind), sent.2)
  else ([s], st)

/-- A segment with an HTTP request. -/
def handleHttp (now : ℤ) (s : Segment) (st : State) : List Segment × State :=
  match findHeaderAndGetInfo s.payload httpHostFind with
  | some host =>
    if hostWanted v l s.payload host then
      let sent := fakesFor v l false now s st
      let edited := { s with payload := editHost v host s.payload }
      (sent.1 ++ reinject v edited (hostRecalc v host s.payload) none, sent.2)
    else ([s], st)
  | none => ([s], st)

/-- A redirect of the kind that passive equipment sends. -/
def dropsRedirect (s : Segment) : Bool :=
  s.payload.length > 16 ∧ .doPassivedpi ∈ v.flags ∧ isPassivedpiRedirect s.payload ∧
    (s.ip.v6 = false ∨ s.ip.flowLabel = 0)

def handleTcpData (now : ℤ) (outbound : Bool) (behind : UInt8) (s : Segment) (st : State) :
    List Segment × State :=
  if outbound then
    if httpsCandidate v s then handleHttps v l now behind s st
    else if httpCandidate v s then handleHttp v l now s st
    else ([s], st)
  else if dropsRedirect v s then ([], st)
  else ([s], st)

/-! ### TCP segments without data -/

/-- `change_window_size`, with the checksums that follow. -/
def changeWindowSize (s : Segment) (size : Nat) : Segment :=
  { s with
    window := if 1 ≤ size ∧ size ≤ 0xFFFF then UInt16.ofNat size else s.window
    checksum := .calculated }

/-- Whether the TTL of a SYN+ACK is recorded. -/
def tracksTtl : Bool :=
  .doFakePacket ∈ v.flags ∧ (v.ttl.doAutoTtl ∨ v.ttlMinNhops ≠ 0)

def handleTcp (now : ℤ) (outbound : Bool) (s : Segment) (st : State) : List Segment × State :=
  if outbound = false ∧ s.syn ∧ s.ack then
    let st := if tracksTtl v then
        { st with tcp := tcpHandleIncoming now s.answered s.ip.ttl.toNat st.tcp }
      else st
    if .doNativeFrag ∈ v.flags then ([s], st)
    else if .doFragmentHttp ∈ v.flags ∧ s.srcPort = 80 then
      ([changeWindowSize s v.httpFragmentSize], st)
    else if .doFragmentHttps ∈ v.flags ∧ s.srcPort ≠ 80 then
      ([changeWindowSize s v.httpsFragmentSize], st)
    else ([s], st)
  else ([s], st)

/-! ### UDP datagrams -/

/-- Whether DNS is redirected for this version of IP. -/
def redirects (v6 : Bool) : Bool :=
  if v6 then v.dns.doDnsv6Redirect else v.dns.doDnsv4Redirect

/-- The server that queries are sent to. -/
def dnsServer (v6 : Bool) : Endpoint :=
  if v6 then ⟨true, v.dns.dnsv6Addr, v.dns.dnsv6Port⟩ else ⟨false, v.dns.dnsv4Addr, v.dns.dnsv4Port⟩

def Datagram.sentTo (d : Datagram) (server : Endpoint) : Datagram :=
  { d with ip := { d.ip with dst := server.ip }, dstPort := server.port, checksum := .calculated }

def Datagram.sentFrom (d : Datagram) (server : Endpoint) : Datagram :=
  { d with ip := { d.ip with src := server.ip }, srcPort := server.port, checksum := .calculated }

def handleUdp (now : ℤ) (outbound : Bool) (d : Datagram) (st : State) : List Datagram × State :=
  if d.payload ≠ [] ∧ redirects v d.ip.v6 then
    if outbound then
      let tracked := dnsHandleOutgoing now (d.ip.source d.srcPort) (d.ip.destination d.dstPort)
        d.payload st.dns
      (if tracked.1 then [d.sentTo (dnsServer v d.ip.v6)]
        else if dnsIsDnsPacket d.payload true then []
        else [d],
        { st with dns := tracked.2 })
    else
      let tracked := dnsHandleIncoming now (d.ip.destination d.dstPort) d.payload st.dns
      (match tracked.1 with
        | some server => [d.sentFrom server]
        | none => if dnsIsDnsPacket d.payload false then [] else [d],
        { st with dns := tracked.2 })
  else ([d], st)

/-! ### The loop -/

/-- What is sent for one packet, and the state afterwards. -/
def handle (e : Captured) (st : State) : List Packet × State :=
  match e.packet with
  | .tcp s =>
    let sent := if s.payload ≠ [] then handleTcpData v l e.now e.outbound e.behind s st
      else handleTcp v e.now e.outbound s st
    (sent.1.map .tcp, sent.2)
  | .udp d =>
    let sent := handleUdp v e.now e.outbound d st
    (sent.1.map .udp, sent.2)
  | .other bytes => ([.other bytes], st)

def stateAfter (events : List Captured) : State :=
  events.foldl (fun st e => (handle v l e st).2) (initial v)

theorem stateAfter_snoc (events : List Captured) (e : Captured) :
    stateAfter v l (events ++ [e]) = (handle v l e (stateAfter v l events)).2 := by
  rw [stateAfter, List.foldl_append]
  rfl

end ZonDpi.Goodbye
