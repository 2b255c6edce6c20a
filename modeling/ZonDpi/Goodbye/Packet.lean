import ZonDpi.Goodbye.Conntrack

/-!
Packets as GoodbyeDPI sends them: native fragments (`goodbyedpi.c`) and fake requests
(`fakepackets.c`).

A TCP segment is what the driver's parser finds in a packet. Bytes are compared together with
their sequence numbers (`Segment.cells`): the fragments of a segment carry the same bytes at the
same places, in whatever order they are sent (`cells_nativeFragments`). A fake request differs
from its model in exactly one way that keeps the server from taking it for data (`Fake`).
-/

namespace ZonDpi.Goodbye

open ByteText ZonDpi.Engine

/-! ### Packets -/

structure Ip where
  v6 : Bool
  src : Nat
  dst : Nat
  /-- `TTL` or `HopLimit` -/
  ttl : UInt8
  /-- The length field, which with IPv6 does not count the IP header. -/
  length : UInt16
  /-- Only with IPv6. -/
  flowLabel : Nat
deriving DecidableEq, Repr

/-- What the checksums of a packet are. -/
inductive Checksum where
  | received
  | calculated
  | damaged
deriving DecidableEq, Repr

structure Segment where
  ip : Ip
  srcPort : Nat
  dstPort : Nat
  seqNum : UInt32
  ackNum : UInt32
  syn : Bool
  ack : Bool
  window : UInt16
  /-- The bytes before the payload. -/
  headerLen : Nat
  payload : List UInt8
  checksum : Checksum
deriving DecidableEq, Repr

structure Datagram where
  ip : Ip
  srcPort : Nat
  dstPort : Nat
  payload : List UInt8
  checksum : Checksum
deriving DecidableEq, Repr

inductive Packet where
  | tcp (s : Segment)
  | udp (d : Datagram)
  /-- nothing that the engine knows -/
  | other (bytes : List UInt8)
deriving DecidableEq, Repr

def Ip.source (ip : Ip) (port : Nat) : Endpoint := ⟨ip.v6, ip.src, port⟩

def Ip.destination (ip : Ip) (port : Nat) : Endpoint := ⟨ip.v6, ip.dst, port⟩

/-- The connection of a segment to the server. -/
def Segment.connection (s : Segment) : Connection :=
  ⟨s.ip.destination s.dstPort, s.ip.source s.srcPort⟩

/-- The connection of a segment from the server. -/
def Segment.answered (s : Segment) : Connection :=
  ⟨s.ip.source s.srcPort, s.ip.destination s.dstPort⟩

/-! ### Native fragments -/

/-- `send_native_fragment` with step 0. -/
def Segment.first (s : Segment) (size : Nat) : Segment :=
  { s with
    ip := { s.ip with
      length := s.ip.length - UInt16.ofNat s.payload.length + UInt16.ofNat size }
    payload := s.payload.take size
    checksum := .calculated }

/-- `send_native_fragment` with step 1. -/
def Segment.second (s : Segment) (size : Nat) : Segment :=
  { s with
    ip := { s.ip with length := s.ip.length - UInt16.ofNat size }
    seqNum := s.seqNum + UInt32.ofNat size
    payload := s.payload.drop size
    checksum := .calculated }

def sendNativeFragment (s : Segment) (size : Nat) (step : Bool) : List Segment :=
  if size ≥ s.payload.length then
    if step then [s.second 0] else []
  else if step then [s.second size]
  else [s.first size]

def nativeFragments (reverse : Bool) (s : Segment) (size : Nat) : List Segment :=
  sendNativeFragment s size reverse ++ sendNativeFragment s size !reverse

/-! ### Fake requests -/

/-- `MAX_PACKET_SIZE` -/
def maxPacketSize : Nat := 9016

def fakeHttpRequest : List UInt8 :=
  ascii "GET / HTTP/1.1" ++ crlf ++ ascii "Host: www.w3.org" ++ crlf ++
    ascii "User-Agent: curl/7.65.3" ++ crlf ++ ascii "Accept: */*" ++ crlf ++
    ascii "Accept-Encoding: deflate, gzip, br" ++ crlf ++ crlf

def fakeHttpsRequest : List UInt8 :=
  [0x16, 0x03, 0x01, 0x02, 0x00, 0x01, 0x00, 0x01, 0xfc, 0x03, 0x03, 0x9a, 0x8f, 0xa7, 0x6a,
    0x5d, 0x57, 0xf3, 0x62, 0x19, 0xbe, 0x46, 0x82, 0x45, 0xe2, 0x59, 0x5c, 0xb4, 0x48, 0x31,
    0x12, 0x15, 0x14, 0x79, 0x2c, 0xaa, 0xcd, 0xea, 0xda, 0xf0, 0xe1, 0xfd, 0xbb, 0x20, 0xf4,
    0x83, 0x2a, 0x94, 0xf1, 0x48, 0x3b, 0x9d, 0xb6, 0x74, 0xba, 0x3c, 0x81, 0x63, 0xbc, 0x18,
    0xcc, 0x14, 0x45, 0x57, 0x6c, 0x80, 0xf9, 0x25, 0xcf, 0x9c, 0x86, 0x60, 0x50, 0x31, 0x2e,
    0xe9, 0x00, 0x22, 0x13, 0x01, 0x13, 0x03, 0x13, 0x02, 0xc0, 0x2b, 0xc0, 0x2f, 0xcc, 0xa9,
    0xcc, 0xa8, 0xc0, 0x2c, 0xc0, 0x30, 0xc0, 0x0a, 0xc0, 0x09, 0xc0, 0x13, 0xc0, 0x14, 0x00,
    0x33, 0x00, 0x39, 0x00, 0x2f, 0x00, 0x35, 0x01, 0x00, 0x01, 0x91, 0x00, 0x00, 0x00, 0x0f,
    0x00, 0x0d, 0x00, 0x00, 0x0a, 0x77, 0x77, 0x77, 0x2e, 0x77, 0x33, 0x2e, 0x6f, 0x72, 0x67,
    0x00, 0x17, 0x00, 0x00, 0xff, 0x01, 0x00, 0x01, 0x00, 0x00, 0x0a, 0x00, 0x0e, 0x00, 0x0c,
    0x00, 0x1d, 0x00, 0x17, 0x00, 0x18, 0x00, 0x19, 0x01, 0x00, 0x01, 0x01, 0x00, 0x0b, 0x00,
    0x02, 0x01, 0x00, 0x00, 0x23, 0x00, 0x00, 0x00, 0x10, 0x00, 0x0e, 0x00, 0x0c, 0x02, 0x68,
    0x32, 0x08, 0x68, 0x74, 0x74, 0x70, 0x2f, 0x31, 0x2e, 0x31, 0x00, 0x05, 0x00, 0x05, 0x01,
    0x00, 0x00, 0x00, 0x00, 0x00, 0x33, 0x00, 0x6b, 0x00, 0x69, 0x00, 0x1d, 0x00, 0x20, 0xb0,
    0xe4, 0xda, 0x34, 0xb4, 0x29, 0x8d, 0xd3, 0x5c, 0x70, 0xd3, 0xbe, 0xe8, 0xa7, 0x2a, 0x6b,
    0xe4, 0x11, 0x19, 0x8b, 0x18, 0x9d, 0x83, 0x9a, 0x49, 0x7c, 0x83, 0x7f, 0xa9, 0x03, 0x8c,
    0x3c, 0x00, 0x17, 0x00, 0x41, 0x04, 0x4c, 0x04, 0xa4, 0x71, 0x4c, 0x49, 0x75, 0x55, 0xd1,
    0x18, 0x1e, 0x22, 0x62, 0x19, 0x53, 0x00, 0xde, 0x74, 0x2f, 0xb3, 0xde, 0x13, 0x54, 0xe6,
    0x78, 0x07, 0x94, 0x55, 0x0e, 0xb2, 0x6c, 0xb0, 0x03, 0xee, 0x79, 0xa9, 0x96, 0x1e, 0x0e,
    0x98, 0x17, 0x78, 0x24, 0x44, 0x0c, 0x88, 0x80, 0x06, 0x8b, 0xd4, 0x80, 0xbf, 0x67, 0x7c,
    0x37, 0x6a, 0x5b, 0x46, 0x4c, 0xa7, 0x98, 0x6f, 0xb9, 0x22, 0x00, 0x2b, 0x00, 0x09, 0x08,
    0x03, 0x04, 0x03, 0x03, 0x03, 0x02, 0x03, 0x01, 0x00, 0x0d, 0x00, 0x18, 0x00, 0x16, 0x04,
    0x03, 0x05, 0x03, 0x06, 0x03, 0x08, 0x04, 0x08, 0x05, 0x08, 0x06, 0x04, 0x01, 0x05, 0x01,
    0x06, 0x01, 0x02, 0x03, 0x02, 0x01, 0x00, 0x2d, 0x00, 0x02, 0x01, 0x01, 0x00, 0x1c, 0x00,
    0x02, 0x40, 0x01, 0x00, 0x15, 0x00, 0x96] ++ List.replicate 150 0

/-- The segment with other data, and everything that depends on its length. -/
def Segment.carrying (s : Segment) (data : List UInt8) : Segment :=
  { s with
    ip := { s.ip with
      length := s.ip.length - UInt16.ofNat s.payload.length + UInt16.ofNat data.length }
    payload := data
    checksum := .calculated }

/-- The packet that `send_fake_data` builds. -/
def Segment.fake (s : Segment) (setTtl : Nat) (setChecksum setSeq : Bool) (data : List UInt8) :
    Segment :=
  let f := s.carrying data
  let f := if setTtl ≠ 0 then { f with ip := { f.ip with ttl := UInt8.ofNat setTtl } } else f
  let f := if setSeq then { f with ackNum := f.ackNum - 66000, seqNum := f.seqNum - 10000 } else f
  if setChecksum then { f with checksum := .damaged } else f

def sendFakeData (s : Segment) (isHttps : Bool) (setTtl : Nat) (setChecksum setSeq : Bool)
    (fake : Option (List UInt8)) : List Segment :=
  let data := fake.getD (if isHttps then fakeHttpsRequest else fakeHttpRequest)
  if s.headerLen + s.payload.length + data.length + 1 > maxPacketSize then []
  else [s.fake setTtl setChecksum setSeq data]

def sendFakeRequest (s : Segment) (isHttps : Bool) (setTtl : Nat) (setChecksum setSeq : Bool)
    (fake : Option (List UInt8)) : List Segment :=
  (if setTtl ≠ 0 then sendFakeData s isHttps setTtl false false fake else []) ++
    (if setChecksum then sendFakeData s isHttps 0 setChecksum false fake else []) ++
    (if setSeq then sendFakeData s isHttps 0 false setSeq fake else [])

/-- `send_fake_http_request` and `send_fake_https_request`; without loaded fakes the built-in one
is sent. -/
def sendFakes (fakes : List (List UInt8)) (resend : Nat) (s : Segment) (isHttps : Bool)
    (setTtl : Nat) (setChecksum setSeq : Bool) : List Segment :=
  (if fakes = [] then [none] else fakes.map some).flatMap fun fake =>
    (List.replicate resend (sendFakeRequest s isHttps setTtl setChecksum setSeq fake)).flatten

/-! ### What a segment carries -/

/-- The bytes with their sequence numbers. -/
def Segment.cells (s : Segment) : List (UInt32 × UInt8) :=
  s.payload.mapIdx fun i c => (s.seqNum + UInt32.ofNat i, c)

/-- A piece of a segment: the headers are the same, and the length field fits. -/
structure PartOf (s p : Segment) : Prop where
  headers : p = { s with
    ip := { s.ip with length := p.ip.length }
    seqNum := p.seqNum
    payload := p.payload
    checksum := p.checksum }
  length : p.ip.length + UInt16.ofNat s.payload.length =
    s.ip.length + UInt16.ofNat p.payload.length

theorem partOf_self (s : Segment) : PartOf s s := ⟨rfl, rfl⟩

theorem partOf_calculated (s : Segment) : PartOf s { s with checksum := .calculated } := ⟨rfl, rfl⟩

theorem partOf_first {s : Segment} {size : Nat} (within : size < s.payload.length) :
    PartOf s (s.first size) := by
  refine ⟨rfl, ?_⟩
  have length : (s.first size).payload.length = size := by
    simp [Segment.first]
    omega
  rw [length]
  simp only [Segment.first]
  grind

theorem partOf_second {s : Segment} {size : Nat} (within : size ≤ s.payload.length) :
    PartOf s (s.second size) := by
  refine ⟨rfl, ?_⟩
  obtain ⟨rest, sum⟩ := Nat.exists_eq_add_of_le within
  have length : (s.second size).payload.length = rest := by
    simp [Segment.second]
    omega
  rw [length, sum, UInt16.ofNat_add]
  simp only [Segment.second]
  grind

theorem partOf_nativeFragments {s p : Segment} {reverse : Bool} {size : Nat}
    (sent : p ∈ nativeFragments reverse s size) : PartOf s p ∧ p.checksum = .calculated := by
  have one : ∀ step, p ∈ sendNativeFragment s size step →
      PartOf s p ∧ p.checksum = .calculated := by
    intro step member
    unfold sendNativeFragment at member
    split_ifs at member with whole last
    · rw [List.mem_singleton.mp member]
      exact ⟨partOf_second (Nat.zero_le _), rfl⟩
    · cases member
    · rw [List.mem_singleton.mp member]
      exact ⟨partOf_second (by omega), rfl⟩
    · rw [List.mem_singleton.mp member]
      exact ⟨partOf_first (by omega), rfl⟩
  obtain here | there := List.mem_append.mp sent
  · exact one _ here
  · exact one _ there

theorem cells_second_zero (s : Segment) : (s.second 0).cells = s.cells := by
  simp [Segment.second, Segment.cells]

theorem cells_first_second {s : Segment} {size : Nat} (within : size < s.payload.length) :
    (s.first size).cells ++ (s.second size).cells = s.cells := by
  have length : (s.payload.take size).length = size := by
    rw [List.length_take]
    omega
  have both : s.cells = (s.payload.take size ++ s.payload.drop size).mapIdx
      fun i c => (s.seqNum + UInt32.ofNat i, c) := by
    rw [List.take_append_drop, Segment.cells]
  rw [both, List.mapIdx_append, length]
  simp only [Segment.cells, Segment.first, Segment.second, UInt32.ofNat_add]
  congr 2
  funext i c
  rw [UInt32.add_assoc, UInt32.add_comm (UInt32.ofNat size)]

/-- However the fragments are ordered, every byte is sent once, at its place. -/
theorem cells_nativeFragments (reverse : Bool) (s : Segment) (size : Nat) :
    ((nativeFragments reverse s size).flatMap Segment.cells).Perm s.cells := by
  by_cases whole : size ≥ s.payload.length
  · have once : (nativeFragments reverse s size).flatMap Segment.cells = s.cells := by
      cases reverse <;> simp [nativeFragments, sendNativeFragment, whole, cells_second_zero]
    rw [once]
  · have both := cells_first_second (not_le.mp whole)
    cases reverse with
    | false =>
        have order : (nativeFragments false s size).flatMap Segment.cells =
            (s.first size).cells ++ (s.second size).cells := by
          simp [nativeFragments, sendNativeFragment, whole]
        rw [order, both]
    | true =>
        have order : (nativeFragments true s size).flatMap Segment.cells =
            (s.second size).cells ++ (s.first size).cells := by
          simp [nativeFragments, sendNativeFragment, whole]
        rw [order, ← both]
        exact List.perm_append_comm

/-! ### What a fake differs in -/

/-- A fake request has other data than the segment it imitates, and one thing besides that
keeps it from being taken for data: a TTL, a wrong checksum, or numbers of the past. -/
inductive Fake (setTtl : Nat) (s : Segment) : Segment → Prop where
  | ttl (data : List UInt8) (some : setTtl ≠ 0) : Fake setTtl s { s.carrying data with
      ip := { (s.carrying data).ip with ttl := UInt8.ofNat setTtl } }
  | checksum (data : List UInt8) : Fake setTtl s { s.carrying data with checksum := .damaged }
  | seq (data : List UInt8) : Fake setTtl s { s.carrying data with
      ackNum := s.ackNum - 66000
      seqNum := s.seqNum - 10000 }

theorem mem_sendFakeData {s f : Segment} {setTtl : Nat} {isHttps setChecksum setSeq : Bool}
    {fake : Option (List UInt8)}
    (sent : f ∈ sendFakeData s isHttps setTtl setChecksum setSeq fake) :
    ∃ data, f = s.fake setTtl setChecksum setSeq data := by
  unfold sendFakeData at sent
  dsimp only at sent
  generalize fake.getD (if isHttps then fakeHttpsRequest else fakeHttpRequest) = data at sent
  split_ifs at sent
  · cases sent
  · exact ⟨_, List.mem_singleton.mp sent⟩

theorem fake_of_mem_sendFakes {fakes : List (List UInt8)} {resend setTtl : Nat} {s f : Segment}
    {isHttps setChecksum setSeq : Bool}
    (sent : f ∈ sendFakes fakes resend s isHttps setTtl setChecksum setSeq) : Fake setTtl s f := by
  obtain ⟨fake, -, member⟩ := List.mem_flatMap.mp sent
  obtain ⟨block, copy, member⟩ := List.mem_flatten.mp member
  rw [(List.mem_replicate.mp copy).2] at member
  unfold sendFakeRequest at member
  rw [List.mem_append, List.mem_append] at member
  obtain (member | member) | member := member
  · split_ifs at member with some
    · obtain ⟨data, rfl⟩ := mem_sendFakeData member
      rw [Segment.fake, if_pos some]
      exact .ttl data some
    · cases member
  · split_ifs at member with wrong
    · obtain ⟨data, rfl⟩ := mem_sendFakeData member
      rw [wrong]
      exact .checksum data
    · cases member
  · split_ifs at member with wrong
    · obtain ⟨data, rfl⟩ := mem_sendFakeData member
      rw [wrong]
      exact .seq data
    · cases member

end ZonDpi.Goodbye
