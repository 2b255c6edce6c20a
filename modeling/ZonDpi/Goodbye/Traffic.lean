import ZonDpi.Goodbye.Loop

/-!
What GoodbyeDPI does to the traffic of a connection.

Whatever the options and whatever came before, the server gets every byte of a request exactly
once and at its place, with only the changes of `editHost_lines`; all that is sent besides are
fakes (`handle_request`). The client gets every segment of a reply with its data unchanged,
except for the redirects that are to be dropped (`handle_reply`).
-/

namespace ZonDpi.Goodbye

open ByteText ZonDpi.Engine

variable {v : GoodbyeSettings} {l : Loaded}

/-! ### Fakes -/

theorem handleOutgoingFakePacket_fake {isHttps : Bool} {now : ℤ} {s f : Segment} {st : State}
    (sent : f ∈ (handleOutgoingFakePacket v l isHttps now s st).1) :
    Fake (handleOutgoingFakePacket v l isHttps now s st).2.ttlOfFakePacket s f := by
  unfold handleOutgoingFakePacket at sent ⊢
  dsimp only at sent ⊢
  split_ifs at sent
  · exact fake_of_mem_sendFakes sent
  · cases sent

theorem fakesFor_fake {isHttps : Bool} {now : ℤ} {s f : Segment} {st : State}
    (sent : f ∈ (fakesFor v l isHttps now s st).1) :
    Fake (fakesFor v l isHttps now s st).2.ttlOfFakePacket s f := by
  unfold fakesFor at sent ⊢
  split_ifs at sent ⊢
  · exact handleOutgoingFakePacket_fake sent
  · cases sent

/-! ### Segments -/

/-- The segments that take the place of one whose payload has been edited. -/
structure Replaces (s : Segment) (payload : List UInt8) (parts : List Segment) : Prop where
  size : payload.length = s.payload.length
  edited : EditedRequest (lines s.payload) (lines payload)
  bytes : (parts.flatMap Segment.cells).Perm { s with payload := payload }.cells
  pieces : ∀ p ∈ parts, PartOf { s with payload := payload } p
  checksum : ∀ p ∈ parts, p = s ∨ p.checksum = .calculated

theorem replaces_self (s : Segment) : Replaces s s.payload [s] where
  size := rfl
  edited := .same _
  bytes := by simp
  pieces := by simp [partOf_self]
  checksum := by simp

theorem replaces_reinject {s : Segment} {payload : List UInt8} {recalc : Bool}
    {sni : Option (Nat × Nat)} (length : payload.length = s.payload.length)
    (edited : EditedRequest (lines s.payload) (lines payload))
    (unchanged : recalc = false → payload = s.payload) :
    Replaces s payload (reinject v { s with payload := payload } recalc sni) := by
  unfold reinject
  split_ifs with cut recalculated
  · refine ⟨length, edited, cells_nativeFragments _ _ _, ?_, ?_⟩
    · intro p sent
      exact (partOf_nativeFragments sent).1
    · intro p sent
      exact .inr (partOf_nativeFragments sent).2
  · refine ⟨length, edited, by simp [Segment.cells], ?_, ?_⟩
    · intro p sent
      rw [List.mem_singleton.mp sent]
      exact partOf_calculated _
    · intro p sent
      rw [List.mem_singleton.mp sent]
      exact .inr rfl
  · obtain rfl := unchanged (by simpa using recalculated)
    exact replaces_self s

/-- Where no checksum is calculated, nothing has been changed. -/
theorem editHost_of_not_recalc {host : Header} {payload : List UInt8}
    (kept : hostRecalc v host payload = false) : editHost v host payload = payload := by
  simp only [hostRecalc, decide_eq_false_iff_not, not_or] at kept
  obtain ⟨-, mixed, named, spaced, moved⟩ := kept
  have recased : recase v host payload = payload := by
    simp [recase, mixed, named]
  rw [recased] at spaced moved
  unfold editHost respace
  rw [recased]
  dsimp only
  generalize (if .doFragmentHttp ∈ v.flags then v.httpFragmentSize else 0) = httpFrag at spaced ⊢
  split_ifs with both one
  · split
    · rename_i found
      exact absurd ⟨both.1, both.2, by simp [found]⟩ spaced
    · rfl
  · split
    · rename_i found
      exact absurd ⟨fun extra => both ⟨extra, one⟩, one, by simp [found]⟩ moved
    · rfl
  · rfl

/-- A segment to the server is replaced, and fakes may go before. -/
def Passes (s : Segment) (sent : List Segment × State) : Prop :=
  ∃ fakes parts payload, sent.1 = fakes ++ parts ∧
    (∀ f ∈ fakes, Fake sent.2.ttlOfFakePacket s f) ∧ Replaces s payload parts

theorem passes_self (s : Segment) (st : State) : Passes s ([s], st) :=
  ⟨[], [s], s.payload, rfl, by simp, replaces_self s⟩

theorem handleHttps_passes (now : ℤ) (behind : UInt8) (s : Segment) (st : State) :
    Passes s (handleHttps v l now behind s st) := by
  unfold handleHttps
  split_ifs
  · exact ⟨_, _, s.payload, rfl, fun f sent => fakesFor_fake sent,
      replaces_reinject rfl (.same _) fun _ => rfl⟩
  · exact passes_self s st

theorem handleHttp_passes (now : ℤ) (s : Segment) (st : State) :
    Passes s (handleHttp v l now s st) := by
  unfold handleHttp
  split
  · rename_i host found
    split_ifs
    · obtain ⟨length, edited⟩ := editHost_lines v found
      exact ⟨_, _, editHost v host s.payload, rfl, fun f sent => fakesFor_fake sent,
        replaces_reinject length edited editHost_of_not_recalc⟩
    · exact passes_self s st
  · exact passes_self s st

theorem handleTcpData_passes (now : ℤ) (behind : UInt8) (s : Segment) (st : State) :
    Passes s (handleTcpData v l now true behind s st) := by
  unfold handleTcpData
  rw [if_pos rfl]
  split_ifs
  · exact handleHttps_passes now behind s st
  · exact handleHttp_passes now s st
  · exact passes_self s st

theorem handle_passes {e : Captured} {s : Segment} (st : State) (tcp : e.packet = .tcp s)
    (outbound : e.outbound = true) :
    ∃ sent, (handle v l e st).1 = sent.map .tcp ∧ Passes s (sent, (handle v l e st).2) := by
  unfold handle
  rw [tcp, outbound]
  refine ⟨_, rfl, ?_⟩
  dsimp only
  by_cases data : s.payload ≠ []
  · rw [if_pos data]
    exact handleTcpData_passes e.now e.behind s st
  · rw [if_neg data, handleTcp, if_neg (by simp)]
    exact passes_self s st

/-- The server gets a request byte by byte, whatever the options and whatever came before. All
that is sent besides are fakes. -/
theorem handle_request {e : Captured} {s : Segment} (st : State) (tcp : e.packet = .tcp s)
    (outbound : e.outbound = true) :
    ∃ (fakes parts : List Segment) (payload : List UInt8),
      (handle v l e st).1 = (fakes ++ parts).map .tcp ∧
      (∀ f ∈ fakes, Fake (handle v l e st).2.ttlOfFakePacket s f) ∧
      payload.length = s.payload.length ∧
      EditedRequest (lines s.payload) (lines payload) ∧
      (parts.flatMap Segment.cells).Perm { s with payload := payload }.cells ∧
      ∀ p ∈ parts, PartOf { s with payload := payload } p ∧
        (p = s ∨ p.checksum = .calculated) := by
  obtain ⟨sent, same, fakes, parts, payload, rfl, faked, replaced⟩ :=
    @handle_passes v l e s st tcp outbound
  exact ⟨fakes, parts, payload, same, faked, replaced.size, replaced.edited, replaced.bytes,
    fun p member => ⟨replaced.pieces p member, replaced.checksum p member⟩⟩

/-- A ClientHello of 23 bytes with one fake, cut behind the second byte and sent in reverse. -/
theorem handle_request_hello :
    let s : Segment := ⟨⟨false, 1, 2, 128, 63, 0⟩, 5000, 443, 100, 7, false, true, 64, 40,
      0x16 :: 3 :: 1 :: List.replicate 20 0, .received⟩
    let v := { GoodbyeSettings.initial with
      flags := {.doFakePacket, .doWrongChksum, .doNativeFrag, .doFragmentHttps, .doReverseFrag}
      httpsFragmentSize := 2 }
    let e : Captured := ⟨1, true, .tcp s, 0⟩
    (handle v ⟨[], [[1, 2, 3]]⟩ e (initial v)).1 =
        [.tcp (s.fake 0 true false [1, 2, 3]), .tcp (s.second 2), .tcp (s.first 2)] ∧
      ∃ fakes parts : List Segment,
        (handle v ⟨[], [[1, 2, 3]]⟩ e (initial v)).1 = (fakes ++ parts).map .tcp ∧
        (parts.flatMap Segment.cells).length = 23 := by
  intro s v e
  obtain ⟨fakes, parts, payload, same, -, size, -, bytes, -⟩ :=
    @handle_request v ⟨[], [[1, 2, 3]]⟩ e s (initial v) rfl rfl
  refine ⟨by decide, fakes, parts, same, ?_⟩
  rw [bytes.length_eq, Segment.cells, List.length_mapIdx]
  exact size

/-- The client gets the data of a reply as they came, unless it is a redirect to be dropped. -/
theorem handle_reply {e : Captured} {s : Segment} (st : State) (tcp : e.packet = .tcp s)
    (inbound : e.outbound = false) :
    (handle v l e st).1 = [] ∧ dropsRedirect v s = true ∨
      ∃ window checksum, (handle v l e st).1 = [.tcp { s with window, checksum }] ∧
        (window = s.window ∧ checksum = s.checksum ∨ checksum = .calculated) := by
  unfold handle
  rw [tcp, inbound]
  dsimp only
  by_cases data : s.payload ≠ []
  · rw [if_pos data, handleTcpData, if_neg (by simp)]
    split_ifs with dropped
    · exact .inl ⟨rfl, dropped⟩
    · exact .inr ⟨_, _, rfl, .inl ⟨rfl, rfl⟩⟩
  · rw [if_neg data, handleTcp]
    dsimp only
    generalize (if tracksTtl v then { st with
      tcp := tcpHandleIncoming e.now s.answered s.ip.ttl.toNat st.tcp } else st) = next
    split_ifs
    · exact .inr ⟨_, _, rfl, .inl ⟨rfl, rfl⟩⟩
    · exact .inr ⟨_, _, rfl, .inr rfl⟩
    · exact .inr ⟨_, _, rfl, .inr rfl⟩
    · exact .inr ⟨_, _, rfl, .inl ⟨rfl, rfl⟩⟩
    · exact .inr ⟨_, _, rfl, .inl ⟨rfl, rfl⟩⟩

end ZonDpi.Goodbye
