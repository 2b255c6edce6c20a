import ZonDpi.Byedpi.Packets
import ZonDpi.Engine.CiadpiOptions

/-!
How ByeDPI changes a request before it is sent: `gen_offset` and `tamp` of `desync.c`.

`tamp` cuts the record of a ClientHello into as many records as `--tlsrec` asks for. Each cut
begins where the one before has ended, inside the record that is left over. Wherever the cuts
fall, a server that reads the records finds the content of the request, every byte of it once and
in order, and stands where it would have stood (`tamp_hello`). The records never outgrow the
buffer. Only a random cut can end the process, where nothing is left to choose from.
-/

namespace ZonDpi.Byedpi

open ByteText RecordStream
open ZonDpi.Engine (Part Demode)

/-! ### Positions -/

inductive Proto where
  | http
  | https
deriving DecidableEq, Repr

structure Host where
  len : ℤ
  pos : ℕ
deriving DecidableEq, Repr

/-- `struct proto_info`. The host is there once it has been searched for. -/
structure ProtoInfo where
  host : Option Host
  type : Option Proto
deriving DecidableEq, Repr

def ProtoInfo.zero : ProtoInfo := ⟨none, none⟩

/-- The search in `init_proto_info`. A server name without a byte is no HTTPS host, yet it has a
place. -/
def searchHost (buffer : List UInt8) (type : Option Proto) : Host × Option Proto :=
  let tls := parseTls buffer
  let tlsLen := (tls.map Prod.snd).getD 0
  if tlsLen ≠ 0 then (⟨tlsLen, (tls.map Prod.fst).getD 0⟩, some .https)
  else
    let http := parseHttp buffer
    let httpLen := (http.map Prod.snd).getD 0
    let pos := ((http.map Prod.fst).or (tls.map Prod.fst)).getD 0
    (⟨httpLen, pos⟩, if httpLen ≠ 0 then some .http else type)

def initProtoInfo (buffer : List UInt8) (info : ProtoInfo) : ProtoInfo :=
  match info.host with
  | some _ => info
  | none =>
      let found := searchHost buffer info.type
      ⟨some found.1, found.2⟩

def offsetEnd (flag : ℕ) : Bool := flag.testBit 0

def offsetMid (flag : ℕ) : Bool := flag.testBit 1

def offsetRand (flag : ℕ) : Bool := flag.testBit 2

def offsetSni (flag : ℕ) : Bool := flag.testBit 3

def offsetHost (flag : ℕ) : Bool := flag.testBit 4

def offsetStart (flag : ℕ) : Bool := flag.testBit 5

/-- `gen_offset` behind a host. There is no result where `rand` is divided by zero, which ends the
process. -/
def hostOffset (random : ℕ) (pos : ℤ) (flag : ℕ) (host : Host) (type : Option Proto) : Option ℤ :=
  if host.pos = 0 ∨ offsetSni flag ∧ type ≠ some .https then some (-1)
  else
    let pos := pos + host.pos
    if offsetEnd flag then some (pos + host.len)
    else if offsetMid flag then some (pos + host.len.tdiv 2)
    else if offsetRand flag then
      if host.len = 0 then none else some (pos + (random : ℤ).tmod host.len)
    else some pos

/-- `gen_offset`; `random` is what `rand` returns. -/
def genOffset (random : ℕ) (pos : ℤ) (flag : ℕ) (buffer : List UInt8) (lp : ℕ)
    (info : ProtoInfo) : Option (ℤ × ProtoInfo) :=
  if offsetSni flag || offsetHost flag then
    let info := initProtoInfo buffer info
    (hostOffset random pos flag (info.host.getD ⟨0, 0⟩) info.type).map (·, info)
  else if offsetRand flag then
    if buffer.length = lp then none
    -- Behind the end the difference of `size_t` is larger than any `rand`.
    else some (pos + (lp + random % (buffer.length - lp) : ℕ), info)
  else if offsetMid flag then some (pos + (buffer.length / 2 : ℕ), info)
  else if pos < 0 ∨ offsetEnd flag then some (pos + buffer.length, info)
  else some (pos, info)

/-- Only a random place can be missing. -/
theorem offsetRand_of_genOffset {random : ℕ} {pos : ℤ} {flag : ℕ} {buffer : List UInt8} {lp : ℕ}
    {info : ProtoInfo} (missing : genOffset random pos flag buffer lp info = none) :
    offsetRand flag = true := by
  by_contra fixed
  unfold genOffset hostOffset at missing
  simp only [fixed, if_false] at missing
  split_ifs at missing <;> cases missing

/-! ### Records -/

/-- A part that is repeated, with the number of the repetition. The loops of the source make
at least one round for every part. -/
def repeated (parts : List Part) : List (Part × ℕ) :=
  parts.flatMap fun part => (List.range (max 1 part.r.toNat)).map (part, ·)

theorem mem_parts_of_repeated {parts : List Part} {c : Part × ℕ} (member : c ∈ repeated parts) :
    c.1 ∈ parts := by
  simp only [repeated, List.mem_flatMap, List.mem_map] at member
  obtain ⟨part, listed, k, -, rfl⟩ := member
  exact listed

/-- What `desync` reads of a group. -/
structure Group where
  parts : List Part
  tlsrec : List Part
  modHttp : ℕ
  tlsminor : Option UInt8
  oobChar : Option UInt8
  ttl : ℕ
  fakeData : Bool
  fakeOffset : Option Part
deriving DecidableEq, Repr

structure Request where
  buffer : List UInt8
  n : ℕ
  info : ProtoInfo
deriving DecidableEq, Repr

/-- The bytes that are in use. -/
def Request.bytes (request : Request) : List UInt8 := request.buffer.take request.n

/-- The loop over `tlsrec`: `rc` counts the cuts, `lp` is where the last record begins. -/
def splitRecords (random : ℕ → ℕ) : List (Part × ℕ) → ℕ → ℕ → Request → Option Request
  | [], _, _, request => some request
  | (part, k) :: rest, rc, lp, request => do
      let used := request.buffer.take (request.n - rc * 5)
      let (offset, info) ← genOffset (random rc) part.pos part.flag used lp request.info
      let pos := rc * 5 + offset - (if part.pos < 0 ∨ part.flag ≠ 0 then 5 else 0) + part.s * k
      if pos < lp then some { request with info }
      else
        match partTls (request.buffer.drop lp) (request.n - lp) (pos - lp) with
        | (0, _) => some { request with info }
        | (_, cut) =>
            splitRecords random rest (rc + 1) (pos.toNat + 5)
              ⟨request.buffer.take lp ++ cut, request.n + 5, info⟩

/-- `tamp`. There is no result where `mod_http` leaves its buffer and where `gen_offset` ends the
process. -/
def tamp (random : ℕ → ℕ) (dp : Group) (request : Request) : Option Request := do
  let buffer ←
    if dp.modHttp ≠ 0 ∧ isHttp request.bytes then modHttp request.buffer request.n dp.modHttp
    else some request.buffer
  let buffer :=
    match dp.tlsminor with
    | some minor => if isTlsChello (buffer.take request.n) then write 2 [minor] buffer else buffer
    | none => buffer
  if dp.tlsrec ≠ [] ∧ isTlsChello (buffer.take request.n) then
    splitRecords random (repeated dp.tlsrec) 0 0 { request with buffer }
  else some { request with buffer }

/-! ### The content is kept -/

/-- A request whose last record is not over before the bytes in use are. -/
structure LastRecord (front : List UInt8) (tag : Tag) (length : ℕ) (content back : List UInt8)
    (request : Request) : Prop where
  buffer_eq : request.buffer = front ++ (tag.bytes ++ (toBe length ++ (content ++ back)))
  n_eq : request.n = front.length + (5 + content.length)
  fits : content.length ≤ length
  small : length < 65536

section Records

variable {front content back first rest lost more : List UInt8} {tag : Tag} {length : ℕ}
  {request : Request}

theorem LastRecord.bytes_eq (last : LastRecord front tag length content back request) :
    request.bytes = front ++ (tag.bytes ++ (toBe length ++ content)) := by
  have whole : front ++ (tag.bytes ++ (toBe length ++ (content ++ back))) =
      (front ++ (tag.bytes ++ (toBe length ++ content))) ++ back := by simp
  rw [Request.bytes, last.buffer_eq, last.n_eq, whole, List.take_left' (by simp; omega)]

theorem LastRecord.n_le (last : LastRecord front tag length content back request) :
    request.n ≤ request.buffer.length := by
  rw [last.buffer_eq, last.n_eq]
  simp
  omega

/-- In a buffer that holds one record, `part_tls` leaves everything as it is or cuts the
record. -/
theorem partTls_cases (pos : ℤ) (fits : content.length ≤ length) (small : length < 65536) :
    (partTls (tag.bytes ++ (toBe length ++ (content ++ back))) (5 + content.length) pos).1 = 0 ∨
      ∃ first rest lost more, content = first ++ rest ∧ back = lost ++ more ∧ lost.length = 5 ∧
        pos = first.length ∧
        partTls (tag.bytes ++ (toBe length ++ (content ++ back))) (5 + content.length) pos =
          (5, tag.bytes ++ (toBe first.length ++ (first ++ (tag.bytes ++
            (toBe (length - first.length) ++ (rest ++ more)))))) := by
  by_cases fails : 5 + content.length < 3 ∨
      (tag.bytes ++ (toBe length ++ (content ++ back))).length - (5 + content.length) < 5 ∨
      pos < 0 ∨ ((5 + content.length : ℕ) : ℤ) < pos + 5
  · left
    rw [partTls, if_pos fails]
  · right
    simp only [List.length_append, Tag.length_bytes, length_toBe] at fails
    refine ⟨content.take pos.toNat, content.drop pos.toNat, back.take 5, back.drop 5,
      (List.take_append_drop _ _).symm, (List.take_append_drop _ _).symm, ?_, ?_, ?_⟩
    · rw [List.length_take]
      omega
    · rw [List.length_take]
      omega
    · have place : (content.take pos.toNat).length = pos.toNat := by
        rw [List.length_take]
        omega
      have count : 5 + content.length =
          5 + (content.take pos.toNat).length + (content.drop pos.toNat).length := by
        rw [Nat.add_assoc, ← List.length_append, List.take_append_drop]
      have same : pos = (content.take pos.toNat).length := by omega
      have cut := @partTls_cut tag length (content.take pos.toNat) (content.drop pos.toNat)
        (back.take 5) (back.drop 5) (by rw [List.length_take]; omega) (by omega) small
      rw [← List.append_assoc (List.take _ _) (List.drop _ _), List.take_append_drop,
        List.take_append_drop, ← count, ← same] at cut
      exact cut

/-- A whole record leads a reader from one record to the next. -/
theorem read_record {out : List (Tag × UInt8)} (before : read .start front = (.start, out))
    (small : first.length < 65536) :
    read .start (front ++ (tag.bytes ++ (toBe first.length ++ first))) =
      (.start, out ++ first.map (tag, ·)) := by
  have record : read .start (tag.bytes ++ (toBe first.length ++ first)) =
      (.start, first.map (tag, ·)) := by
    rw [read_header_toBe tag small, read_enter tag (Nat.le_refl _)]
    simp [enter]
  rw [read_append, before, record]

/-- The request behind a cut. -/
def Request.cut (request : Request) (front : List UInt8) (tag : Tag) (length : ℕ)
    (first rest more : List UInt8) (info : ProtoInfo) : Request :=
  ⟨front ++ (tag.bytes ++ (toBe first.length ++ (first ++ (tag.bytes ++
    (toBe (length - first.length) ++ (rest ++ more)))))), request.n + 5, info⟩

theorem LastRecord.cut (last : LastRecord front tag length (first ++ rest) (lost ++ more) request)
    (info : ProtoInfo) :
    LastRecord (front ++ (tag.bytes ++ (toBe first.length ++ first))) tag (length - first.length)
      rest more (request.cut front tag length first rest more info) := by
  have fits := last.fits
  have small := last.small
  simp only [List.length_append] at fits
  refine ⟨by simp [Request.cut], ?_, by omega, by omega⟩
  simp [Request.cut, last.n_eq]
  omega

theorem LastRecord.read_cut
    (last : LastRecord front tag length (first ++ rest) (lost ++ more) request)
    (before : (read .start front).1 = .start) (info : ProtoInfo) :
    read .start (request.cut front tag length first rest more info).bytes =
      read .start request.bytes := by
  have fits := last.fits
  simp only [List.length_append] at fits
  rw [(last.cut info).bytes_eq, last.bytes_eq, List.append_assoc, List.append_assoc,
    List.append_assoc, read_append .start front, read_append .start front, before,
    read_split tag (by omega) last.small]

/-- The loop over `tlsrec`. What lies before the last record has been read as a whole. -/
theorem read_splitRecords (random : ℕ → ℕ) (parts : List (Part × ℕ)) (rc : ℕ)
    {out : List (Tag × UInt8)} (before : read .start front = (.start, out))
    (last : LastRecord front tag length content back request) :
    (∃ sent, splitRecords random parts rc front.length request = some sent ∧
        sent.n ≤ sent.buffer.length ∧ sent.buffer.length = request.buffer.length ∧
        read .start sent.bytes = read .start request.bytes) ∨
      splitRecords random parts rc front.length request = none ∧
        ∃ c ∈ parts, offsetRand c.1.flag = true := by
  induction parts generalizing rc front out request length content back with
  | nil => exact .inl ⟨request, rfl, last.n_le, rfl, rfl⟩
  | cons head parts ih =>
      obtain ⟨part, k⟩ := head
      have dropped : request.buffer.drop front.length =
          tag.bytes ++ (toBe length ++ (content ++ back)) := by
        rw [last.buffer_eq, List.drop_left]
      have taken : request.buffer.take front.length = front := by
        rw [last.buffer_eq, List.take_left]
      have left : request.n - front.length = 5 + content.length := by
        rw [last.n_eq]
        omega
      unfold splitRecords
      dsimp only
      cases offset_eq : genOffset (random rc) part.pos part.flag
        (request.buffer.take (request.n - rc * 5)) front.length request.info with
      | none =>
          exact .inr ⟨rfl, (part, k), List.mem_cons_self, offsetRand_of_genOffset offset_eq⟩
      | some offset =>
          obtain ⟨offset, info⟩ := offset
          rw [Option.bind_eq_bind, Option.bind_some]
          dsimp only
          generalize (rc * 5 + offset -
            (if part.pos < 0 ∨ part.flag ≠ 0 then 5 else 0) + part.s * k : ℤ) = pos
          split_ifs with cancelled
          · exact .inl ⟨_, rfl, last.n_le, rfl, rfl⟩
          · rw [dropped, taken, left]
            obtain failed | ⟨first, rest, lost, more, rfl, rfl, room, place, cut⟩ :=
              @partTls_cases content back tag length (pos - front.length) last.fits last.small
            · generalize partTls _ _ _ = result at failed
              obtain ⟨ret, cut⟩ := result
              cases failed
              exact .inl ⟨_, rfl, last.n_le, rfl, rfl⟩
            · rw [cut]
              have next : pos.toNat + 5 =
                  (front ++ (tag.bytes ++ (toBe first.length ++ first))).length := by
                simp
                omega
              have fits := last.fits
              have small := last.small
              simp only [List.length_append] at fits
              have size : (request.cut front tag length first rest more info).buffer.length =
                  request.buffer.length := by
                rw [last.buffer_eq, Request.cut]
                simp [room]
                omega
              rw [next]
              obtain ⟨sent, split, bound, length_eq, same⟩ | ⟨dies, c, member, random⟩ :=
                ih (rc + 1) (read_record before (by omega)) (last.cut info)
              · exact .inl ⟨sent, split, bound, length_eq.trans size,
                  same.trans (last.read_cut (congrArg Prod.fst before) info)⟩
              · exact .inr ⟨dies, c, List.mem_cons_of_mem _ member, random⟩

end Records

/-- The tag of a ClientHello as it is sent. -/
def helloTag (dp : Group) (request : Request) : Tag :=
  ⟨byteOf request.buffer 0, byteOf request.buffer 1, dp.tlsminor.getD (byteOf request.buffer 2)⟩

theorem not_isHttp_of_hello {buffer : List UInt8} (hello : isTlsChello buffer = true) :
    isHttp buffer = false := by
  simp only [isTlsChello, Bool.and_eq_true, beq_iff_eq] at hello
  have first : byteOf buffer 0 = 0x16 := by
    have high := (byteOf buffer 0).toNat_lt
    have low := (byteOf buffer (0 + 1)).toNat_lt
    have value := hello.1.2
    rw [antohs, ofBe] at value
    have same : (byteOf buffer 0).toNat = 22 := by omega
    exact UInt8.toNat_inj.mp same
  rw [isHttp, first]
  simp

/-- A ClientHello that has been given its version is one record. -/
theorem lastRecord_hello (dp : Group) {request : Request}
    (inBuffer : request.n ≤ request.buffer.length) (hello : isTlsChello request.bytes = true)
    (one : request.n ≤ 5 + antohs request.buffer 3) :
    ∃ back, LastRecord [] (helloTag dp request) (antohs request.buffer 3) (request.bytes.drop 5)
      back { request with
        buffer := (dp.tlsminor.map fun minor => write 2 [minor] request.buffer).getD
          request.buffer } := by
  obtain ⟨buffer, n, info⟩ := request
  have long : 5 < (buffer.take n).length := by
    simp only [isTlsChello, Bool.and_eq_true, decide_eq_true_eq] at hello
    exact hello.1.1
  rw [List.length_take] at long
  obtain ⟨m, rfl⟩ : ∃ m, n = m + 5 := ⟨n - 5, by omega⟩
  have five : 5 ≤ buffer.length := by omega
  obtain ⟨b₀, b₁, b₂, high, low, tail, rfl⟩ := exists_five five
  have lengths : antohs (b₀ :: b₁ :: b₂ :: high :: low :: tail) 3 = ofBe high low := rfl
  have inside : m ≤ tail.length := by simpa using inBuffer
  dsimp only at one
  rw [lengths] at one
  refine ⟨tail.drop m, ?_, ?_, ?_, ?_⟩
  · dsimp only
    rw [lengths, toBe_ofBe, helloTag]
    cases dp.tlsminor <;> simp [Request.bytes, Tag.bytes, byteOf, write]
  · simp [Request.bytes, inside]
    omega
  · simp [Request.bytes, lengths]
    omega
  · exact ofBe_lt _ _

theorem LastRecord.read_bytes {tag : Tag} {length : ℕ} {content back : List UInt8}
    {request : Request} (last : LastRecord [] tag length content back request) :
    read .start request.bytes =
      (enter tag (length - content.length), content.map (tag, ·)) := by
  rw [last.bytes_eq, List.nil_append, read_header_toBe tag last.small, read_enter tag last.fits]

/-- `tamp` on a ClientHello: the version, and perhaps the cuts. -/
theorem tamp_eq (random : ℕ → ℕ) (dp : Group) {request versioned : Request}
    (hello : isTlsChello request.bytes = true)
    (version : versioned = { request with
      buffer := (dp.tlsminor.map fun minor => write 2 [minor] request.buffer).getD
        request.buffer }) :
    tamp random dp request = some versioned ∨
      tamp random dp request = splitRecords random (repeated dp.tlsrec) 0 0 versioned := by
  have plain : ¬ (dp.modHttp ≠ 0 ∧ isHttp request.bytes = true) := by
    simp [not_isHttp_of_hello hello]
  unfold tamp
  rw [if_neg plain, Option.bind_eq_bind, Option.bind_some]
  rw [Request.bytes] at hello
  dsimp only
  cases minor : dp.tlsminor with
  | none =>
      simp only [minor, Option.map_none, Option.getD_none] at version
      subst version
      dsimp only
      split_ifs with cuts
      · exact .inr rfl
      · exact .inl rfl
  | some value =>
      simp only [minor, Option.map_some, Option.getD_some] at version
      subst version
      dsimp only
      simp only [hello, if_true]
      split_ifs with cuts
      · exact .inr rfl
      · exact .inl rfl

/-- However a ClientHello is cut, a server reads from its records the content that it had, unless
a random cut has ended the process. -/
theorem tamp_hello (random : ℕ → ℕ) (dp : Group) {request : Request}
    (inBuffer : request.n ≤ request.buffer.length) (hello : isTlsChello request.bytes = true)
    (one : request.n ≤ 5 + antohs request.buffer 3) :
    (∃ sent, tamp random dp request = some sent ∧ sent.n ≤ sent.buffer.length ∧
        sent.buffer.length = request.buffer.length ∧
        read .start sent.bytes =
          (enter (helloTag dp request) (5 + antohs request.buffer 3 - request.n),
            (request.bytes.drop 5).map (helloTag dp request, ·))) ∨
      tamp random dp request = none ∧ ∃ part ∈ dp.tlsrec, offsetRand part.flag = true := by
  obtain ⟨back, last⟩ := lastRecord_hello dp inBuffer hello one
  obtain ⟨versioned, version⟩ : ∃ versioned : Request, versioned = { request with
      buffer := (dp.tlsminor.map fun minor => write 2 [minor] request.buffer).getD
        request.buffer } := ⟨_, rfl⟩
  rw [← version] at last
  have long : 5 < request.bytes.length := by
    simp only [isTlsChello, Bool.and_eq_true, decide_eq_true_eq] at hello
    exact hello.1.1
  have used : request.bytes.length = request.n := by
    rw [Request.bytes, List.length_take]
    omega
  have left : antohs request.buffer 3 - (request.bytes.drop 5).length =
      5 + antohs request.buffer 3 - request.n := by
    rw [List.length_drop, used]
    omega
  have room : versioned.buffer.length = request.buffer.length := by
    subst version
    cases dp.tlsminor with
    | none => rfl
    | some minor =>
        simp [write]
        omega
  have plain := last.read_bytes
  rw [left] at plain
  obtain unsplit | split := tamp_eq random dp hello version
  · exact .inl ⟨versioned, unsplit, last.n_le, room, plain⟩
  · obtain ⟨sent, cut, bound, length, same⟩ | ⟨dies, c, member, chance⟩ :=
      read_splitRecords random (repeated dp.tlsrec) 0 (by rfl) last
    · exact .inl ⟨sent, split.trans cut, bound, length.trans room, same.trans plain⟩
    · exact .inr ⟨split.trans dies, c.1, mem_parts_of_repeated member, chance⟩

/-- The beginning of a ClientHello of six bytes, in a buffer of thirty. -/
def shortHello : Request :=
  ⟨[0x16, 3, 1, 0, 6, 1, 0, 0, 2, 7, 8] ++ List.replicate 19 0, 11, .zero⟩

/-- Three cuts by two bytes each. -/
def threeCuts : Group := ⟨[], [⟨.none, 0, 1, 3, 2⟩], 0, some 3, none, 0, false, none⟩

theorem tamp_hello_threeCuts : (tamp (fun _ => 0) threeCuts shortHello).map Request.bytes =
      some [0x16, 3, 3, 0, 1, 1, 0x16, 3, 3, 0, 2, 0, 0, 0x16, 3, 3, 0, 2, 2, 7, 0x16, 3, 3, 0, 1,
        8] ∧
    ∃ sent, tamp (fun _ => 0) threeCuts shortHello = some sent ∧
      sent.n ≤ sent.buffer.length ∧ sent.buffer.length = shortHello.buffer.length ∧
      read .start sent.bytes =
        (enter (helloTag threeCuts shortHello)
          (5 + antohs shortHello.buffer 3 - shortHello.n),
          (shortHello.bytes.drop 5).map (helloTag threeCuts shortHello, ·)) :=
  ⟨by decide, (tamp_hello (fun _ => 0) threeCuts (by decide) (by decide) (by decide)).resolve_right
    (by decide)⟩

/-- The record begins where its bytes end, so that `rand` is divided by zero. -/
def cutAtEnd : Group :=
  ⟨[], [⟨.none, 0, 6, 1, 0⟩, ⟨.none, 4, 0, 1, 0⟩], 0, none, none, 0, false, none⟩

example : tamp (fun _ => 0) cutAtEnd shortHello = none := by decide

end ZonDpi.Byedpi
