import ZonDpi.Goodbye.Http
import ZonDpi.Lib.RecordStream

/-!
What ByeDPI finds in the first bytes of a connection and changes in them (`packets.c`).

A buffer is a list with all the bytes of the C array; the functions that only look at it take
the bytes that are in use. `partTls` puts the header of a new record into a record. A reader of
records does not notice, as long as the place lies inside the record; beyond it `part_tls`
reports success and does nothing.
-/

namespace ZonDpi.Byedpi

open ByteText RecordStream
open ZonDpi.Goodbye (ascii toUpper)

def byteOf (data : List UInt8) (i : ℕ) : UInt8 := data.getD i 0

def antohs (data : List UInt8) (i : ℕ) : ℕ := ofBe (byteOf data i) (byteOf data (i + 1))

theorem exists_five {buffer : List UInt8} (long : 5 ≤ buffer.length) :
    ∃ b₀ b₁ b₂ b₃ b₄ tail, buffer = b₀ :: b₁ :: b₂ :: b₃ :: b₄ :: tail := by
  rcases buffer with _ | ⟨b₀, _ | ⟨b₁, _ | ⟨b₂, _ | ⟨b₃, _ | ⟨b₄, tail⟩⟩⟩⟩⟩
  case cons.cons.cons.cons.cons => exact ⟨b₀, b₁, b₂, b₃, b₄, tail, rfl⟩
  all_goals simp at long

/-! ### TLS -/

def isTlsChello (buffer : List UInt8) : Bool :=
  5 < buffer.length && antohs buffer 0 == 0x1603 && byteOf buffer 5 == 1

/-- The loop of `find_tls_ext_offset`. Every round goes on by at least four bytes. -/
def findExt (type : ℕ) (data : List UInt8) (size : ℕ) : ℕ → ℕ → ℕ
  | 0, _ => 0
  | fuel + 1, skip =>
      if skip + 4 < size then
        if type = antohs data skip then skip
        else findExt type data size fuel (skip + (antohs data (skip + 2) + 4))
      else 0

def findTlsExtOffset (type : ℕ) (data : List UInt8) (skip : ℕ) : ℕ :=
  if data.length ≤ skip + 2 then 0
  else
    let extLen := antohs data skip
    let skip := skip + 2
    let size := if extLen < data.length - skip then extLen + skip else data.length
    findExt type data size size skip

def findExtBlock (data : List UInt8) : ℕ :=
  if data.length < 44 then 0
  else
    let sidLen := (byteOf data 43).toNat
    if data.length < 44 + sidLen + 2 then 0
    else
      let cipLen := antohs data (44 + sidLen)
      let skip := 44 + sidLen + 2 + cipLen + 2
      if data.length < skip then 0 else skip

/-- The place and the length of the server name. With an empty name the place is set and the
source returns zero. -/
def parseTls (buffer : List UInt8) : Option (ℕ × ℕ) :=
  if !isTlsChello buffer then none
  else
    let skip := findExtBlock buffer
    if skip = 0 then none
    else
      let sniOffs := findTlsExtOffset 0 buffer skip
      if sniOffs = 0 ∨ buffer.length ≤ sniOffs + 12 then none
      else
        let len := antohs buffer (sniOffs + 7)
        if buffer.length < sniOffs + 9 + len then none else some (sniOffs + 9, len)

/-! ### HTTP -/

def isSpace (c : UInt8) : Bool := c == 32 || (9 ≤ c && c ≤ 13)

def isDigit (c : UInt8) : Bool := 48 ≤ c && c ≤ 57

def toLower (c : UInt8) : UInt8 := if 65 ≤ c ∧ c ≤ 90 then c + 32 else c

def methods : List (List UInt8) :=
  [ascii "HEAD", ascii "GET", ascii "POST", ascii "PUT", ascii "DELETE", ascii "OPTIONS",
    ascii "CONNECT", ascii "TRACE", ascii "PATCH"]

/-- The bounds of the first byte are those of a signed `char`. -/
def isHttp (buffer : List UInt8) : Bool :=
  16 ≤ buffer.length && byteOf buffer 0 ≤ 84 && 67 ≤ byteOf buffer 0 &&
    methods.any (List.isPrefixOf · buffer)

/-- `strncasestr`: the first byte as it is, the others in either case. -/
def findCase (pattern : List UInt8) : List UInt8 → Option ℕ
  | [] => none
  | c :: rest =>
      if pattern.head? = some c ∧
          ((c :: rest).take pattern.length).map toLower = pattern.map toLower then some 0
      else (findCase pattern rest).map (· + 1)

def hostHeader : List UInt8 := 10 :: ascii "Host:"

/-- Go back over white space; the result is behind the last other byte. -/
def backOverSpace (buffer : List UInt8) : ℕ → ℕ
  | 0 => 0
  | l + 1 => if isSpace (byteOf buffer l) then backOverSpace buffer l else l + 1

/-- Go back over digits; the result is the last other byte. -/
def backOverDigits (buffer : List UInt8) : ℕ → ℕ
  | 0 => 0
  | l + 1 => if isDigit (byteOf buffer l) then backOverDigits buffer l else l

/-- The place and the length of the host, without the port, where no port is asked for. The
length of an empty header is negative. The byte before the end of the line is not looked at
when the port is searched. -/
def parseHttp (buffer : List UInt8) : Option (ℕ × ℤ) :=
  if !isHttp buffer then none
  else do
    let header ← findCase hostHeader buffer
    let host := header + 6 + ((buffer.drop (header + 6)).takeWhile (· == 32)).length
    let newline ← find [10] (buffer.drop host)
    let lEnd := backOverSpace buffer (host + newline)
    let colon := backOverDigits buffer (lEnd - 1)
    let hEnd := if byteOf buffer colon = 58 then colon else lEnd
    if byteOf buffer host = 91 then
      if byteOf buffer (hEnd - 1) = 93 then some (host + 1, (hEnd : ℤ) - 1 - (host + 1)) else none
    else some (host, (hEnd : ℤ) - host)

/-- The last colon before a place. -/
def colonBefore (buffer : List UInt8) : ℕ → ℕ
  | 0 => 0
  | l + 1 => if byteOf buffer l = 58 then l else colonBefore buffer l

def changeAt (f : UInt8 → UInt8) (i : ℕ) (buffer : List UInt8) : List UInt8 :=
  write i [f (byteOf buffer i)] buffer

/-- `MH_HMIX` -/
def mixHeader (par : ℕ) (buffer : List UInt8) : List UInt8 :=
  changeAt toUpper (par + 3) (changeAt toUpper (par + 1) (changeAt toLower par buffer))

/-- `MH_DMIX` -/
def mixHost (host : ℕ) (hlen : ℤ) (buffer : List UInt8) : List UInt8 :=
  buffer.mapIdx fun k c =>
    if host ≤ k ∧ (k : ℤ) < host + hlen ∧ (k - host) % 2 = 0 then toUpper c else c

/-- `MH_SPACE`: the host goes up to the colon, and tabs follow it. A negative length would go
into `memmove` as a size; there is no result then. -/
def moveHost (par host : ℕ) (hlen : ℤ) (buffer : List UInt8) : Option (List UInt8) :=
  let stop := (host + hlen).toNat
  let hlen : ℤ := stop + ((buffer.drop stop).takeWhile (!isSpace ·)).length - host
  if hlen < 0 then none
  else
    let moved := move (par + 5) host hlen.toNat buffer
    some (write (par + 5 + hlen.toNat) (List.replicate (host - (par + 5)) 9) moved)

/-- The bits of the mode are `MH_HMIX`, `MH_SPACE` and `MH_DMIX`. Where no host is found the
buffer stays as it is. -/
def modHttp (buffer : List UInt8) (n m : ℕ) : Option (List UInt8) :=
  match parseHttp (buffer.take n) with
  | none | some (_, 0) => some buffer
  | some (host, hlen) =>
      let par := colonBefore buffer host - 4
      let buffer := if m.testBit 0 then mixHeader par buffer else buffer
      let buffer := if m.testBit 2 then mixHost host hlen buffer else buffer
      if m.testBit 1 then moveHost par host hlen buffer else some buffer

/-! ### Records -/

/-- What is returned, and the buffer. -/
def partTls (buffer : List UInt8) (n : ℕ) (pos : ℤ) : ℕ × List UInt8 :=
  if n < 3 ∨ buffer.length - n < 5 ∨ pos < 0 ∨ (n : ℤ) < pos + 5 then (0, buffer)
  else
    let pos := pos.toNat
    let rSz := antohs buffer 3
    if rSz < pos then (n, buffer)
    else
      let moved := move (5 + pos + 5) (5 + pos) (n - (5 + pos)) buffer
      let headed := write (5 + pos) (buffer.take 3) moved
      (5, write (5 + pos + 3) (toBe (rSz - pos)) (write 3 (toBe pos) headed))

/-- A record in a buffer with room behind it is cut in two. -/
theorem partTls_cut {tag : Tag} {length : ℕ} {first rest lost back : List UInt8}
    (room : lost.length = 5) (within : first.length ≤ length) (small : length < 65536) :
    partTls (tag.bytes ++ (toBe length ++ (first ++ (rest ++ (lost ++ back)))))
        (5 + first.length + rest.length) first.length =
      (5, tag.bytes ++ (toBe first.length ++ (first ++ (tag.bytes ++
        (toBe (length - first.length) ++ (rest ++ back)))))) := by
  obtain ⟨front, front_eq⟩ : ∃ front, front = tag.bytes ++ (toBe length ++ first) := ⟨_, rfl⟩
  have whole : tag.bytes ++ (toBe length ++ (first ++ (rest ++ (lost ++ back)))) =
      front ++ (rest ++ (lost ++ back)) := by simp [front_eq]
  have place : front.length = 5 + first.length := by simp [front_eq]; omega
  have size : antohs (front ++ (rest ++ (lost ++ back))) 3 = length := by
    rw [← whole]
    exact ofBe_toBe small
  have taken : (front ++ (rest ++ (lost ++ back))).take 3 = tag.bytes := by
    rw [← whole]
    rfl
  -- The gap that the move leaves, of five bytes, for the new header.
  obtain ⟨gap, gap', opened, three, two⟩ : ∃ gap gap' : List UInt8,
      (rest ++ lost).take 5 = gap ++ gap' ∧ gap.length = 3 ∧ gap'.length = 2 := by
    refine ⟨((rest ++ lost).take 5).take 3, ((rest ++ lost).take 5).drop 3,
      (List.take_append_drop _ _).symm, ?_, ?_⟩ <;> simp <;> omega
  have moved : move (5 + first.length + 5) (5 + first.length) rest.length
      (front ++ (rest ++ (lost ++ back))) = front ++ (gap ++ (gap' ++ (rest ++ back))) := by
    rw [move_forward place rfl room, opened, List.append_assoc]
  have headed : write (5 + first.length) tag.bytes (front ++ (gap ++ (gap' ++ (rest ++ back)))) =
      front ++ (tag.bytes ++ (gap' ++ (rest ++ back))) := write_cut place three
  have lengthed : write 3 (toBe first.length) (front ++ (tag.bytes ++ (gap' ++ (rest ++ back)))) =
      tag.bytes ++ (toBe first.length ++ (first ++ (tag.bytes ++ (gap' ++ (rest ++ back))))) := by
    rw [front_eq, List.append_assoc, List.append_assoc]
    exact write_cut rfl rfl
  have done : write (5 + first.length + 3) (toBe (length - first.length))
      ((tag.bytes ++ (toBe first.length ++ (first ++ tag.bytes))) ++ (gap' ++ (rest ++ back))) =
        (tag.bytes ++ (toBe first.length ++ (first ++ tag.bytes))) ++
          (toBe (length - first.length) ++ (rest ++ back)) :=
    write_cut (by simp; omega) two
  have fits : ¬ (5 + first.length + rest.length < 3 ∨
      (front ++ (rest ++ (lost ++ back))).length - (5 + first.length + rest.length) < 5 ∨
      (first.length : ℤ) < 0 ∨
      ((5 + first.length + rest.length : ℕ) : ℤ) < (first.length : ℤ) + 5) := by
    simp [place, room]
    omega
  rw [whole, partTls, if_neg fits, size]
  dsimp only
  rw [Int.toNat_natCast, if_neg (by omega), taken,
    show 5 + first.length + rest.length - (5 + first.length) = rest.length by omega, moved,
    headed, lengthed]
  simpa using done

end ZonDpi.Byedpi
