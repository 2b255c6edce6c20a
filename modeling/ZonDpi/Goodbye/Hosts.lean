import ZonDpi.Goodbye.Http

/-!
The names that decide whether GoodbyeDPI touches a connection (`blackwhitelist.c` and
`extract_sni` in `goodbyedpi.c`).

A name is on the list if one of the files has a line with the name or with a domain that it
belongs to (`checkHostname_iff`). The name itself is the value of a `Host` header or stands in
a TLS ClientHello, where `extract_sni` looks for the bytes of a `server_name` extension
(`extractSni_eq_some_iff`).
-/

namespace ZonDpi.Goodbye

open ByteText

/-! ### The list of hosts -/

def dot : UInt8 := 46

/-- The bytes before the first NUL. -/
def cString (bytes : List UInt8) : List UInt8 := bytes.takeWhile (· ≠ 0)

/-- What a program on Windows reads of a file that it has opened as a text: a Ctrl-Z ends it.
That CR LF come as LF makes no difference to lines that are cut at either. -/
def textFile (file : List UInt8) : List UInt8 := file.takeWhile (· ≠ 26)

/-- What `getline` reads one after the other. -/
def getlines : List UInt8 → List (List UInt8)
  | [] => []
  | c :: rest =>
    if c = lf then [c] :: getlines rest
    else match getlines rest with
      | [] => [[c]]
      | line :: others => (c :: line) :: others

/-- `line[strcspn(line, "\r\n")] = '\0'` -/
def hostOfLine (line : List UInt8) : List UInt8 := line.takeWhile fun c => c ≠ cr ∧ c ≠ lf ∧ c ≠ 0

def addHostname (list : List (List UInt8)) (host : List UInt8) : List (List UInt8) :=
  if host ∈ list then list else host :: list

def loadLine (list : List (List UInt8)) (line : List UInt8) : List (List UInt8) :=
  let host := hostOfLine line
  if host.length > hostMaxLen then list
  else if host.length < 2 then list
  else addHostname list host

/-- `blackwhitelist_load_list`; a file that cannot be opened is `none`, and so is `FALSE`. -/
def blackwhitelistLoadList (list : List (List UInt8)) (file : Option (List UInt8)) :
    Option (List (List UInt8)) := do
  let list := (getlines (textFile (← file))).foldl loadLine list
  if list = [] then none else some list

/-- The files of all `--blacklist` options; the program ends at the first failure. -/
def loadLists (files : List (Option (List UInt8))) : Option (List (List UInt8)) :=
  files.foldlM blackwhitelistLoadList []

/-- The loop over the dots of the name. -/
def checkParents (list : List (List UInt8)) : List UInt8 → Bool
  | [] => false
  | c :: rest => if c = dot ∧ rest ∈ list then true else checkParents list rest

/-- `blackwhitelist_check_hostname` -/
def checkHostname (list : List (List UInt8)) (host : List UInt8) : Bool :=
  if host.length > hostMaxLen then false
  else if cString host ∈ list then true
  else checkParents list (cString host)

/-- The name itself, or a domain above it. -/
def Covers (domain host : List UInt8) : Prop := domain = host ∨ ∃ sub, host = sub ++ dot :: domain

/-- A line of one of the files. -/
def InFiles (files : List (Option (List UInt8))) (host : List UInt8) : Prop :=
  ∃ file, some file ∈ files ∧ ∃ line ∈ getlines (textFile file), hostOfLine line = host

theorem mem_addHostname {list : List (List UInt8)} {host other : List UInt8} :
    other ∈ addHostname list host ↔ other = host ∨ other ∈ list := by
  unfold addHostname
  split_ifs with present
  · constructor
    · exact .inr
    · rintro (rfl | old)
      · exact present
      · exact old
  · exact List.mem_cons

theorem mem_loadLine {list : List (List UInt8)} {line host : List UInt8} :
    host ∈ loadLine list line ↔
      (hostOfLine line = host ∧ 2 ≤ host.length ∧ host.length ≤ hostMaxLen) ∨ host ∈ list := by
  unfold loadLine
  dsimp only
  split_ifs with long short
  · constructor
    · exact .inr
    · rintro (⟨rfl, -, fits⟩ | old)
      · omega
      · exact old
  · constructor
    · exact .inr
    · rintro (⟨rfl, two, -⟩ | old)
      · omega
      · exact old
  · rw [mem_addHostname]
    constructor
    · rintro (rfl | old)
      · exact .inl ⟨rfl, by omega, by omega⟩
      · exact .inr old
    · rintro (⟨rfl, -, -⟩ | old)
      · exact .inl rfl
      · exact .inr old

theorem mem_foldl_loadLine {lines list : List (List UInt8)} {host : List UInt8} :
    host ∈ lines.foldl loadLine list ↔
      ((∃ line ∈ lines, hostOfLine line = host) ∧ 2 ≤ host.length ∧ host.length ≤ hostMaxLen) ∨
        host ∈ list := by
  induction lines generalizing list with
  | nil => simp
  | cons line lines ih =>
      rw [List.foldl_cons, ih, mem_loadLine]
      simp only [List.mem_cons, exists_eq_or_imp]
      rw [or_and_right, or_assoc, or_left_comm]

theorem mem_loadLists {files : List (Option (List UInt8))} {start list : List (List UInt8)}
    {host : List UInt8} (loaded : files.foldlM blackwhitelistLoadList start = some list) :
    host ∈ list ↔ (InFiles files host ∧ 2 ≤ host.length ∧ host.length ≤ hostMaxLen) ∨
      host ∈ start := by
  induction files generalizing start with
  | nil =>
      cases loaded
      simp [InFiles]
  | cons file files ih =>
      rw [List.foldlM_cons, Option.bind_eq_bind, Option.bind_eq_some_iff] at loaded
      obtain ⟨middle, first, others⟩ := loaded
      unfold blackwhitelistLoadList at first
      rw [Option.bind_eq_bind, Option.bind_eq_some_iff] at first
      obtain ⟨bytes, rfl, filled⟩ := first
      dsimp only at filled
      split_ifs at filled
      cases filled
      rw [ih others, mem_foldl_loadLine]
      have split : InFiles (some bytes :: files) host ↔
          (∃ line ∈ getlines (textFile bytes), hostOfLine line = host) ∨ InFiles files host := by
        constructor
        · rintro ⟨file, member, line⟩
          cases member with
          | head => exact .inl line
          | tail _ member => exact .inr ⟨file, member, line⟩
        · rintro (line | ⟨file, member, line⟩)
          · exact ⟨bytes, by simp, line⟩
          · exact ⟨file, by simp [member], line⟩
      rw [split, or_and_right, or_assoc, or_left_comm]

theorem checkParents_iff {list : List (List UInt8)} {text : List UInt8} :
    checkParents list text = true ↔ ∃ domain ∈ list, ∃ sub, text = sub ++ dot :: domain := by
  induction text with
  | nil => simp [checkParents]
  | cons c rest ih =>
      unfold checkParents
      split_ifs with here
      · obtain ⟨rfl, member⟩ := here
        exact ⟨fun _ => ⟨rest, member, [], rfl⟩, fun _ => rfl⟩
      · rw [ih]
        constructor
        · rintro ⟨domain, member, sub, rfl⟩
          exact ⟨domain, member, c :: sub, rfl⟩
        · rintro ⟨domain, member, sub, cut⟩
          cases sub with
          | nil =>
              obtain ⟨rfl, rfl⟩ := List.cons.inj cut
              exact absurd ⟨rfl, member⟩ here
          | cons first sub => exact ⟨domain, member, sub, (List.cons.inj cut).2⟩

/-- A host is on the list exactly if a line of a file is the host itself or a domain above it,
at the border of a label, and no shorter than two bytes. -/
theorem checkHostname_iff {files : List (Option (List UInt8))} {list : List (List UInt8)}
    {host : List UInt8} (loaded : loadLists files = some list) (fits : host.length ≤ hostMaxLen) :
    checkHostname list host = true ↔
      ∃ domain, Covers domain (cString host) ∧ InFiles files domain ∧ 2 ≤ domain.length := by
  have short : (cString host).length ≤ hostMaxLen :=
    (List.takeWhile_prefix _).length_le.trans fits
  have entries : ∀ domain, domain.length ≤ hostMaxLen →
      (domain ∈ list ↔ InFiles files domain ∧ 2 ≤ domain.length) := by
    intro domain below
    rw [mem_loadLists loaded]
    simp [below]
  unfold checkHostname
  rw [if_neg (by omega)]
  split_ifs with itself
  · refine ⟨fun _ => ⟨cString host, .inl rfl, (entries _ short).mp itself⟩, fun _ => rfl⟩
  · rw [checkParents_iff]
    constructor
    · rintro ⟨domain, member, sub, cut⟩
      have below := congrArg List.length cut
      rw [List.length_append, List.length_cons] at below
      exact ⟨domain, .inr ⟨sub, cut⟩, (entries domain (by omega)).mp member⟩
    · rintro ⟨domain, rfl | ⟨sub, cut⟩, listed⟩
      · exact absurd ((entries _ short).mpr listed) itself
      · have below := congrArg List.length cut
        rw [List.length_append, List.length_cons] at below
        exact ⟨domain, (entries domain (by omega)).mpr listed, sub, cut⟩

/-- A host below a domain of the list. -/
theorem checkHostname_iff_www :
    loadLists [some (ascii "a.org" ++ crlf ++ ascii "b.org")] =
        some [ascii "b.org", ascii "a.org"] ∧
      ∃ domain, Covers domain (cString (ascii "www.a.org")) ∧
        InFiles [some (ascii "a.org" ++ crlf ++ ascii "b.org")] domain ∧ 2 ≤ domain.length := by
  have loaded : loadLists [some (ascii "a.org" ++ crlf ++ ascii "b.org")] =
      some [ascii "b.org", ascii "a.org"] := by decide
  exact ⟨loaded, (checkHostname_iff loaded (by decide)).mp (by decide)⟩

/-! ### The name in a ClientHello -/

def byteAt (bytes : List UInt8) (i : Nat) : Nat := (bytes.getD i 0).toNat

/-- The header of a `server_name` extension with one name. -/
def sniHere (bytes : List UInt8) (ptr : Nat) : Bool :=
  byteAt bytes ptr = 0 ∧ byteAt bytes (ptr + 1) = 0 ∧ byteAt bytes (ptr + 2) = 0 ∧
    byteAt bytes (ptr + 4) = 0 ∧ byteAt bytes (ptr + 6) = 0 ∧ byteAt bytes (ptr + 7) = 0 ∧
    byteAt bytes (ptr + 3) = byteAt bytes (ptr + 5) + 2 ∧
    byteAt bytes (ptr + 5) = byteAt bytes (ptr + 8) + 3

def hostByte (c : UInt8) : Bool := (48 ≤ c ∧ c ≤ 57) ∨ (97 ≤ c ∧ c ≤ 122) ∨ c = dot ∨ c = 45

/-- `extract_sni`: the place and the length of the name. The first header decides. The bound is
one too large, so that the last byte of a name may be the one behind the packet. -/
def extractSni (packet : List UInt8) (behind : UInt8) : Option (Nat × Nat) := do
  let ptr ← (List.range (packet.length - 8)).find? (sniHere packet)
  let hnlen := byteAt packet (ptr + 8)
  if ptr + 8 + hnlen > packet.length then none
  else if hnlen < 3 ∨ hnlen > hostMaxLen then none
  else if (((packet ++ [behind]).drop (ptr + 9)).take hnlen).all hostByte then
    some (ptr + 9, hnlen)
  else none

/-- A `server_name` extension with one name, up to the name. -/
def sniHeader (length : Nat) : List UInt8 :=
  [0, 0, 0, UInt8.ofNat (length + 5), 0, UInt8.ofNat (length + 3), 0, 0, UInt8.ofNat length]

theorem byteAt_append (front back : List UInt8) (k : Nat) :
    byteAt (front ++ back) (front.length + k) = byteAt back k := by
  simp only [byteAt, List.getD_eq_getElem?_getD]
  rw [List.getElem?_append_right (by omega), Nat.add_sub_cancel_left]

theorem sniHere_append (front back : List UInt8) :
    sniHere (front ++ back) front.length = sniHere back 0 := by
  have first := byteAt_append front back 0
  unfold sniHere
  simp only [byteAt_append, zero_add, Nat.add_zero] at first ⊢
  rw [first]

/-- The test reads a header of nine bytes. -/
theorem sniHere_header {header : List UInt8} (rest : List UInt8) (nine : header.length = 9) :
    sniHere (header ++ rest) 0 = true ↔ ∃ length ≤ 250, header = sniHeader length := by
  match header, nine with
  | [a, b, c, d, e, f, g, h, i], _ =>
    have whole : sniHere ([a, b, c, d, e, f, g, h, i] ++ rest) 0 = true ↔
        a.toNat = 0 ∧ b.toNat = 0 ∧ c.toNat = 0 ∧ e.toNat = 0 ∧ g.toNat = 0 ∧ h.toNat = 0 ∧
          d.toNat = f.toNat + 2 ∧ f.toNat = i.toNat + 3 := by
      simp [sniHere, byteAt]
    rw [whole]
    constructor
    · rintro ⟨zeroA, zeroB, zeroC, zeroE, zeroG, zeroH, extension, list⟩
      have small := d.toNat_lt
      have eq_of_toNat : ∀ {x : UInt8} {n : Nat}, x.toNat = n → x = UInt8.ofNat n := by
        rintro x _ rfl
        exact x.ofNat_toNat.symm
      refine ⟨i.toNat, by omega, ?_⟩
      rw [sniHeader, eq_of_toNat zeroA, eq_of_toNat zeroB, eq_of_toNat zeroC, eq_of_toNat zeroE,
        eq_of_toNat zeroG, eq_of_toNat zeroH, ← eq_of_toNat list,
        ← eq_of_toNat (show d.toNat = i.toNat + 5 by omega), UInt8.ofNat_toNat]
      rfl
    · rintro ⟨length, small, same⟩
      simp only [sniHeader, List.cons.injEq, and_true] at same
      obtain ⟨rfl, rfl, rfl, rfl, rfl, rfl, rfl, rfl, rfl⟩ := same
      simp only [UInt8.toNat_ofNat']
      refine ⟨rfl, rfl, rfl, rfl, rfl, rfl, ?_, ?_⟩ <;> omega

/-- A header that is found stands in the packet. -/
theorem sniHere_iff {bytes : List UInt8} {ptr : Nat} (inside : ptr + 8 < bytes.length) :
    sniHere bytes ptr = true ↔ ∃ front length back, front.length = ptr ∧ length ≤ 250 ∧
      bytes = front ++ (sniHeader length ++ back) := by
  have cut : bytes = bytes.take ptr ++ ((bytes.drop ptr).take 9 ++ (bytes.drop ptr).drop 9) := by
    simp
  have place : (bytes.take ptr).length = ptr := by
    rw [List.length_take]
    omega
  have nine : ((bytes.drop ptr).take 9).length = 9 := by
    rw [List.length_take, List.length_drop]
    omega
  constructor
  · intro here
    have moved :=
      sniHere_append (bytes.take ptr) ((bytes.drop ptr).take 9 ++ (bytes.drop ptr).drop 9)
    rw [← cut, place] at moved
    rw [moved, sniHere_header _ nine] at here
    obtain ⟨length, small, same⟩ := here
    exact ⟨bytes.take ptr, length, (bytes.drop ptr).drop 9, place, small, same ▸ cut⟩
  · rintro ⟨front, length, back, rfl, small, rfl⟩
    rw [sniHere_append, sniHere_header _ rfl]
    exact ⟨length, small, rfl⟩

theorem byteAt_header (front back : List UInt8) {length : Nat} (small : length ≤ 250) :
    byteAt (front ++ (sniHeader length ++ back)) (front.length + 8) = length := by
  rw [byteAt_append]
  simp [byteAt, sniHeader]
  omega

/-- What is found is the name of the first extension of this form, with bytes of a name in small
letters; only the byte behind the packet may be read besides. -/
theorem extractSni_eq_some_iff {packet : List UInt8} {behind : UInt8} {place length : Nat} :
    extractSni packet behind = some (place, length) ↔
      ∃ front name back, packet ++ [behind] = front ++ (sniHeader name.length ++ (name ++ back)) ∧
        place = front.length + 9 ∧ length = name.length ∧ 3 ≤ length ∧ length ≤ 250 ∧
        (∀ c ∈ name, hostByte c = true) ∧ ∀ i < front.length, sniHere packet i = false := by
  unfold extractSni
  rw [Option.bind_eq_bind, Option.bind_eq_some_iff]
  constructor
  · rintro ⟨ptr, first, found⟩
    rw [List.find?_range_eq_some] at first
    obtain ⟨here, member, earlier⟩ := first
    rw [List.mem_range] at member
    obtain ⟨front, hnlen, back, rfl, small, rfl⟩ := (sniHere_iff (by omega)).mp here
    dsimp only at found
    rw [byteAt_header front back small] at found
    split_ifs at found with long range bytes
    cases found
    have nine : (front ++ sniHeader length).length = front.length + 9 := by
      simp [sniHeader]
    rw [← List.append_assoc, List.append_assoc, List.drop_left' nine] at bytes
    have enough : length ≤ (back ++ [behind]).length := by
      simp [sniHeader] at long ⊢
      omega
    have whole : ((back ++ [behind]).take length).length = length := by
      rw [List.length_take]
      omega
    refine ⟨front, (back ++ [behind]).take length, (back ++ [behind]).drop length, ?_, rfl,
      whole.symm, by omega, small, List.all_eq_true.mp bytes, ?_⟩
    · rw [whole, List.take_append_drop]
      simp
    · simpa using earlier
  · rintro ⟨front, name, back, same, rfl, rfl, three, small, bytes, earlier⟩
    have some : name ++ back ≠ [] := by
      rintro none
      rw [(List.append_eq_nil_iff.mp none).1] at three
      cases three
    obtain rfl : packet = front ++ (sniHeader name.length ++ (name ++ back).dropLast) := by
      have shorter := congrArg List.dropLast same
      rwa [List.dropLast_concat, List.dropLast_append_of_ne_nil (by simp [some]),
        List.dropLast_append_of_ne_nil some] at shorter
    have room : name.length + back.length - 1 = (name ++ back).dropLast.length := by simp
    have inside : front.length + 8 <
        (front ++ (sniHeader name.length ++ (name ++ back).dropLast)).length := by
      simp [sniHeader]
    have nine : (front ++ sniHeader name.length).length = front.length + 9 := by
      simp [sniHeader]
    have read : ((front ++ (sniHeader name.length ++ (name ++ back).dropLast) ++ [behind]).drop
        (front.length + 9)).take name.length = name := by
      rw [same, ← List.append_assoc, List.drop_left' nine, List.take_left]
    refine ⟨front.length, ?_, ?_⟩
    · rw [List.find?_range_eq_some]
      refine ⟨(sniHere_iff inside).mpr ⟨front, _, _, rfl, small, rfl⟩, ?_, ?_⟩
      · rw [List.mem_range]
        omega
      · simpa using earlier
    · dsimp only
      rw [byteAt_header _ _ small, read, if_neg, if_neg, if_pos (List.all_eq_true.mpr bytes)]
      · simp [hostMaxLen]
        omega
      · simp [sniHeader]
        omega

end ZonDpi.Goodbye
