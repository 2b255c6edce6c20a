import ZonDpi.Engine.GoodbyeOptions
import ZonDpi.Lib.ByteText

/-!
What GoodbyeDPI does to an HTTP request (`goodbyedpi.c`).

The packet is changed in place and keeps its length: letters change their case, and a blank
is moved from behind `Host:` to behind the method or to the end of the `User-Agent` header.
A server that reads the request line by line finds the same request (`editHost_lines`): the
lines stand as before, and all but two of them byte for byte. What is done to these two is
`EditedRequest`.
-/

namespace ZonDpi.Goodbye

open ByteText ZonDpi.Engine

def ascii (text : String) : List UInt8 := text.toList.map fun c => UInt8.ofNat c.toNat

def blank : UInt8 := 32

/-- `HOST_MAXLEN` -/
def hostMaxLen : Nat := 253

def httpHostFind : List UInt8 := crlf ++ ascii "Host: "

def httpHostReplace : List UInt8 := crlf ++ ascii "hoSt: "

def httpUseragentFind : List UInt8 := crlf ++ ascii "User-Agent: "

def httpMethods : List (List UInt8) :=
  [ascii "GET ", ascii "HEAD ", ascii "POST ", ascii "PUT ", ascii "DELETE ", ascii "CONNECT ",
    ascii "OPTIONS "]

/-! ### The functions of the source -/

/-- Where a header stands in a packet. -/
structure Header where
  nameAt : Nat
  valueAt : Nat
  valueLen : Nat
deriving DecidableEq, Repr

def findHeaderAndGetInfo (packet name : List UInt8) : Option Header := do
  let nameAt ← find name packet
  let valueAt := nameAt + name.length
  let valueLen ← find crlf (packet.drop valueAt)
  if 3 ≤ valueLen ∧ valueLen ≤ hostMaxLen then some ⟨nameAt, valueAt, valueLen⟩ else none

/-- Where the method of a request ends, before its blank. With a fragment size of one or two
the packet may begin inside the method. -/
def findHttpMethodEnd (packet : List UInt8) (httpFrag : Nat) : Option Nat :=
  httpMethods.findSome? fun method =>
    if method <+: packet then some (method.length - 1)
    else if (httpFrag = 1 ∨ httpFrag = 2) ∧ method.drop httpFrag <+: packet then
      some (method.length - httpFrag - 1)
    else none

def toUpper (c : UInt8) : UInt8 := if 97 ≤ c ∧ c ≤ 122 then c - 32 else c

def mixCase (text : List UInt8) : List UInt8 :=
  text.mapIdx fun i c => if i % 2 = 1 then toUpper c else c

/-- The blank behind `Host:` goes to the end of the `User-Agent` header. -/
def moveSpace (hostAt : Nat) (agent : Header) (packet : List UInt8) : List UInt8 :=
  let agentEnd := agent.valueAt + agent.valueLen
  if agent.valueAt > hostAt then
    write (agentEnd - 1) [blank] (move (hostAt - 1) hostAt (agentEnd - hostAt) packet)
  else
    write agentEnd [blank] (move (agentEnd + 1) agentEnd (hostAt - 1 - agentEnd) packet)

/-- `do_host_mixedcase` and `do_host`. -/
def recase (v : GoodbyeSettings) (host : Header) (packet : List UInt8) : List UInt8 :=
  let packet :=
    if .doHostMixedcase ∈ v.flags then
      write host.valueAt (mixCase ((packet.drop host.valueAt).take host.valueLen)) packet
    else packet
  if .doHost ∈ v.flags then write host.nameAt httpHostReplace packet else packet

/-- `do_additional_space` and `do_host_removespace`. -/
def respace (v : GoodbyeSettings) (hostAt : Nat) (packet : List UInt8) : List UInt8 :=
  let httpFrag := if .doFragmentHttp ∈ v.flags then v.httpFragmentSize else 0
  if .doAdditionalSpace ∈ v.flags ∧ .doHostRemovespace ∈ v.flags then
    match findHttpMethodEnd packet httpFrag with
    | some methodEnd => move (methodEnd + 1) methodEnd (hostAt - methodEnd - 1) packet
    | none => packet
  else if .doHostRemovespace ∈ v.flags then
    match findHeaderAndGetInfo packet httpUseragentFind with
    | some agent => if 0 < agent.valueLen then moveSpace hostAt agent packet else packet
    | none => packet
  else packet

/-- The changes to a request whose `Host` header has been found. -/
def editHost (v : GoodbyeSettings) (host : Header) (packet : List UInt8) : List UInt8 :=
  respace v host.valueAt (recase v host packet)

/-! ### Lines that differ -/

/-- The same letter, perhaps in the other case. -/
def SameLetter (c d : UInt8) : Prop := toUpper c = toUpper d

/-- The ways in which `Host:` may be written afterwards. -/
def hostNames : List (List UInt8) := [ascii "Host:", ascii "hoSt:"]

/-- What may become of the lines of a request. In the `Host` line letters may change their
case. If the line loses its blank, one other line gets it: the first, behind the method, or a
`User-Agent` line, behind its value. -/
inductive EditedRequest : List (List UInt8) → List (List UInt8) → Prop where
  | same (text : List (List UInt8)) : EditedRequest text text
  | recased (front back : List (List UInt8)) {name value value' : List UInt8}
      (spelled : name ∈ hostNames) (letters : List.Forall₂ SameLetter value value') :
      EditedRequest (front ++ (ascii "Host: " ++ value) :: back)
        (front ++ (name ++ blank :: value') :: back)
  /-- with a fragment size of one or two the packet may begin inside the method -/
  | request (front back : List (List UInt8)) {method name value value' : List UInt8} {cut : Nat}
      (line : List UInt8) (known : method ∈ httpMethods) (inside : cut ≤ 2)
      (spelled : name ∈ hostNames) (letters : List.Forall₂ SameLetter value value') :
      EditedRequest ((method.drop cut ++ line) :: front ++ (ascii "Host: " ++ value) :: back)
        ((method.drop cut ++ blank :: line) :: front ++ (name ++ value') :: back)
  | agentBefore (front between back : List (List UInt8)) (agent : List UInt8)
      {name value value' : List UInt8} (spelled : name ∈ hostNames)
      (letters : List.Forall₂ SameLetter value value') :
      EditedRequest
        (front ++ (ascii "User-Agent: " ++ agent) :: between ++ (ascii "Host: " ++ value) :: back)
        (front ++ (ascii "User-Agent: " ++ agent ++ [blank]) :: between ++ (name ++ value') :: back)
  | agentBehind (front between back : List (List UInt8)) (agent : List UInt8)
      {name value value' : List UInt8} (spelled : name ∈ hostNames)
      (letters : List.Forall₂ SameLetter value value') :
      EditedRequest
        (front ++ (ascii "Host: " ++ value) :: between ++ (ascii "User-Agent: " ++ agent) :: back)
        (front ++ (name ++ value') :: between ++ (ascii "User-Agent: " ++ agent ++ [blank]) :: back)

/-! ### Case -/

theorem toUpper_toUpper (c : UInt8) : toUpper (toUpper c) = toUpper c := by
  have all : ∀ n < 256, toUpper (toUpper (UInt8.ofNat n)) = toUpper (UInt8.ofNat n) := by
    decide +kernel
  simpa using all c.toNat c.toNat_lt

/-- The bytes of a line break have no case. -/
theorem eq_of_toUpper {c d : UInt8} (same : SameLetter c d) (control : d = cr ∨ d = lf) :
    c = d := by
  have all : ∀ n < 256, (toUpper (UInt8.ofNat n) = cr → UInt8.ofNat n = cr) ∧
      (toUpper (UInt8.ofNat n) = lf → UInt8.ofNat n = lf) := by
    decide +kernel
  have byte := all c.toNat c.toNat_lt
  rw [UInt8.ofNat_toNat] at byte
  obtain rfl | rfl := control
  · exact byte.1 same
  · exact byte.2 same

theorem sameLetter_mixCase (text : List UInt8) : List.Forall₂ SameLetter text (mixCase text) := by
  refine List.forall₂_iff_get.mpr ⟨by simp [mixCase], ?_⟩
  intro i short short'
  simp only [mixCase, List.get_eq_getElem, List.getElem_mapIdx]
  split_ifs
  · exact (toUpper_toUpper _).symm
  · rfl

theorem unbroken_sameLetter {text other : List UInt8} (unbroken : Unbroken text)
    (letters : List.Forall₂ SameLetter text other) : Unbroken other := by
  refine unbroken.related letters ?_ ?_
  · rintro c _ same rfl
    exact eq_of_toUpper same (.inl rfl)
  · rintro c _ same rfl
    exact eq_of_toUpper same (.inr rfl)

/-! ### The shape of a request -/

theorem cut_of_header {packet name : List UInt8} {header : Header}
    (found : findHeaderAndGetInfo packet name = some header) :
    ∃ front value back, packet = front ++ (name ++ (value ++ (crlf ++ back))) ∧
      front.length = header.nameAt ∧ header.valueAt = header.nameAt + name.length ∧
      value.length = header.valueLen ∧ 3 ≤ value.length ∧ Unbroken value := by
  simp only [findHeaderAndGetInfo, Option.bind_eq_bind, Option.bind_eq_some_iff] at found
  obtain ⟨nameAt, named, valueLen, ended, made⟩ := found
  split_ifs at made with range
  cases made
  obtain ⟨front, rest, rfl, start⟩ := cut_of_find named
  rw [List.drop_left' (by rw [List.length_append, start])] at ended
  obtain ⟨value, back, rfl, length⟩ := cut_of_find ended
  refine ⟨front, value, back, by simp, start, rfl, length, by omega, ?_⟩
  rw [List.append_assoc, ← length] at ended
  exact unbroken_of_find ended

/-- A method, or what a fragment size has left of it, has no CR and a blank behind it. -/
theorem cut_of_method {packet : List UInt8} {httpFrag methodEnd : Nat}
    (found : findHttpMethodEnd packet httpFrag = some methodEnd) :
    ∃ method rest, packet = method ++ blank :: rest ∧ method.length = methodEnd ∧
      cr ∉ method ∧ ∃ known ∈ httpMethods, ∃ cut ≤ 2, known.drop cut = method ++ [blank] := by
  have shape : ∀ method ∈ httpMethods, ∀ cut ≤ 2,
      method.drop cut = (method.drop cut).dropLast ++ [blank] ∧
        cr ∉ (method.drop cut).dropLast := by decide
  obtain ⟨method, member, here⟩ := List.exists_of_findSome?_eq_some found
  have cut : ∃ cut ≤ 2, method.drop cut <+: packet ∧ method.length - cut - 1 = methodEnd := by
    split_ifs at here with whole part
    · cases here
      exact ⟨0, by omega, whole, rfl⟩
    · cases here
      exact ⟨httpFrag, by omega, part.2, rfl⟩
  obtain ⟨cut, small, ⟨rest, same⟩, length⟩ := cut
  obtain ⟨ends, solid⟩ := shape method member cut small
  refine ⟨(method.drop cut).dropLast, rest, ?_, by simpa using length, solid, method, member, cut,
    small, ends⟩
  rw [← same, ends]
  simp

/-- The lines around a header. -/
theorem lines_header {front name value back : List UInt8} (solid : cr ∉ name)
    (unbroken : Unbroken value) :
    lines (front ++ (crlf ++ (name ++ (value ++ (crlf ++ back))))) =
      lines front ++ (name ++ value) :: lines back := by
  rw [lines_append, lines_prepend solid, lines_append, unbroken, prepend_append _ (by simp),
    prepend, List.singleton_append]

/-! ### Blanks that move -/

theorem not_mem_blank {bytes : List UInt8} (solid : cr ∉ bytes) : cr ∉ bytes ++ [blank] := by
  have other : cr ≠ blank := by decide
  simp [solid, other]

section Respace

variable {front name value back : List UInt8} {hostAt : Nat}

/-- The blank goes to the request line. -/
theorem lines_move_method {httpFrag methodEnd : Nat}
    (found : findHttpMethodEnd (front ++ (crlf ++ (name ++ blank :: (value ++ (crlf ++ back)))))
      httpFrag = some methodEnd)
    (start : hostAt = front.length + 3 + name.length) (solid : cr ∉ name)
    (unbroken : Unbroken value) :
    ∃ known ∈ httpMethods, ∃ inside ≤ 2, ∃ line others,
      lines front = (known.drop inside ++ line) :: others ∧
      lines (move (methodEnd + 1) methodEnd (hostAt - methodEnd - 1)
        (front ++ (crlf ++ (name ++ blank :: (value ++ (crlf ++ back)))))) =
          (known.drop inside ++ blank :: line) :: others ++ (name ++ value) :: lines back := by
  obtain ⟨method, rest, cut, rfl, noCr, known, member, inside, small, same⟩ := cut_of_method found
  -- the first CR stands behind the method's blank
  obtain ⟨middle, rfl⟩ : ∃ middle, front = (method ++ [blank]) ++ middle := by
    have first : front ++ cr :: (lf :: (name ++ blank :: (value ++ (crlf ++ back)))) =
        (method ++ [blank]) ++ rest := by
      rw [List.append_assoc, List.singleton_append]
      exact cut
    exact before_sign (not_mem_blank noCr) first
  have whole : (method ++ [blank]) ++ middle ++
      (crlf ++ (name ++ blank :: (value ++ (crlf ++ back)))) =
        method ++ (blank :: (middle ++ (crlf ++ name)) ++ blank :: (value ++ (crlf ++ back))) := by
    simp
  have span : hostAt - method.length - 1 = (middle ++ (crlf ++ name)).length + 1 := by
    simp [start, crlf]
    omega
  have twice : cr ∉ method ++ [blank, blank] := by
    simpa using not_mem_blank (not_mem_blank noCr)
  obtain ⟨line, others, first⟩ := List.exists_cons_of_ne_nil (lines_ne_nil middle)
  refine ⟨known, member, inside, small, line, others, ?_, ?_⟩
  · rw [lines_prepend (not_mem_blank noCr), first, same]
    rfl
  · have widened : lines (method ++ [blank, blank] ++ middle) =
        (known.drop inside ++ blank :: line) :: others := by
      rw [lines_prepend twice, first, same]
      simp [prepend]
    rw [whole, span, move_right rfl rfl, ← widened, ← lines_header solid unbroken]
    simp

/-- The `User-Agent` header stands behind the `Host` header, and the blank goes to its end. -/
theorem lines_move_behind {between agent rest : List UInt8} {agentAt : Nat}
    (follows : value ++ (crlf ++ back) =
      between ++ (crlf ++ (ascii "User-Agent: " ++ (agent ++ (crlf ++ rest)))))
    (some : agent ≠ []) (whole : Unbroken agent) (unbroken : Unbroken value) (solid : cr ∉ name)
    (start : hostAt = front.length + 3 + name.length)
    (agentStart : agentAt = hostAt + between.length + 14) :
    ∃ others, lines back = others ++ (ascii "User-Agent: " ++ agent) :: lines rest ∧
      lines (write (agentAt + agent.length - 1) [blank]
        (move (hostAt - 1) hostAt (agentAt + agent.length - hostAt)
          (front ++ (crlf ++ (name ++ blank :: (value ++ (crlf ++ back))))))) =
        lines front ++ (name ++ value) :: others ++
          (ascii "User-Agent: " ++ agent ++ [blank]) :: lines rest := by
  have title : cr ∉ ascii "User-Agent: " := by decide
  -- the lines of both readings of what follows the host's blank
  have both := congrArg lines follows
  rw [lines_append, unbroken, lines_header title whole, List.singleton_append] at both
  obtain ⟨line, others, lineIs⟩ := List.exists_cons_of_ne_nil (lines_ne_nil between)
  rw [lineIs] at both
  obtain ⟨rfl, backLines⟩ := List.cons.inj both
  obtain ⟨agent, last, rfl⟩ := List.eq_nil_or_concat' agent |>.resolve_left some
  refine ⟨others, backLines, ?_⟩
  · have title12 : (ascii "User-Agent: ").length = 12 := by decide
    have cut : front ++ (crlf ++ (name ++ blank :: (value ++ (crlf ++ back)))) =
        (front ++ (crlf ++ name)) ++ (blank ::
          ((between ++ (crlf ++ (ascii "User-Agent: " ++ agent))) ++ [last]) ++
            (crlf ++ rest)) := by
      rw [follows]
      simp
    have dst : (front ++ (crlf ++ name)).length = hostAt - 1 := by
      simp [start, crlf]
      omega
    have src : hostAt = hostAt - 1 + 1 := by omega
    have span : (between ++ (crlf ++ (ascii "User-Agent: " ++ agent))).length + 1 =
        agentAt + (agent ++ [last]).length - hostAt := by
      simp [agentStart, crlf, title12]
      omega
    have place : ((front ++ (crlf ++ name)) ++
        ((between ++ (crlf ++ (ascii "User-Agent: " ++ agent))) ++ [last])).length =
          agentAt + (agent ++ [last]).length - 1 := by
      simp [agentStart, start, crlf, title12]
      omega
    have moved : move (hostAt - 1) hostAt (agentAt + (agent ++ [last]).length - hostAt)
        (front ++ (crlf ++ (name ++ blank :: (value ++ (crlf ++ back))))) =
          ((front ++ (crlf ++ name)) ++
            ((between ++ (crlf ++ (ascii "User-Agent: " ++ agent))) ++ [last])) ++
              ([last] ++ (crlf ++ rest)) := by
      rw [cut]
      nth_rewrite 2 [src]
      rw [move_left dst span]
      simp
    have written := @write_cut _ _ [last] [blank] (crlf ++ rest) _ place rfl
    have ending : ((front ++ (crlf ++ name)) ++
        ((between ++ (crlf ++ (ascii "User-Agent: " ++ agent))) ++ [last])) ++
          ([blank] ++ (crlf ++ rest)) =
        front ++ (crlf ++ (name ++ (between ++ (crlf ++ (ascii "User-Agent: " ++
          ((agent ++ [last] ++ [blank]) ++ (crlf ++ rest))))))) := by
      simp
    rw [moved, written, ending, lines_append, lines_prepend solid,
      lines_header title (whole.concat (by decide)), lineIs]
    simp [prepend]

/-- The `User-Agent` header stands before the `Host` header. -/
theorem lines_move_before {before agent rest behind : List UInt8} {agentEnd : Nat}
    (shape : front = before ++ (crlf ++ (ascii "User-Agent: " ++ behind)))
    (follows : agent ++ (crlf ++ rest) =
      behind ++ (crlf ++ (name ++ blank :: (value ++ (crlf ++ back)))))
    (whole : Unbroken agent) (unbroken : Unbroken value) (solid : cr ∉ name)
    (start : hostAt = front.length + 3 + name.length)
    (agentStops : agentEnd = before.length + 14 + agent.length) :
    ∃ others, lines front = lines before ++ (ascii "User-Agent: " ++ agent) :: others ∧
      lines (write agentEnd [blank] (move (agentEnd + 1) agentEnd (hostAt - 1 - agentEnd)
        (front ++ (crlf ++ (name ++ blank :: (value ++ (crlf ++ back))))))) =
        lines before ++ (ascii "User-Agent: " ++ agent ++ [blank]) :: others ++
          (name ++ value) :: lines back := by
  have title : cr ∉ ascii "User-Agent: " := by decide
  have title12 : (ascii "User-Agent: ").length = 12 := by decide
  -- the first line behind the title is the value
  have both := congrArg lines follows
  rw [lines_append, whole, lines_append, List.singleton_append] at both
  obtain ⟨line, others, lineIs⟩ := List.exists_cons_of_ne_nil (lines_ne_nil behind)
  rw [lineIs] at both
  obtain ⟨rfl, -⟩ := List.cons.inj both
  obtain ⟨tail, tailIs, spaced⟩ : ∃ tail, behind = agent ++ tail ∧
      lines ((agent ++ [blank]) ++ tail) = (agent ++ [blank]) :: others := by
    obtain ⟨-, ⟨same, none⟩ | ⟨more, same, moreLines⟩⟩ := cut_of_lines lineIs
    · refine ⟨[], by simpa using same, ?_⟩
      rw [List.append_nil, whole.concat (by decide), none]
    · refine ⟨crlf ++ more, same, ?_⟩
      rw [lines_append, whole.concat (by decide), moreLines, List.singleton_append]
  obtain ⟨first, items, block⟩ : ∃ first items, tail ++ (crlf ++ name) = first :: items :=
    List.exists_cons_of_ne_nil (by simp [crlf])
  refine ⟨others, ?_, ?_⟩
  · rw [shape, lines_append, lines_prepend title, lineIs, prepend]
  · have size := congrArg List.length block
    simp only [List.length_append, List.length_cons, crlf, List.length_nil] at size
    have stop : (before ++ (crlf ++ (ascii "User-Agent: " ++ agent))).length = agentEnd := by
      simp [agentStops, crlf, title12]
      omega
    have span : items.length + 1 = hostAt - 1 - agentEnd := by
      simp [start, shape, tailIs, agentStops, crlf, title12]
      omega
    have cut : front ++ (crlf ++ (name ++ blank :: (value ++ (crlf ++ back)))) =
        (before ++ (crlf ++ (ascii "User-Agent: " ++ agent))) ++
          (first :: items ++ blank :: (value ++ (crlf ++ back))) := by
      rw [← block, shape, tailIs]
      simp
    have written : write agentEnd [blank] ((before ++ (crlf ++ (ascii "User-Agent: " ++ agent))) ++
        first :: (first :: items ++ (value ++ (crlf ++ back)))) =
          (before ++ (crlf ++ (ascii "User-Agent: " ++ agent))) ++
            ([blank] ++ (first :: items ++ (value ++ (crlf ++ back)))) :=
      @write_cut _ _ [first] [blank] _ _ stop rfl
    have ending : (before ++ (crlf ++ (ascii "User-Agent: " ++ agent))) ++
        ([blank] ++ (first :: items ++ (value ++ (crlf ++ back)))) =
          before ++ (crlf ++ (ascii "User-Agent: " ++ ((agent ++ [blank]) ++ tail ++
            (crlf ++ (name ++ (value ++ (crlf ++ back))))))) := by
      rw [← block]
      simp
    rw [cut, move_right stop span, List.cons_append, written, ending, lines_append,
      lines_prepend title, lines_header solid unbroken, spaced]
    simp [prepend]

theorem titles_differ (spelled : name = ascii "Host:" ∨ name = ascii "hoSt:") :
    ¬ cr :: lf :: (name ++ [blank]) <+: cr :: lf :: ascii "User-Agent: " ∧
      ¬ cr :: lf :: ascii "User-Agent: " <+: cr :: lf :: (name ++ [blank]) := by
  rcases spelled with rfl | rfl <;> decide

theorem solid_name (spelled : name = ascii "Host:" ∨ name = ascii "hoSt:") :
    cr ∉ lf :: (name ++ [blank]) ∧ cr ∉ name ∧ name.length = 5 := by
  rcases spelled with rfl | rfl <;> decide

/-- The `User-Agent` line gets the blank, wherever it stands. -/
theorem lines_moveSpace {agent : Header} {original : List UInt8}
    (found : findHeaderAndGetInfo (front ++ (crlf ++ (name ++ blank :: (value ++ (crlf ++ back)))))
      httpUseragentFind = some agent)
    (spelled : name = ascii "Host:" ∨ name = ascii "hoSt:") (unbroken : Unbroken value)
    (letters : List.Forall₂ SameLetter original value) (start : hostAt = front.length + 8) :
    EditedRequest (lines front ++ (ascii "Host: " ++ original) :: lines back)
      (lines (moveSpace hostAt agent
        (front ++ (crlf ++ (name ++ blank :: (value ++ (crlf ++ back))))))) := by
  obtain ⟨solidTitle, solid, five⟩ := solid_name spelled
  have named : name ∈ hostNames := by simpa [hostNames] using spelled
  have start' : hostAt = front.length + 3 + name.length := by omega
  obtain ⟨before, value', rest, cut, nameStart, valueStart, length, three, whole⟩ :=
    cut_of_header found
  have sameText : front ++ (cr :: lf :: (name ++ [blank]) ++ (value ++ (crlf ++ back))) =
      before ++ (cr :: lf :: ascii "User-Agent: " ++ (value' ++ (crlf ++ rest))) := by
    simpa [crlf, httpUseragentFind] using cut
  have title : cr ∉ lf :: ascii "User-Agent: " := by decide
  have title12 : (ascii "User-Agent: ").length = 12 := by decide
  have title14 : httpUseragentFind.length = 14 := by decide
  obtain ⟨differ, differ'⟩ := titles_differ spelled
  unfold moveSpace
  dsimp only
  rw [← length]
  obtain ⟨between, rfl⟩ | ⟨behind, rfl⟩ := apart solidTitle title differ differ' sameText
  · have follows : value ++ (crlf ++ back) =
        between ++ (crlf ++ (ascii "User-Agent: " ++ (value' ++ (crlf ++ rest)))) := by
      simpa [crlf] using sameText
    have some : value' ≠ [] := by
      rintro rfl
      cases three
    have agentStart : agent.valueAt = hostAt + between.length + 14 := by
      simp at nameStart
      omega
    rw [if_pos (by omega)]
    obtain ⟨others, backLines, same⟩ :=
      lines_move_behind follows some whole unbroken solid start' agentStart
    rw [same, backLines]
    simpa using EditedRequest.agentBehind (lines front) others (lines rest) value' named letters
  · have follows : value' ++ (crlf ++ rest) =
        behind ++ (crlf ++ (name ++ blank :: (value ++ (crlf ++ back)))) := by
      simpa [crlf] using sameText.symm
    have agentStops : agent.valueAt + value'.length = before.length + 14 + value'.length := by
      omega
    rw [if_neg (by simp [start, title12]; omega)]
    obtain ⟨others, frontLines, same⟩ :=
      lines_move_before (by simp [crlf]) follows whole unbroken solid start' agentStops
    rw [same, frontLines]
    exact .agentBefore _ _ _ _ named letters

/-- Wherever a blank goes, only the request line or a `User-Agent` line gets one. -/
theorem lines_respace (v : GoodbyeSettings) {original : List UInt8}
    (spelled : name = ascii "Host:" ∨ name = ascii "hoSt:") (unbroken : Unbroken value)
    (letters : List.Forall₂ SameLetter original value) (start : hostAt = front.length + 8) :
    EditedRequest (lines front ++ (ascii "Host: " ++ original) :: lines back)
      (lines (respace v hostAt
        (front ++ (crlf ++ (name ++ blank :: (value ++ (crlf ++ back))))))) := by
  obtain ⟨-, solid, five⟩ := solid_name spelled
  have named : name ∈ hostNames := by simpa [hostNames] using spelled
  have start' : hostAt = front.length + 3 + name.length := by omega
  have unchanged : EditedRequest (lines front ++ (ascii "Host: " ++ original) :: lines back)
      (lines (front ++ (crlf ++ (name ++ blank :: (value ++ (crlf ++ back)))))) := by
    have same : lines (front ++ (crlf ++ (name ++ blank :: (value ++ (crlf ++ back))))) =
        lines front ++ (name ++ blank :: value) :: lines back := by
      have header := @lines_header front (name ++ [blank]) value back (not_mem_blank solid) unbroken
      simpa using header
    rw [same]
    exact .recased _ _ named letters
  unfold respace
  dsimp only
  generalize (if .doFragmentHttp ∈ v.flags then v.httpFragmentSize else 0) = httpFrag
  split_ifs
  · split
    · rename_i methodEnd found
      obtain ⟨known, member, inside, small, line, others, first, same⟩ :=
        lines_move_method found start' solid unbroken
      rw [same, first]
      exact .request _ _ line member small named letters
    · exact unchanged
  · split
    · rename_i agent found
      split_ifs
      · exact lines_moveSpace found spelled unbroken letters start
      · exact unchanged
    · exact unchanged
  · exact unchanged

end Respace

/-! ### The whole change -/

/-- Only the letters of the `Host` header change. -/
theorem recase_cut (v : GoodbyeSettings) {front value : List UInt8} (back : List UInt8)
    {host : Header}
    (nameStart : front.length = host.nameAt)
    (valueStart : host.valueAt = host.nameAt + httpHostFind.length)
    (length : value.length = host.valueLen) :
    ∃ name value', (name = ascii "Host:" ∨ name = ascii "hoSt:") ∧
      List.Forall₂ SameLetter value value' ∧
      recase v host (front ++ (httpHostFind ++ (value ++ (crlf ++ back)))) =
        front ++ (crlf ++ (name ++ blank :: (value' ++ (crlf ++ back)))) := by
  obtain ⟨value', letters, mixed⟩ : ∃ value', List.Forall₂ SameLetter value value' ∧
      (if .doHostMixedcase ∈ v.flags then
        write host.valueAt
          (mixCase (((front ++ (httpHostFind ++ (value ++ (crlf ++ back)))).drop
            host.valueAt).take host.valueLen))
          (front ++ (httpHostFind ++ (value ++ (crlf ++ back))))
      else front ++ (httpHostFind ++ (value ++ (crlf ++ back)))) =
        front ++ (httpHostFind ++ (value' ++ (crlf ++ back))) := by
    split_ifs
    · refine ⟨mixCase value, sameLetter_mixCase value, ?_⟩
      have place : (front ++ httpHostFind).length = host.valueAt := by
        rw [List.length_append, valueStart, nameStart]
      rw [← List.append_assoc, List.drop_left' place, List.take_left' length,
        write_cut place (by simp [mixCase]), List.append_assoc]
    · exact ⟨value, List.forall₂_same.mpr fun _ _ => rfl, rfl⟩
  unfold recase
  dsimp only
  rw [mixed]
  split_ifs
  · refine ⟨ascii "hoSt:", value', .inr rfl, letters, ?_⟩
    rw [write_cut nameStart (by decide)]
    rfl
  · exact ⟨ascii "Host:", value', .inl rfl, letters, rfl⟩

theorem length_moveSpace {hostAt : Nat} {packet : List UInt8} {agent : Header}
    (found : findHeaderAndGetInfo packet httpUseragentFind = some agent)
    (within : hostAt ≤ packet.length) : (moveSpace hostAt agent packet).length = packet.length := by
  obtain ⟨front, value, back, cut, nameStart, valueStart, length, -, -⟩ := cut_of_header found
  have ends : agent.valueAt + agent.valueLen + 2 ≤ packet.length := by
    simp [cut, crlf]
    omega
  unfold moveSpace
  dsimp only
  split_ifs
  · exact length_write_move (by omega) (by omega) (by omega)
  · exact length_write_move (by omega) (by omega) (by omega)

theorem length_respace (v : GoodbyeSettings) {hostAt : Nat} {packet : List UInt8}
    (within : hostAt ≤ packet.length) : (respace v hostAt packet).length = packet.length := by
  unfold respace
  dsimp only
  generalize (if .doFragmentHttp ∈ v.flags then v.httpFragmentSize else 0) = httpFrag
  split_ifs
  · split
    · rename_i methodEnd found
      obtain ⟨method, rest, rfl, rfl, -⟩ := cut_of_method found
      rw [List.length_append, List.length_cons] at within
      exact length_move (by simp; omega) (by simp; omega)
    · rfl
  · split
    · rename_i agent found
      split_ifs
      · exact length_moveSpace found within
      · rfl
    · rfl
  · rfl

/-- Whatever the options, a packet with a `Host` header keeps its length and its lines. All but
two of the lines are unchanged: in the `Host` line letters may change their case, and its blank
may go to the request line or to a `User-Agent` line, to a place where a server skips it. -/
theorem editHost_lines (v : GoodbyeSettings) {packet : List UInt8} {host : Header}
    (found : findHeaderAndGetInfo packet httpHostFind = some host) :
    (editHost v host packet).length = packet.length ∧
      EditedRequest (lines packet) (lines (editHost v host packet)) := by
  obtain ⟨front, value, back, rfl, nameStart, valueStart, length, -, unbroken⟩ :=
    cut_of_header found
  obtain ⟨name, value', spelled, letters, recased⟩ := recase_cut v back nameStart valueStart length
  obtain ⟨-, -, five⟩ := solid_name spelled
  have eight : httpHostFind.length = 8 := by decide
  rw [editHost, recased]
  constructor
  · rw [length_respace]
    · simp [crlf, five, eight, letters.length_eq]
      omega
    · simp [crlf, five]
      omega
  · have title : cr ∉ ascii "Host: " := by decide
    have whole : lines (front ++ (httpHostFind ++ (value ++ (crlf ++ back)))) =
        lines front ++ (ascii "Host: " ++ value) :: lines back := by
      rw [← lines_header title unbroken]
      simp [httpHostFind]
    rw [whole]
    exact lines_respace v spelled (unbroken_sameLetter unbroken letters) letters (by omega)

example :
    let packet := ascii "GET / HTTP/1.1" ++ (httpHostFind ++ (ascii "a.org" ++ (httpUseragentFind ++
      (ascii "curl" ++ (crlf ++ crlf)))))
    let v := { GoodbyeSettings.initial with flags := {.doHost, .doHostRemovespace} }
    lines (editHost v ⟨14, 22, 5⟩ packet) = [ascii "GET / HTTP/1.1", ascii "hoSt:a.org",
      ascii "User-Agent: curl ", [], []] := by decide

end ZonDpi.Goodbye
