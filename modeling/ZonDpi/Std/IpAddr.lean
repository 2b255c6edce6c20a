import Mathlib.Data.List.Basic
import Mathlib.Data.List.TakeWhile

/-!
`std::net::IpAddr::from_str`.

The standard library's parser: dotted IPv4 without leading zeros, or IPv6 with
at most one `::` and an optional trailing dotted IPv4, and nothing after it. A
reader takes the remaining characters and returns a value with what is left, or
nothing, in which case no character is consumed. What it accepts is written in
hexadecimal digits, colons and dots (`isAddressChar_of_fromStr`).
-/

namespace ZonDpi.Std

inductive IpAddr where
  /-- four octets -/
  | v4 (octets : List Nat)
  /-- eight 16-bit groups -/
  | v6 (groups : List Nat)
deriving DecidableEq, Repr

def digitValue (radix : Nat) (c : Char) : Option Nat :=
  let value :=
    if '0' ≤ c ∧ c ≤ '9' then some (c.toNat - '0'.toNat)
    else if 'a' ≤ c ∧ c ≤ 'f' then some (c.toNat - 'a'.toNat + 10)
    else if 'A' ≤ c ∧ c ≤ 'F' then some (c.toNat - 'A'.toNat + 10)
    else none
  value.filter (· < radix)

def isDigitOf (radix : Nat) (c : Char) : Bool := (digitValue radix c).isSome

def digitsValue (radix : Nat) (digits : List Char) : Nat :=
  digits.foldl (fun value c => value * radix + (digitValue radix c).getD 0) 0

/-- `read_number`: all the digits that follow, at most `maxDigits` of them. -/
def readNumber (radix maxDigits limit : Nat) (allowZeroPrefix : Bool) (cs : List Char) :
    Option (Nat × List Char) :=
  let digits := cs.takeWhile (isDigitOf radix)
  let value := digitsValue radix digits
  if digits = [] ∨ digits.length > maxDigits then none
  else if !allowZeroPrefix && digits.head? == some '0' && digits.length > 1 then none
  else if value > limit then none
  else some (value, cs.dropWhile (isDigitOf radix))

def readGivenChar (c : Char) : List Char → Option (List Char)
  | d :: cs => if d = c then some cs else none
  | [] => none

/-- `read_separator`: every item but the first is preceded by the separator. -/
def readSeparated {α : Type} (separator : Char) (first : Bool)
    (reader : List Char → Option (α × List Char)) (cs : List Char) : Option (α × List Char) :=
  if first then reader cs else (readGivenChar separator cs).bind reader

def readOctet : List Char → Option (Nat × List Char) := readNumber 10 3 255 false

/-- `read_ipv4_addr`, with the number of octets still to read. -/
def readOctets : Nat → Bool → List Char → Option (List Nat × List Char)
  | 0, _, cs => some ([], cs)
  | n + 1, first, cs =>
      match readSeparated '.' first readOctet cs with
      | none => none
      | some (octet, rest) =>
          (readOctets n false rest).map fun (octets, rest) => (octet :: octets, rest)

def readIpv4Addr : List Char → Option (List Nat × List Char) := readOctets 4 true

def octetsToGroups : List Nat → List Nat
  | [a, b, c, d] => [a * 256 + b, c * 256 + d]
  | _ => []

/-- `read_groups` with the number of slots left: the groups read, whether they
end in an embedded IPv4 address, and the rest. -/
def readGroups : Nat → Bool → List Char → List Nat × Bool × List Char
  | 0, _, cs => ([], false, cs)
  | n + 1, first, cs =>
      -- an embedded IPv4 address fills two slots
      match (if n = 0 then none else readSeparated ':' first readIpv4Addr cs) with
      | some (octets, rest) => (octetsToGroups octets, true, rest)
      | none =>
          match readSeparated ':' first (readNumber 16 4 65535 true) cs with
          | none => ([], false, cs)
          | some (group, rest) =>
              match readGroups n false rest with
              | (groups, embedded, rest) => (group :: groups, embedded, rest)

def readIpv6Addr (cs : List Char) : Option (List Nat × List Char) :=
  match readGroups 8 true cs with
  | (head, embedded, rest) =>
      if head.length = 8 then some (head, rest)
      else if embedded then none
      else do
        let rest ← readGivenChar ':' rest
        let rest ← readGivenChar ':' rest
        match readGroups (8 - (head.length + 1)) true rest with
        | (tail, _, rest) =>
            some (head ++ List.replicate (8 - head.length - tail.length) 0 ++ tail, rest)

/-- `IpAddr::from_str`: the whole text must be one address. -/
def IpAddr.fromStr (s : String) : Option IpAddr :=
  let parsed :=
    match readIpv4Addr s.toList with
    | some (octets, rest) => some (IpAddr.v4 octets, rest)
    | none => (readIpv6Addr s.toList).map fun (groups, rest) => (IpAddr.v6 groups, rest)
  match parsed with
  | some (addr, []) => some addr
  | _ => none

def isIpv4 (s : String) : Bool :=
  match IpAddr.fromStr s with
  | some (.v4 _) => true
  | _ => false

def isIpv6 (s : String) : Bool :=
  match IpAddr.fromStr s with
  | some (.v6 _) => true
  | _ => false

/-- No text is an address of both families. -/
theorem isIpv4_isIpv6_disjoint {s : String} (v4 : isIpv4 s = true) : isIpv6 s = false := by
  unfold isIpv4 at v4
  unfold isIpv6
  split at v4
  · rename_i octets parsed
    rw [parsed]
  · exact absurd v4 Bool.false_ne_true

theorem fromStr_isSome_of_isIpv4 {s : String} (v4 : isIpv4 s = true) :
    (IpAddr.fromStr s).isSome = true := by
  unfold isIpv4 at v4
  split at v4
  · rename_i octets parsed
    rw [parsed]
    rfl
  · exact absurd v4 Bool.false_ne_true

theorem fromStr_isSome_of_isIpv6 {s : String} (v6 : isIpv6 s = true) :
    (IpAddr.fromStr s).isSome = true := by
  unfold isIpv6 at v6
  split at v6
  · rename_i groups parsed
    rw [parsed]
    rfl
  · exact absurd v6 Bool.false_ne_true

/-! ### The characters of an address -/

def isAddressChar (c : Char) : Bool := isDigitOf 16 c || c = ':' || c = '.'

/-- The text up to `rest` has characters of addresses only. -/
def AddressText (cs rest : List Char) : Prop :=
  ∃ used, cs = used ++ rest ∧ ∀ c ∈ used, isAddressChar c = true

/-- What a reader takes has characters of addresses only. -/
def TakesAddress {α : Type} (reader : List Char → Option (α × List Char)) : Prop :=
  ∀ {cs value rest}, reader cs = some (value, rest) → AddressText cs rest

theorem AddressText.refl (cs : List Char) : AddressText cs cs := ⟨[], rfl, nofun⟩

theorem AddressText.trans {a b c : List Char} (first : AddressText a b) (second : AddressText b c) :
    AddressText a c := by
  obtain ⟨used, rfl, chars⟩ := first
  obtain ⟨more, rfl, others⟩ := second
  refine ⟨used ++ more, by simp, ?_⟩
  intro c member
  rcases List.mem_append.mp member with member | member
  · exact chars c member
  · exact others c member

theorem isAddressChar_of_digit {radix : Nat} (small : radix ≤ 16) {c : Char}
    (digit : isDigitOf radix c = true) : isAddressChar c = true := by
  have hex : isDigitOf 16 c = true := by
    unfold isDigitOf digitValue at digit ⊢
    rw [Option.isSome_filter] at digit ⊢
    rw [Option.any_eq_true] at digit ⊢
    obtain ⟨value, known, below⟩ := digit
    refine ⟨value, known, ?_⟩
    simp only [decide_eq_true_eq] at below ⊢
    omega
  simp [isAddressChar, hex]

theorem takesAddress_readNumber {radix : Nat} (small : radix ≤ 16) (maxDigits limit : Nat)
    (allowZeroPrefix : Bool) : TakesAddress (readNumber radix maxDigits limit allowZeroPrefix) := by
  intro cs value rest read
  simp only [readNumber] at read
  split_ifs at read
  cases read
  refine ⟨cs.takeWhile (isDigitOf radix), List.takeWhile_append_dropWhile.symm, ?_⟩
  intro c member
  exact isAddressChar_of_digit small (List.mem_takeWhile_imp member)

theorem addressText_readGivenChar {c : Char} (known : isAddressChar c = true) {cs rest : List Char}
    (read : readGivenChar c cs = some rest) : AddressText cs rest := by
  cases cs with
  | nil => cases read
  | cons d cs =>
      simp only [readGivenChar] at read
      split_ifs at read with same
      cases read
      refine ⟨[d], rfl, ?_⟩
      intro e member
      rw [List.mem_singleton.mp member, same]
      exact known

theorem takesAddress_readSeparated {α : Type} {reader : List Char → Option (α × List Char)}
    (item : TakesAddress reader) {separator : Char} (known : isAddressChar separator = true)
    (first : Bool) : TakesAddress (readSeparated separator first reader) := by
  intro cs value rest read
  unfold readSeparated at read
  split_ifs at read
  · exact item read
  · obtain ⟨later, skipped, read⟩ := Option.bind_eq_some_iff.mp read
    exact (addressText_readGivenChar known skipped).trans (item read)

theorem takesAddress_readOctets (n : Nat) (first : Bool) : TakesAddress (readOctets n first) := by
  induction n generalizing first with
  | zero =>
      intro cs octets rest read
      cases read
      exact .refl cs
  | succ n ih =>
      intro cs octets rest read
      rw [readOctets] at read
      cases one : readSeparated '.' first readOctet cs with
      | none =>
          rw [one] at read
          cases read
      | some result =>
          obtain ⟨octet, later⟩ := result
          rw [one] at read
          obtain ⟨⟨others, last⟩, more, same⟩ := Option.map_eq_some_iff.mp read
          cases same
          have number : TakesAddress readOctet :=
            takesAddress_readNumber (by decide) 3 255 false
          exact (takesAddress_readSeparated number (by decide) first one).trans (ih false more)

theorem addressText_readGroups (n : Nat) (first : Bool) (cs : List Char) :
    AddressText cs (readGroups n first cs).2.2 := by
  induction n generalizing first cs with
  | zero => exact .refl cs
  | succ n ih =>
      rw [readGroups]
      have address : TakesAddress readIpv4Addr := takesAddress_readOctets 4 true
      have number : TakesAddress (readNumber 16 4 65535 true) :=
        takesAddress_readNumber (by decide) 4 65535 true
      cases embedded : (if n = 0 then none else readSeparated ':' first readIpv4Addr cs) with
      | some result =>
          split_ifs at embedded
          exact takesAddress_readSeparated address (by decide) first embedded
      | none =>
          cases one : readSeparated ':' first (readNumber 16 4 65535 true) cs with
          | none => exact .refl cs
          | some result =>
              obtain ⟨group, later⟩ := result
              exact (takesAddress_readSeparated number (by decide) first one).trans (ih false later)

theorem takesAddress_readIpv6Addr : TakesAddress readIpv6Addr := by
  intro cs groups rest read
  unfold readIpv6Addr at read
  have head := addressText_readGroups 8 true cs
  generalize readGroups 8 true cs = result at read head
  obtain ⟨front, embedded, later⟩ := result
  dsimp only at read head
  split_ifs at read
  · cases read
    exact head
  · simp only [Option.bind_eq_bind, Option.bind_eq_some_iff] at read
    obtain ⟨once, colon, twice, again, read⟩ := read
    have colons := (addressText_readGivenChar (by decide) colon).trans
      (addressText_readGivenChar (by decide) again)
    cases read
    exact (head.trans colons).trans (addressText_readGroups _ true twice)

/-- `from_str` accepts texts over hexadecimal digits, colons and dots only. -/
theorem isAddressChar_of_fromStr {s : String} (accepted : (IpAddr.fromStr s).isSome = true)
    {c : Char} (member : c ∈ s.toList) : isAddressChar c = true := by
  have whole : AddressText s.toList [] := by
    unfold IpAddr.fromStr at accepted
    cases v4 : readIpv4Addr s.toList with
    | some result =>
        obtain ⟨octets, rest⟩ := result
        rw [v4] at accepted
        cases rest with
        | nil => exact takesAddress_readOctets 4 true v4
        | cons d rest => cases accepted
    | none =>
        rw [v4] at accepted
        cases v6 : readIpv6Addr s.toList with
        | none =>
            rw [v6] at accepted
            cases accepted
        | some result =>
            obtain ⟨groups, rest⟩ := result
            rw [v6] at accepted
            cases rest with
            | nil => exact takesAddress_readIpv6Addr v6
            | cons d rest => cases accepted
  obtain ⟨used, same, chars⟩ := whole
  rw [same, List.append_nil] at member
  exact chars c member

example : IpAddr.fromStr "2606:4700:4700::1111" =
    some (.v6 [0x2606, 0x4700, 0x4700, 0, 0, 0, 0, 0x1111]) := by decide

example : IpAddr.fromStr "::ffff:1.2.3.4" = some (.v6 [0, 0, 0, 0, 0, 0xffff, 0x102, 0x304]) := by
  decide

example : IpAddr.fromStr "1.02.3.4" = none ∧ IpAddr.fromStr "1.2.3.4.5" = none ∧
    IpAddr.fromStr "1::2::3" = none := by decide

end ZonDpi.Std
