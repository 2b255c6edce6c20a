import ZonDpi.Lib.Getopt
import ZonDpi.Std.Strtol
import Mathlib.Data.List.Basic

/-!
The command line of ByeDPI (`engines/byedpi/upstream/main.c`, the program `ciadpi`), as
it is built for Windows.

`parse_args` asks `getopt_long` for one option after the other. Most options set a
variable of the program or of the current group; `--auto` begins a new group, and
`--copy` goes back to the options of an earlier group and reads them once more for the
current one, until it meets the `--auto` behind them. `--copy` need not come to an end, so
the loop has fuel.

Of the variables, the listening address and port, the limit on connections and of each
group the parts, the TTL, the detection mask and the auto level are kept, and whatever
decides about the acceptance of later options. The functions of the system that read
numeric addresses, floating-point numbers and files are parameters (`CiadpiHost`).

The state falls into parts that each option reads and sets for itself (`effect_eq_ok`).
-/

namespace ZonDpi.Engine

open Getopt Fold ZonDpi.Std

/-! ### Options -/

inductive CiadpiOpt where
  | noDomain | noIpv6 | noUdp | help | version | ip | port | connIp | bufSize | maxConn | debug
  | auto | autoMode | cacheTtl | timeout | copy | cacheFile | proto | hosts | pf | round
  | split | disorder | oob | disoob | fake | fakeSni | ttl | fakeData | fakeOffset | fakeTlsMod
  | oobData | modHttp | tlsrec | tlsminor | udpFake | defTtl | waitSend | awaitInt | ipset
  | connectTo | comment | cacheMerge
deriving DecidableEq, Repr

/-- `options`: the letter, the name and whether a value is required. -/
def ciadpiOptions : List (Char × String × Bool × CiadpiOpt) :=
  [('N', "no-domain", false, .noDomain), ('X', "no-ipv6", false, .noIpv6),
    ('U', "no-udp", false, .noUdp), ('h', "help", false, .help), ('v', "version", false, .version),
    ('i', "ip", true, .ip), ('p', "port", true, .port), ('I', "conn-ip", true, .connIp),
    ('b', "buf-size", true, .bufSize), ('c', "max-conn", true, .maxConn),
    ('x', "debug", true, .debug), ('A', "auto", true, .auto), ('L', "auto-mode", true, .autoMode),
    ('u', "cache-ttl", true, .cacheTtl), ('T', "timeout", true, .timeout),
    ('B', "copy", true, .copy), ('y', "cache-file", true, .cacheFile), ('K', "proto", true, .proto),
    ('H', "hosts", true, .hosts), ('V', "pf", true, .pf), ('R', "round", true, .round),
    ('s', "split", true, .split), ('d', "disorder", true, .disorder), ('o', "oob", true, .oob),
    ('q', "disoob", true, .disoob), ('f', "fake", true, .fake), ('n', "fake-sni", true, .fakeSni),
    ('t', "ttl", true, .ttl), ('l', "fake-data", true, .fakeData),
    ('O', "fake-offset", true, .fakeOffset), ('Q', "fake-tls-mod", true, .fakeTlsMod),
    ('e', "oob-data", true, .oobData), ('M', "mod-http", true, .modHttp),
    ('r', "tlsrec", true, .tlsrec), ('m', "tlsminor", true, .tlsminor),
    ('a', "udp-fake", true, .udpFake), ('g', "def-ttl", true, .defTtl),
    ('Z', "wait-send", false, .waitSend), ('W', "await-int", true, .awaitInt),
    ('j', "ipset", true, .ipset), ('C', "connect-to", true, .connectTo),
    ('#', "comment", true, .comment), ('/', "cache-merge", true, .cacheMerge)]

def ciadpiTable : Table CiadpiOpt where
  short := ciadpiOptions.map fun (letter, _, takesArg, val) => ⟨letter, takesArg, val⟩
  long := ciadpiOptions.map fun (_, name, takesArg, val) =>
    ⟨name, if takesArg then .required else .no, val⟩

inductive CiadpiExit where
  /-- `getopt_long` has reported a question mark -/
  | usage
  /-- help or version -/
  | shown
  | invalidValue (opt : CiadpiOpt) (optarg : Option String)
  /-- still copying groups -/
  | unfinished
deriving DecidableEq, Repr

/-! ### Variables -/

inductive Demode where
  | none | split | disorder | oob | disoob | fake
deriving DecidableEq, Repr

structure Part where
  m : Demode
  flag : Nat
  pos : Int
  r : Int
  s : Int
deriving DecidableEq, Repr

def Part.zero : Part := ⟨.none, 0, 0, 0, 0⟩

/-- What else of a group decides about other options. -/
structure GroupLimits where
  hosts : Bool
  proto : Nat
  pf0 : Int
  ipset : Bool
  fakeData : Bool
  fakeOffset : Part
  outPort : Nat
deriving DecidableEq, Repr

structure DesyncParams where
  parts : List Part
  ttl : Int
  autoLevel : Nat
  detect : Nat
  limits : GroupLimits
deriving DecidableEq, Repr

/-- `add_group`. -/
def DesyncParams.new (detect : Nat) : DesyncParams :=
  ⟨[], 0, 0, detect, ⟨false, 0, 0, false, false, .zero, 0⟩⟩

def DesyncParams.limited (dp : DesyncParams) : Bool :=
  dp.limits.hosts || dp.limits.proto != 0 || dp.limits.pf0 != 0 || dp.detect != 0 ||
    dp.limits.ipset

/-- The groups, of which the last is the current one. -/
structure Groups where
  earlier : List DesyncParams
  dp : DesyncParams
  allLimited : Bool
deriving DecidableEq, Repr

structure Listen where
  laddr : IpAddr
  port : Nat
deriving DecidableEq, Repr

structure CiadpiState where
  listen : Listen
  maxOpen : Int
  groups : Groups
deriving DecidableEq, Repr

def unspecified : IpAddr := .v4 [0, 0, 0, 0]

def CiadpiState.initial : CiadpiState :=
  ⟨⟨unspecified, 1080⟩, 512, ⟨[], .new 0, true⟩⟩

structure GroupParams where
  parts : List Part
  ttl : Int
  detect : Nat
  autoLevel : Nat
deriving DecidableEq, Repr

structure CiadpiParams where
  laddr : IpAddr
  port : Nat
  maxOpen : Int
  groups : List GroupParams
deriving DecidableEq, Repr

def DesyncParams.params (dp : DesyncParams) : GroupParams :=
  ⟨dp.parts, dp.ttl, dp.detect, dp.autoLevel⟩

/-- Behind the loop: one more group if there is none for all connections. -/
def CiadpiState.finish (v : CiadpiState) : CiadpiParams where
  laddr := v.listen.laddr
  port := v.listen.port
  maxOpen := v.maxOpen
  groups := (v.groups.earlier ++ v.groups.dp ::
    if v.groups.allLimited then [.new 0] else []).map DesyncParams.params

/-! ### Values -/

/-- What the program asks of the system. -/
structure CiadpiHost where
  /-- `getaddrinfo` with `AI_NUMERICHOST` -/
  numericHost : String → Option IpAddr
  /-- the end pointer of `strtof` -/
  strtof : List Char → List Char
  /-- the file can be read and is not empty -/
  readable : String → Bool
  loopback : numericHost "127.0.0.1" = some (.v4 [127, 0, 0, 1])

/-- A number in a range, with nothing behind it. -/
def number (low high : Int) (text : List Char) : Option Int :=
  let (val, rest) := strtol text
  if low ≤ val ∧ val ≤ high ∧ rest = [] then some val else none

/-- `num[-numr]`: the first number. -/
def numberRange (high : Int) (text : List Char) : Option Int :=
  let (val, rest) := strtol text
  if val ≤ 0 ∨ high < val then none
  else
    match rest with
    | '-' :: text =>
        let (val', rest) := strtol text
        if val' ≤ 0 ∨ high < val' ∨ rest ≠ [] then none else some val
    | [] => some val
    | _ => none

def afterCommas : List Char → List (List Char)
  | [] => []
  | c :: rest => if c = ',' then rest :: afterCommas rest else afterCommas rest

/-- The items of a list with commas, each with all that follows it. Of an item only the
first letter counts. -/
def items (text : List Char) : List (List Char) := text :: afterCommas text

def letters (bit : Char → Option Nat) (mask : Nat) (text : List Char) : Option Nat :=
  (items text).foldlM (fun mask item => (item.head?.bind bit).map (mask ||| ·)) mask

def autoLevelBit : Char → Option Nat
  | 'o' => some 1
  | 's' => some 4
  | 'n' => some 2
  | _ => none

/-- IS_TCP | IS_HTTPS, IS_TCP | IS_HTTP, IS_UDP, IS_IPV4; only whether any is set
counts here. -/
def protoBit : Char → Option Nat
  | 't' | 'h' | 'u' | 'i' => some 1
  | _ => none

def modHttpBit : Char → Option Nat
  | 'r' | 'h' | 'd' => some 1
  | _ => none

/-- `parse_offset`, the part behind the second colon. -/
def offsetSkip (part : Part) : List Char → Option (Part × List Char)
  | ':' :: text =>
      let (rs, rest) := strtol text
      if rs < 0 then none else some ({ part with s := rs }, rest)
  | rest => some (part, rest)

/-- `parse_offset`, the loop over the colons. -/
def offsetRepeats (part : Part) : List Char → Option (Part × List Char)
  | ':' :: text =>
      let (rs, rest) := strtol text
      if rs < 0 then none
      else if part.r ≠ 0 then some ({ part with s := rs }, rest)
      else if rs = 0 then none
      else offsetSkip { part with r := rs } rest
  | rest => some (part, rest)

/-- `parse_offset`, the flags behind the plus sign. -/
def offsetFlag (flag : Nat) (text : List Char) : Option Nat :=
  let base :=
    match text.head? with
    | some 's' => some 8
    | some 'h' => some 16
    | some 'n' => some flag
    | _ => none
  base.map fun base =>
    match text.tail.head? with
    | some 'e' => base ||| 1
    | some 'm' => base ||| 2
    | some 'r' => base ||| 4
    | some 's' => base ||| 32
    | _ => base

def parseOffset (part : Part) (text : List Char) : Option Part :=
  let (val, rest) := strtol text
  match offsetRepeats part rest with
  | none => none
  | some (part, []) => some { part with pos := val }
  | some (part, '+' :: flags) =>
      (offsetFlag part.flag flags).map fun flag => { part with flag := flag, pos := val }
  | some _ => none

/-- `parse_cform` yields at least one character. -/
def escaped (text : List Char) : Bool := text ≠ [] && text ≠ ['\\']

/-- The port behind an address: none, a number, or an invalid one. -/
def portBehind (text : List Char) : Option (Option Nat) :=
  match text.dropWhile (· ≠ ':') with
  | ':' :: c :: rest =>
      if isDigitOf 10 c then (number 1 65535 (c :: rest)).map fun val => some val.toNat
      else some none
  | _ => some none

/-- `get_addr`: the text of the host, and the port. -/
def splitAddr : List Char → Option (List Char × Option Nat)
  | '[' :: text =>
      match text.dropWhile (· ≠ ']') with
      | [] => none
      | _ :: behind => (portBehind behind).map fun port => (text.takeWhile (· ≠ ']'), port)
  | text =>
      (portBehind text).map fun port =>
        (if port.isSome then text.takeWhile (· ≠ ':') else text, port)

/-- The schemes of `get_addr_scheme` with their modes. -/
def schemes : List (String × Nat) :=
  [("socks4://", 2), ("socks5://", 1), ("socks://", 3), ("ss://", 16), ("http://", 4),
    ("sni://", 32), ("tcp://", 64)]

/-- The mode, and the text behind the scheme. -/
def splitScheme (text : List Char) : Nat × List Char :=
  match schemes.find? fun scheme => scheme.1.toList.isPrefixOf text with
  | some scheme => (scheme.2, text.drop scheme.1.length)
  | none => (0, text)

/-- `fake-tls-mod`: after a size the search goes on behind the number. -/
def fakeTlsMods : Nat → List Char → Bool
  | 0, _ => false
  | fuel + 1, text =>
      let next := fun rest : List Char =>
        match rest.dropWhile (· ≠ ',') with
        | [] => true
        | _ :: rest => fakeTlsMods fuel rest
      match text.head? with
      | some 'r' | some 'o' => next text
      | some 'm' =>
          match text.dropWhile (· ≠ '=') with
          | [] => false
          | _ :: size =>
              match (strtol size).2 with
              | [] => true
              | ',' :: rest => next (',' :: rest)
              | _ => false
      | _ => false

namespace CiadpiHost

variable (host : CiadpiHost)

/-- `get_addr`: the address unless the host is empty, and the port. -/
def getAddr (text : List Char) : Option (Option IpAddr × Option Nat) :=
  match splitAddr text with
  | none => none
  | some (name, port) =>
      if name = [] then some (none, port)
      else (host.numericHost (String.ofList name)).map fun addr => (some addr, port)

def getAddrScheme (text : List Char) : Option (Nat × Option IpAddr × Option Nat) :=
  let (mode, rest) := splitScheme text
  (host.getAddr rest).map fun found => (mode, found)

/-- `ftob` returns some data. -/
def ftob (text : String) : Bool :=
  match text.toList with
  | ':' :: data => escaped data
  | _ => host.readable text

/-- One more number of `--timeout`. -/
def anotherFloat : List Char → List Char
  | ':' :: text => host.strtof text
  | rest => rest

/-- The mask of `--auto`. A priority takes up the rest of the text; without an equals
sign the program follows a null pointer. -/
def detectMask (mask : Nat) : List (List Char) → Option Nat
  | [] => some mask
  | item :: rest =>
      match item.head? with
      | some 't' => detectMask (mask ||| 8) rest
      | some 'r' => detectMask (mask ||| 1) rest
      | some 's' => detectMask (mask ||| 2) rest
      | some 'c' => detectMask (mask ||| 16) rest
      | some 'n' => detectMask mask rest
      | some 'p' =>
          match item.dropWhile (· ≠ '=') with
          | [] => none
          | _ :: value => if host.strtof value = [] then some mask else none
      | _ => none

end CiadpiHost

/-! ### The parts of the state -/

/-- The characters of the value. -/
def chars (o : CiadpiOpt × Option String) : List Char := (o.2.getD "").toList

def orInvalid {α : Type} (o : CiadpiOpt × Option String) : Option α → Except CiadpiExit α
  | some a => .ok a
  | none => .error (.invalidValue o.1 o.2)

def guardValue (o : CiadpiOpt × Option String) (valid : Bool) : Except CiadpiExit Unit :=
  orInvalid o (if valid then some () else none)

/-- The mode of desynchronisation that an option adds a part with. -/
def CiadpiOpt.demode : CiadpiOpt → Option Demode
  | .split => some .split
  | .disorder => some .disorder
  | .oob => some .oob
  | .disoob => some .disoob
  | .fake => some .fake
  | _ => none

def stepParts (parts : List Part) (o : CiadpiOpt × Option String) : Except CiadpiExit (List Part) :=
  match o.1.demode with
  | some mode => do
      let part ← orInvalid o (parseOffset .zero (chars o))
      return parts ++ [{ part with m := mode }]
  | none => .ok parts

def stepGroupTtl (ttl : Int) (o : CiadpiOpt × Option String) : Except CiadpiExit Int :=
  if o.1 = .ttl then orInvalid o (number 1 255 (chars o)) else .ok ttl

def stepAutoLevel (level : Nat) (o : CiadpiOpt × Option String) : Except CiadpiExit Nat :=
  if o.1 = .autoMode then orInvalid o (letters autoLevelBit level (chars o)) else .ok level

def stepMaxOpen (maxOpen : Int) (o : CiadpiOpt × Option String) : Except CiadpiExit Int :=
  if o.1 = .maxConn then orInvalid o (number 1 32766 (chars o)) else .ok maxOpen

namespace CiadpiHost

variable (host : CiadpiHost)

/-- Options that set none of the variables. -/
def check (o : CiadpiOpt × Option String) : Except CiadpiExit Unit :=
  match o.1 with
  | .help | .version => .error .shown
  | .connIp => guardValue o (host.getAddr (chars o)).isSome
  | .bufSize => guardValue o (number 1 536870911 (chars o)).isSome
  | .debug => guardValue o (0 ≤ (strtol (chars o)).1)
  | .cacheTtl => guardValue o (number 1 2147483647 (chars o)).isSome
  | .cacheMerge => guardValue o (number 0 32 (chars o)).isSome
  | .timeout =>
      guardValue o
        (host.anotherFloat (host.anotherFloat (host.anotherFloat (host.strtof (chars o)))) = [])
  | .round => guardValue o (numberRange 2147483647 (chars o)).isSome
  | .fakeTlsMod => guardValue o (fakeTlsMods ((chars o).length + 1) (chars o))
  | .oobData => guardValue o (escaped (chars o))
  | .modHttp => guardValue o (letters modHttpBit 0 (chars o)).isSome
  | .tlsrec => guardValue o ((parseOffset .zero (chars o)).any fun part => part.pos ≤ 65535)
  | .tlsminor | .defTtl => guardValue o (number 1 255 (chars o)).isSome
  | .udpFake => guardValue o (number 0 2147483647 (chars o)).isSome
  | _ => .ok ()

def stepListen (listen : Listen) (o : CiadpiOpt × Option String) : Except CiadpiExit Listen :=
  match o.1 with
  | .ip => do
      let (_, addr, port) ← orInvalid o (host.getAddrScheme (chars o))
      return ⟨addr.getD listen.laddr, port.getD listen.port⟩
  | .port => do
      let val ← orInvalid o (number 1 65535 (chars o))
      return { listen with port := val.toNat }
  | _ => .ok listen

def stepLimits (limits : GroupLimits) (o : CiadpiOpt × Option String) :
    Except CiadpiExit GroupLimits :=
  match o.1 with
  | .hosts => do
      guardValue o (host.ftob (o.2.getD ""))
      return { limits with hosts := true }
  | .ipset => do
      guardValue o (host.ftob (o.2.getD ""))
      return { limits with ipset := true }
  | .proto => do
      let proto ← orInvalid o (letters protoBit limits.proto (chars o))
      return { limits with proto := proto }
  | .pf => do
      let val ← orInvalid o (numberRange 65535 (chars o))
      return { limits with pf0 := val }
  -- only `--copy i`, the loop sees to the others
  | .copy => .ok { limits with pf0 := 1 }
  | .fakeData =>
      if limits.fakeData then .ok limits
      else do
        guardValue o (host.ftob (o.2.getD ""))
        return { limits with fakeData := true }
  | .fakeOffset => do
      let part ← orInvalid o (parseOffset limits.fakeOffset (chars o))
      return { limits with fakeOffset := part }
  | .connectTo => do
      let (mode, _, port) ← orInvalid o (host.getAddrScheme (chars o))
      let outPort := port.getD limits.outPort
      -- OUT_SUPPORT
      guardValue o (mode &&& 65 = mode && outPort ≠ 0)
      return { limits with outPort := outPort }
  | _ => .ok limits

def stepDp (dp : DesyncParams) (o : CiadpiOpt × Option String) :
    Except CiadpiExit DesyncParams := do
  let parts ← stepParts dp.parts o
  let ttl ← stepGroupTtl dp.ttl o
  let autoLevel ← stepAutoLevel dp.autoLevel o
  let limits ← host.stepLimits dp.limits o
  return ⟨parts, ttl, autoLevel, dp.detect, limits⟩

def stepGroups (groups : Groups) (o : CiadpiOpt × Option String) : Except CiadpiExit Groups :=
  if o.1 = .auto then do
    let detect ← orInvalid o (host.detectMask 0 (items (chars o)))
    return ⟨groups.earlier ++ [groups.dp], .new detect, groups.allLimited && groups.dp.limited⟩
  else do
    let dp ← host.stepDp groups.dp o
    return { groups with dp := dp }

end CiadpiHost

/-! ### The loop -/

namespace CiadpiHost

variable (host : CiadpiHost)

/-- What an option does that is taken up. -/
def effect (v : CiadpiState) (o : CiadpiOpt × Option String) :
    Except CiadpiExit CiadpiState := do
  host.check o
  let listen ← host.stepListen v.listen o
  let maxOpen ← stepMaxOpen v.maxOpen o
  let groups ← host.stepGroups v.groups o
  return ⟨listen, maxOpen, groups⟩

end CiadpiHost

/-- The places in the command line that the loop remembers, each as the arguments from
there on: where the options of each group begin (`_optind`), and how far the line had been
read at the last `--copy` (`curr_optind`). -/
structure Cursor where
  starts : List (List String)
  curr : List String

def Cursor.start (args : List String) : Cursor := ⟨[args], args⟩

/-- `optind < curr_optind`: an option that is read once more. -/
def Cursor.again (cursor : Cursor) (rest : List String) : Bool :=
  cursor.curr.length < rest.length

/-- The group that `--copy` names. -/
def Cursor.group (cursor : Cursor) (optarg : Option String) : Option (List String) :=
  let val := (strtol (optarg.getD "").toList).1
  if val ≤ 0 then none else cursor.starts[val.toNat - 1]?

/-- `--copy i` -/
def copiesNothing (optarg : Option String) : Bool :=
  (optarg.getD "").toList.head? = some 'i'

/-- What the loop does with an option: it is taken up, passed over, or the loop goes on
elsewhere. -/
inductive Move where
  | takes (cursor : Cursor)
  | skips
  | jumps (cursor : Cursor) (target : List String)
  | fails

def Cursor.move (cursor : Cursor) (opt : CiadpiOpt) (optarg : Option String)
    (rest : List String) : Move :=
  match opt with
  | .auto =>
      if cursor.again rest then .jumps cursor cursor.curr
      else .takes { cursor with starts := cursor.starts ++ [rest] }
  | .copy =>
      if cursor.again rest then .skips
      else if copiesNothing optarg then .takes cursor
      else
        match cursor.group optarg with
        | none => .fails
        | some start => .jumps { cursor with curr := rest } start
  | _ => .takes cursor

namespace CiadpiHost

variable (host : CiadpiHost)

/-- The loop of `parse_args`, with fuel for each option. -/
def run : Nat → Cursor → List (Event CiadpiOpt) → CiadpiState → Except CiadpiExit CiadpiState
  | 0, _, _, _ => .error .unfinished
  | _ + 1, _, [], v => .ok v
  | _ + 1, _, .invalid :: _, _ => .error .usage
  | fuel + 1, cursor, .option opt optarg rest :: events, v =>
      match cursor.move opt optarg rest with
      | .takes cursor => do
          let v ← host.effect v (opt, optarg)
          run fuel cursor events v
      | .skips => run fuel cursor events v
      | .jumps cursor target => run fuel cursor (ciadpiTable.read none target) v
      | .fails => .error (.invalidValue opt optarg)

def parseArgs (fuel : Nat) (args : List String) : Except CiadpiExit CiadpiParams := do
  let v ← host.run fuel (.start args) (ciadpiTable.read none args) .initial
  return v.finish

/-- `parse_args` accepts the command line. -/
def Accepts (args : List String) (p : CiadpiParams) : Prop :=
  ∃ fuel, host.parseArgs fuel args = .ok p

end CiadpiHost

/-! ### What an option does -/

section Effect

variable {host : CiadpiHost} {v v' : CiadpiState} {o : CiadpiOpt × Option String}

theorem CiadpiHost.effect_eq_ok : host.effect v o = .ok v' ↔
    host.check o = .ok () ∧ host.stepListen v.listen o = .ok v'.listen ∧
      stepMaxOpen v.maxOpen o = .ok v'.maxOpen ∧ host.stepGroups v.groups o = .ok v'.groups := by
  simp only [CiadpiHost.effect, bind_eq_ok]
  constructor
  · rintro ⟨_, checked, _, listen, _, maxOpen, _, groups, ⟨⟩⟩
    exact ⟨checked, listen, maxOpen, groups⟩
  · rintro ⟨checked, listen, maxOpen, groups⟩
    exact ⟨(), checked, _, listen, _, maxOpen, _, groups, rfl⟩

end Effect

end ZonDpi.Engine
