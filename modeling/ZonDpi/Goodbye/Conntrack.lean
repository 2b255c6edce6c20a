import Mathlib.Tactic.IntervalCases
import ZonDpi.Goodbye.Hosts
import ZonDpi.Lib.ExpiringTable

/-!
The two connection trackers of GoodbyeDPI (`dnsredir.c` and `ttltrack.c`).

Both are expiring tables. The one remembers to which server a DNS query went before it was
redirected, the other with which TTL the SYN+ACK of a connection came in. From this TTL follows
the distance of the server, and from the distance the TTL of a fake request, which is to die on
the way (`tcpGetAutoTtl_le_iff`).
-/

namespace ZonDpi.Goodbye

open Expiring

/-! ### DNS queries -/

/-- `DNS_CLEANUP_INTERVAL_SEC` and `TCP_CLEANUP_INTERVAL_SEC` -/
def cleanupInterval : ℤ := 30

/-- An address with its port; IPv4 and IPv6 are kept apart by the first byte of the key. -/
structure Endpoint where
  v6 : Bool
  ip : Nat
  port : Nat
deriving DecidableEq, Repr

/-- The key is the address that asks, the value the server that was asked. -/
abbrev DnsTable := Table Endpoint Endpoint

def dnsFlags (packet : List UInt8) : Nat := byteAt packet 2 * 256 + byteAt packet 3

def dnsIsDnsPacket (packet : List UInt8) (outgoing : Bool) : Bool :=
  if packet.length < 16 then false
  else if outgoing then
    dnsFlags packet &&& 0xFA00 = 0 ∧ byteAt packet 6 * 256 + byteAt packet 7 = 0
  else dnsFlags packet &&& 0xF800 = 0x8000

/-- Whether the query has been recorded, and is therefore redirected. -/
def dnsHandleOutgoing (now : ℤ) (src dst : Endpoint) (packet : List UInt8) (t : DnsTable) :
    Bool × DnsTable :=
  if packet.length < 16 then (false, t)
  else
    let t := t.cleanup cleanupInterval now
    if dnsIsDnsPacket packet true ∧ src.port ≠ 0 ∧ dst.port ≠ 0 then
      match t.add now src dst with
      | some t => (true, t)
      | none => (false, t)
    else (false, t)

/-- The server that was asked, if the response is for a recorded query. -/
def dnsHandleIncoming (now : ℤ) (dst : Endpoint) (packet : List UInt8) (t : DnsTable) :
    Option Endpoint × DnsTable :=
  if packet.length < 16 then (none, t)
  else
    let t := t.cleanup cleanupInterval now
    if dnsIsDnsPacket packet false then t.take dst else (none, t)

/-! ### TCP connections -/

/-- A connection as the server's packets name it. -/
structure Connection where
  server : Endpoint
  client : Endpoint
deriving DecidableEq, Repr

abbrev TtlTable := Table Connection Nat

def tcpHandleIncoming (now : ℤ) (conn : Connection) (ttl : Nat) (t : TtlTable) : TtlTable :=
  let t := t.cleanup cleanupInterval now
  if conn.server.port ≠ 0 ∧ conn.client.port ≠ 0 then (t.add now conn ttl).getD t else t

def tcpHandleOutgoing (now : ℤ) (conn : Connection) (t : TtlTable) : Option Nat × TtlTable :=
  (t.cleanup cleanupInterval now).take conn

/-! ### Single precision -/

/-- To the nearest integer, and to the even one from the middle. -/
def roundEven (p q : Nat) : Nat :=
  if 2 * (p % q) < q ∨ (2 * (p % q) = q ∧ p / q % 2 = 0) then p / q else p / q + 1

/-- The `float` next to `p / q`, as `m / 2 ^ s` with 24 bits for `m`. The exponents of the
values in question are in range. -/
def single (p q : Nat) : Nat × Nat :=
  let s := 24 + q.log2 - p.log2
  if p * 2 ^ s < 2 ^ 24 * q then (roundEven (p * 2 ^ s) q, s)
  else (roundEven (p * 2 ^ (s - 1)) q, s - 1)

/-- `trunc(k * ((float)nhops/10))` -/
def scaled (k nhops : Nat) : Nat :=
  let tenth := single nhops 10
  let product := single (k * tenth.1) (2 ^ tenth.2)
  product.1 / 2 ^ product.2

/-- No rounding error survives the truncation. -/
theorem scaled_eq {k nhops : Nat} (byte : k < 256) (near : nhops < 10) :
    scaled k nhops = k * nhops / 10 := by
  have all : ∀ nhops < 10, ∀ k < 256, scaled k nhops = k * nhops / 10 := by decide +kernel
  exact all nhops near k byte

/-! ### The TTL of a fake request -/

/-- How many routers decreased a TTL that began with 128 or 64. -/
def hops (ttl : Nat) : Option Nat :=
  if 98 < ttl ∧ ttl < 128 then some (128 - ttl)
  else if 34 < ttl ∧ ttl < 64 then some (64 - ttl)
  else none

/-- `nhops - autottl1 - trunc((autottl2 - autottl1) * ((float)nhops/10))` as a byte -/
def scaledTtl (nhops autottl1 autottl2 : Nat) : Nat :=
  let less : Int := if autottl1 ≤ autottl2 then scaled (autottl2 - autottl1) nhops
    else - scaled (autottl1 - autottl2) nhops
  ((nhops - autottl1 - less) % 256).toNat

def tcpGetAutoTtl (ttl autottl1 autottl2 minhops maxttl : Nat) : Nat :=
  match hops ttl with
  | none => 0
  | some nhops =>
    if nhops ≤ autottl1 ∨ nhops < minhops then 0
    else
      let fake := (nhops + 256 - autottl2) % 256
      let fake := if fake < autottl2 ∧ nhops ≤ 9 then scaledTtl nhops autottl1 autottl2 else fake
      if maxttl ≠ 0 ∧ fake > maxttl then maxttl else fake

theorem hops_le {ttl nhops : Nat} (far : hops ttl = some nhops) : 1 ≤ nhops ∧ nhops < 30 := by
  unfold hops at far
  split_ifs at far <;> cases far <;> omega

theorem scaledTtl_lt {nhops autottl1 autottl2 : Nat} (near : nhops ≤ 9) (far : autottl2 ≤ nhops)
    (one : 1 ≤ autottl1) (less : autottl1 < nhops) (some : 1 ≤ autottl2) :
    scaledTtl nhops autottl1 autottl2 < nhops := by
  unfold scaledTtl
  dsimp only
  have part : ∀ k, k * nhops / 10 ≤ k := by
    intro k
    calc k * nhops / 10 ≤ k * 10 / 10 := Nat.div_le_div_right (Nat.mul_le_mul_left k (by omega))
      _ = k := Nat.mul_div_cancel k (by omega)
  split_ifs with order
  · have below := part (autottl2 - autottl1)
    rw [scaled_eq (by omega) (by omega)]
    omega
  · have below := part (autottl1 - autottl2)
    rw [scaled_eq (by omega) (by omega)]
    omega

/-- Below `autottl2` the scaled difference is negative and comes out as a large byte. -/
theorem lt_scaledTtl {nhops autottl1 autottl2 : Nat} (near : nhops ≤ 9) (one : 1 ≤ autottl1)
    (less : autottl1 < nhops) (byte : autottl2 ≤ 255) (wraps : nhops + 256 < 2 * autottl2) :
    nhops < scaledTtl nhops autottl1 autottl2 := by
  unfold scaledTtl
  dsimp only
  rw [if_pos (by omega), scaled_eq (by omega) (by omega)]
  have low : (autottl2 - autottl1) * 2 / 10 ≤ (autottl2 - autottl1) * nhops / 10 :=
    Nat.div_le_div_right (Nat.mul_le_mul_left _ (by omega))
  have high : (autottl2 - autottl1) * nhops / 10 ≤ (autottl2 - autottl1) * 9 / 10 :=
    Nat.div_le_div_right (Nat.mul_le_mul_left _ near)
  omega

/-- A fake request dies before the server exactly if the distance is not below `autottl2`, or a
maximum says so: below `autottl2` the difference wraps round, and the fake comes through. -/
theorem tcpGetAutoTtl_le_iff {ttl autottl1 autottl2 minhops maxttl nhops : Nat}
    (far : hops ttl = some nhops) (one : 1 ≤ autottl1) (some : 1 ≤ autottl2)
    (byte : autottl2 ≤ 255) (sent : tcpGetAutoTtl ttl autottl1 autottl2 minhops maxttl ≠ 0) :
    tcpGetAutoTtl ttl autottl1 autottl2 minhops maxttl ≤ nhops ↔
      autottl2 ≤ nhops ∨ (maxttl ≠ 0 ∧ maxttl ≤ nhops) := by
  obtain ⟨-, below⟩ := hops_le far
  unfold tcpGetAutoTtl at sent ⊢
  rw [far] at sent ⊢
  dsimp only at sent ⊢
  by_cases refused : nhops ≤ autottl1 ∨ nhops < minhops
  · rw [if_pos refused] at sent
    exact absurd rfl sent
  rw [if_neg refused]
  -- the byte before the maximum is at most the distance just if nothing wraps round
  have fake : (if (nhops + 256 - autottl2) % 256 < autottl2 ∧ nhops ≤ 9 then
      scaledTtl nhops autottl1 autottl2 else (nhops + 256 - autottl2) % 256) ≤ nhops ↔
        autottl2 ≤ nhops := by
    by_cases enough : autottl2 ≤ nhops
    · refine iff_of_true ?_ enough
      split_ifs with near
      · exact (scaledTtl_lt near.2 enough one (by omega) some).le
      · omega
    · refine iff_of_false ?_ enough
      split_ifs with near
      · exact (lt_scaledTtl near.2 one (by omega) byte (by omega)).not_ge
      · omega
  rw [← fake]
  generalize (if (nhops + 256 - autottl2) % 256 < autottl2 ∧ nhops ≤ 9 then
    scaledTtl nhops autottl1 autottl2 else (nhops + 256 - autottl2) % 256) = ttl
  split_ifs <;> omega

/-- With the values that `--auto-ttl` has by default, a server three hops away gets the fake. -/
theorem tcpGetAutoTtl_le_iff_near :
    tcpGetAutoTtl 61 1 4 3 10 = 10 ∧ ¬ tcpGetAutoTtl 61 1 4 3 10 ≤ 3 := by
  have far : hops 61 = some 3 := by decide
  have passes := @tcpGetAutoTtl_le_iff 61 1 4 3 10 3 far (by decide) (by decide) (by decide)
    (by decide)
  exact ⟨by decide, passes.not.mpr (by decide)⟩

end ZonDpi.Goodbye
