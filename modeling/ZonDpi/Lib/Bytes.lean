import Mathlib.Algebra.Ring.Nat
import Mathlib.Data.Nat.Notation
import Mathlib.Logic.Basic

/-!
Bytes on a stream: little-endian numbers, and sources whose items arrive in chunks.

A source is what a reader will still be given: chunks of at least one item, in any
division, and then the end, an error, or silence. `Source.readExact` reads until its
buffer is full, chunk after chunk. Its result is a matter of the items alone
(`readExact_of_le`, `readExact_of_lt`): the division into chunks cannot be observed.
-/

namespace Bytes

/-! ### Little-endian numbers -/

/-- The low `width` bytes of a number, the lowest first. -/
def toLe : ℕ → ℕ → List UInt8
  | 0, _ => []
  | width + 1, n => UInt8.ofNat n :: toLe width (n / 256)

def ofLe : List UInt8 → ℕ
  | [] => 0
  | b :: rest => b.toNat + 256 * ofLe rest

@[simp] theorem toLe_length (width n : ℕ) : (toLe width n).length = width := by
  induction width generalizing n with
  | zero => rfl
  | succ width ih => simp [toLe, ih]

/-- A number too large for its bytes is cut down to them. -/
theorem ofLe_toLe (width n : ℕ) : ofLe (toLe width n) = n % 256 ^ width := by
  induction width generalizing n with
  | zero => simp [toLe, ofLe, Nat.mod_one]
  | succ width ih =>
      have low : (UInt8.ofNat n).toNat = n % 256 := UInt8.toNat_ofNat'
      rw [toLe, ofLe, ih, low, Nat.pow_succ, Nat.mul_comm (256 ^ width) 256, Nat.mod_mul]

theorem toLe_ofLe (bytes : List UInt8) : toLe bytes.length (ofLe bytes) = bytes := by
  induction bytes with
  | nil => rfl
  | cons b rest ih =>
      have small : b.toNat < 256 := b.toNat_lt
      have low : UInt8.ofNat (b.toNat + 256 * ofLe rest) = b := by
        apply UInt8.toNat_inj.mp
        rw [UInt8.toNat_ofNat']
        omega
      have high : (b.toNat + 256 * ofLe rest) / 256 = ofLe rest := by omega
      rw [List.length_cons, ofLe, toLe, low, high, ih]

/-! ### Sources -/

/-- What a reader finds after the last chunk. -/
inductive Ending (ε : Type) where
  | closed
  | failed (error : ε)
  /-- The other side stays connected and sends nothing. -/
  | silent
deriving DecidableEq, Repr

/-- A read that returns no item means the end, so no chunk is empty. -/
abbrev Chunk (α : Type) : Type := { items : List α // items ≠ [] }

structure Source (α ε : Type) where
  chunks : List (Chunk α)
  ending : Ending ε

inductive ReadError (ε : Type) where
  | unexpectedEof
  | other (error : ε)
deriving DecidableEq, Repr

namespace Source

variable {α ε : Type}

def items (s : Source α ε) : List α := s.chunks.flatMap Subtype.val

/-- What an unfinished read comes to at the end; `none` waits. -/
def atEnd (ending : Ending ε) : Option (Except (ReadError ε) (List α × Source α ε)) :=
  match ending with
  | .closed => some (.error .unexpectedEof)
  | .failed error => some (.error (.other error))
  | .silent => none

/-- Put what is left of a chunk back in front. -/
def putBack (left : List α) (chunks : List (Chunk α)) : List (Chunk α) :=
  if kept : left ≠ [] then ⟨left, kept⟩ :: chunks else chunks

/-- Read chunks into a buffer with `n` places left. A full buffer makes no more reads. -/
def readChunks (ending : Ending ε) (n : ℕ) :
    List (Chunk α) → Option (Except (ReadError ε) (List α × Source α ε))
  | [] => if n = 0 then some (.ok ([], ⟨[], ending⟩)) else atEnd ending
  | chunk :: rest =>
      if n < chunk.val.length then
        some (.ok (chunk.val.take n, ⟨putBack (chunk.val.drop n) rest, ending⟩))
      else
        match readChunks ending (n - chunk.val.length) rest with
        | some (.ok (items, left)) => some (.ok (chunk.val ++ items, left))
        | outcome => outcome

/-- `read_exact`. -/
def readExact (n : ℕ) (s : Source α ε) : Option (Except (ReadError ε) (List α × Source α ε)) :=
  readChunks s.ending n s.chunks

theorem putBack_items (left : List α) (chunks : List (Chunk α)) :
    (putBack left chunks).flatMap Subtype.val = left ++ chunks.flatMap Subtype.val := by
  unfold putBack
  split
  · rfl
  · rename_i empty
    rw [not_not.mp empty, List.nil_append]

/-- A source with enough items fills the buffer and stands behind them. -/
theorem readExact_of_le {s : Source α ε} {n : ℕ} (enough : n ≤ s.items.length) :
    ∃ rest, s.readExact n = some (.ok (s.items.take n, rest)) ∧
      rest.items = s.items.drop n ∧ rest.ending = s.ending := by
  obtain ⟨chunks, ending⟩ := s
  simp only [readExact, items] at *
  induction chunks generalizing n with
  | nil =>
      have none : n = 0 := Nat.le_zero.mp enough
      subst none
      exact ⟨⟨[], ending⟩, rfl, rfl, rfl⟩
  | cons chunk more ih =>
      rw [List.flatMap_cons] at enough ⊢
      rw [List.length_append] at enough
      unfold readChunks
      split
      · rename_i inside
        refine ⟨⟨putBack (chunk.val.drop n) more, ending⟩, ?_, ?_, rfl⟩
        · rw [List.take_append_of_le_length (Nat.le_of_lt inside)]
        · rw [putBack_items, List.drop_append_of_le_length (Nat.le_of_lt inside)]
      · rename_i whole
        have long : chunk.val.length ≤ n := Nat.le_of_not_lt whole
        obtain ⟨rest, read, left, ends⟩ := ih (n := n - chunk.val.length) (by omega)
        refine ⟨rest, ?_, ?_, ends⟩
        · rw [read, List.take_append, List.take_of_length_le long]
        · rw [left, List.drop_append, List.drop_of_length_le long, List.nil_append]

/-- A source with too few items is read to its end. -/
theorem readExact_of_lt {s : Source α ε} {n : ℕ} (short : s.items.length < n) :
    s.readExact n = atEnd s.ending := by
  obtain ⟨chunks, ending⟩ := s
  simp only [readExact, items] at *
  induction chunks generalizing n with
  | nil =>
      have some : n ≠ 0 := Nat.ne_of_gt short
      rw [readChunks, if_neg some]
  | cons chunk more ih =>
      rw [List.flatMap_cons, List.length_append] at short
      have whole : ¬ n < chunk.val.length := by omega
      rw [readChunks, if_neg whole, ih (by omega)]
      cases ending <;> rfl

/-- Reading is the inverse of appending. -/
theorem readExact_append {s : Source α ε} {front back : List α}
    (given : s.items = front ++ back) :
    ∃ rest, s.readExact front.length = some (.ok (front, rest)) ∧
      rest.items = back ∧ rest.ending = s.ending := by
  have enough : front.length ≤ s.items.length := by rw [given]; simp
  obtain ⟨rest, read, left, ends⟩ := readExact_of_le enough
  refine ⟨rest, ?_, ?_, ends⟩
  · rw [read, given, List.take_left]
  · rw [left, given, List.drop_left]

/-- What was read stood in front of what is left. -/
theorem append_of_readExact {s rest : Source α ε} {n : ℕ} {read : List α}
    (ok : s.readExact n = some (.ok (read, rest))) :
    s.items = read ++ rest.items ∧ read.length = n := by
  by_cases enough : n ≤ s.items.length
  · obtain ⟨rest', read', left, -⟩ := readExact_of_le enough
    rw [ok] at read'
    cases read'
    rw [left, List.take_append_drop, List.length_take]
    exact ⟨rfl, Nat.min_eq_left enough⟩
  · rw [readExact_of_lt (Nat.lt_of_not_le enough)] at ok
    unfold atEnd at ok
    split at ok <;> cases ok

end Source

end Bytes
