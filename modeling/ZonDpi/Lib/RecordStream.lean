import Mathlib.Data.List.Basic
import Mathlib.Data.Nat.Notation

/-!
Streams of records: a tag of three bytes, the length of the content as two bytes, the higher
one first, and the content.

The reader takes one byte at a time and gives out the content, every byte with the tag of its
record. What it has given out and where it stands is a matter of the bytes alone, however they
arrive (`read_append`). Where a record ends inside the content of a longer one that goes on
under the same tag, it cannot be observed (`read_split`).
-/

namespace RecordStream

/-! ### Numbers of two bytes -/

def ofBe (high low : UInt8) : ℕ := high.toNat * 256 + low.toNat

def toBe (n : ℕ) : List UInt8 := [UInt8.ofNat (n / 256), UInt8.ofNat n]

@[simp] theorem length_toBe (n : ℕ) : (toBe n).length = 2 := rfl

theorem ofBe_lt (high low : UInt8) : ofBe high low < 65536 := by
  have := high.toNat_lt
  have := low.toNat_lt
  unfold ofBe
  omega

theorem ofBe_toBe {n : ℕ} (small : n < 65536) :
    ofBe (UInt8.ofNat (n / 256)) (UInt8.ofNat n) = n := by
  rw [ofBe, UInt8.toNat_ofNat', UInt8.toNat_ofNat']
  omega

theorem toBe_ofBe (high low : UInt8) : toBe (ofBe high low) = [high, low] := by
  have := high.toNat_lt
  have := low.toNat_lt
  have first : UInt8.ofNat (ofBe high low / 256) = high := by
    apply UInt8.toNat_inj.mp
    rw [UInt8.toNat_ofNat', ofBe]
    omega
  have second : UInt8.ofNat (ofBe high low) = low := by
    apply UInt8.toNat_inj.mp
    rw [UInt8.toNat_ofNat', ofBe]
    omega
  rw [toBe, first, second]

/-! ### The reader -/

structure Tag where
  kind : UInt8
  major : UInt8
  minor : UInt8
deriving DecidableEq, Repr

def Tag.bytes (tag : Tag) : List UInt8 := [tag.kind, tag.major, tag.minor]

@[simp] theorem Tag.length_bytes (tag : Tag) : tag.bytes.length = 3 := rfl

/-- Where a reader stands. -/
inductive Place where
  /-- In a header, behind these bytes of it. -/
  | head (seen : List UInt8)
  /-- In a record that goes on for so many bytes. -/
  | body (tag : Tag) (left : ℕ)
deriving DecidableEq, Repr

/-- Between two records. -/
def Place.start : Place := .head []

def enter (tag : Tag) (length : ℕ) : Place := if length = 0 then .start else .body tag length

def step : Place → UInt8 → Place × Option (Tag × UInt8)
  | .head [kind, major, minor, high], low => (enter ⟨kind, major, minor⟩ (ofBe high low), none)
  | .head seen, byte => (.head (seen ++ [byte]), none)
  | .body tag left, byte => (enter tag (left - 1), some (tag, byte))

def read : Place → List UInt8 → Place × List (Tag × UInt8)
  | place, [] => (place, [])
  | place, byte :: rest =>
      let next := step place byte
      let later := read next.1 rest
      (later.1, next.2.toList ++ later.2)

/-- The headers that are completed by some bytes, with the lengths in them. -/
def heads : Place → List UInt8 → List (Tag × ℕ)
  | _, [] => []
  | .head [kind, major, minor, high], low :: rest =>
      (⟨kind, major, minor⟩, ofBe high low) ::
        heads (enter ⟨kind, major, minor⟩ (ofBe high low)) rest
  | place, byte :: rest => heads (step place byte).1 rest

theorem heads_cons (place : Place) (byte : UInt8) (rest : List UInt8) :
    heads place (byte :: rest) = heads place [byte] ++ heads (step place byte).1 rest := by
  cases place with
  | body tag left => rfl
  | head seen => rcases seen with _ | ⟨_, _ | ⟨_, _ | ⟨_, _ | ⟨_, _ | ⟨_, _⟩⟩⟩⟩⟩ <;> rfl

theorem heads_append (place : Place) (front back : List UInt8) :
    heads place (front ++ back) = heads place front ++ heads (read place front).1 back := by
  induction front generalizing place with
  | nil => rfl
  | cons byte front ih =>
      rw [List.cons_append, heads_cons, ih, heads_cons place byte front, List.append_assoc]
      rfl

theorem read_append (place : Place) (front back : List UInt8) :
    read place (front ++ back) =
      ((read (read place front).1 back).1,
        (read place front).2 ++ (read (read place front).1 back).2) := by
  induction front generalizing place with
  | nil => rfl
  | cons byte front ih => simp [read, ih]

/-- A reader is led into a record by its header. -/
theorem read_header (tag : Tag) (high low : UInt8) (rest : List UInt8) :
    read .start (tag.bytes ++ (high :: low :: rest)) = read (enter tag (ofBe high low)) rest := rfl

theorem read_header_toBe (tag : Tag) {n : ℕ} (small : n < 65536) (rest : List UInt8) :
    read .start (tag.bytes ++ (toBe n ++ rest)) = read (enter tag n) rest :=
  (read_header tag _ _ rest).trans (by rw [ofBe_toBe small])

/-- A record gives out its content under its tag. -/
theorem read_enter (tag : Tag) {left : ℕ} {content : List UInt8} (fits : content.length ≤ left) :
    read (enter tag left) content =
      (enter tag (left - content.length), content.map (tag, ·)) := by
  induction content generalizing left with
  | nil => rfl
  | cons byte content ih =>
      have room : content.length ≤ left - 1 := by simp at fits; omega
      have inside : enter tag left = .body tag left := if_neg (by simp at fits; omega)
      have less : left - 1 - content.length = left - (content.length + 1) := by omega
      simp only [inside, read, step, ih room, less, List.length_cons, List.map_cons,
        Option.toList_some, List.singleton_append]

/-- A record cut in two is read as the one it was, whatever follows. -/
theorem read_split (tag : Tag) {first rest : List UInt8} {length : ℕ}
    (within : first.length ≤ length) (small : length < 65536) :
    read .start (tag.bytes ++ (toBe first.length ++
      (first ++ (tag.bytes ++ (toBe (length - first.length) ++ rest))))) =
        read .start (tag.bytes ++ (toBe length ++ (first ++ rest))) := by
  have whole : enter tag (first.length - first.length) = .start := by simp [enter]
  rw [read_header_toBe tag (by omega), read_header_toBe tag small,
    read_append (enter tag first.length), read_append (enter tag length),
    read_enter tag (Nat.le_refl _), read_enter tag within]
  simp only [whole, read_header_toBe tag (show length - first.length < 65536 by omega)]

end RecordStream
