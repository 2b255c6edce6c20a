import Mathlib.Data.List.Basic
import Mathlib.Data.List.Forall2
import Mathlib.Data.List.TakeDrop
import Mathlib.Data.Nat.Notation

/-!
Texts in byte buffers: the first occurrence of a pattern, changes in place, and lines.

Nothing here grows or shrinks a buffer: `write` and `move` are `memcpy` and `memmove`
inside it. A move is an equation on a buffer that is already cut in the right places
(`move_right` and `move_left` by one place, `move_forward` by any number). `lines` cuts at
every CR LF; a text joined with a CR LF has the lines of its parts (`lines_append`).
-/

namespace ByteText

/-! ### The first occurrence -/

section Find

variable {α : Type} [DecidableEq α]

def find (pattern : List α) : List α → Option ℕ
  | [] => if pattern = [] then some 0 else none
  | c :: rest => if pattern <+: c :: rest then some 0 else (find pattern rest).map (· + 1)

variable {pattern text : List α} {i : ℕ}

theorem cut_of_find (found : find pattern text = some i) :
    ∃ front back, text = front ++ pattern ++ back ∧ front.length = i := by
  induction text generalizing i with
  | nil =>
      rw [find] at found
      split_ifs at found with empty
      cases found
      exact ⟨[], [], by simp [empty], rfl⟩
  | cons c rest ih =>
      rw [find] at found
      split_ifs at found with here
      · cases found
        obtain ⟨back, whole⟩ := here
        exact ⟨[], back, by simpa using whole.symm, rfl⟩
      · obtain ⟨j, later, rfl⟩ := Option.map_eq_some_iff.mp found
        obtain ⟨front, back, rfl, length⟩ := ih later
        exact ⟨c :: front, back, by simp, by simp [length]⟩

omit [DecidableEq α] in
/-- A text without the sign lies before the first one. -/
theorem before_sign {sign : α} {solid front rest back : List α} (without : sign ∉ solid)
    (same : front ++ sign :: rest = solid ++ back) : ∃ middle, front = solid ++ middle := by
  obtain ⟨between, longer, follows⟩ | ⟨between, shorter, -⟩ := List.append_eq_append_iff.mp same
  · cases between with
    | nil => exact ⟨[], by simpa using longer.symm⟩
    | cons c between =>
        obtain ⟨rfl, -⟩ := List.cons.inj follows
        exact absurd (by simp [longer]) without
  · exact ⟨between, shorter⟩

omit [DecidableEq α] in
/-- A pattern that begins with a sign it has nowhere else is over before the next such. -/
theorem over_before {sign : α} {one two between back back' : List α} (once : sign ∉ one)
    (differ : ¬ sign :: one <+: sign :: two) (differ' : ¬ sign :: two <+: sign :: one)
    (same : sign :: one ++ back = between ++ (sign :: two ++ back')) :
    ∃ rest, between = sign :: one ++ rest := by
  cases between with
  | nil =>
      have first : sign :: one <+: sign :: two ++ back' := ⟨back, same⟩
      have second : sign :: two <+: sign :: two ++ back' := List.prefix_append _ _
      obtain shorter | longer := List.prefix_or_prefix_of_prefix first second
      · exact absurd shorter differ
      · exact absurd longer differ'
  | cons c between =>
      obtain ⟨rfl, later⟩ := List.cons.inj same
      obtain ⟨rest, longer, -⟩ | ⟨rest, shorter, follows⟩ := List.append_eq_append_iff.mp later
      · exact ⟨rest, congrArg (sign :: ·) longer⟩
      · cases rest with
        | nil => exact ⟨[], by simpa using shorter.symm⟩
        | cons d rest =>
            obtain ⟨rfl, -⟩ := List.cons.inj follows
            exact absurd (by simp [shorter]) once

omit [DecidableEq α] in
/-- Two such patterns do not overlap. -/
theorem apart {sign : α} {one two front back front' back' : List α}
    (once : sign ∉ one) (once' : sign ∉ two)
    (differ : ¬ sign :: one <+: sign :: two) (differ' : ¬ sign :: two <+: sign :: one)
    (same : front ++ (sign :: one ++ back) = front' ++ (sign :: two ++ back')) :
    (∃ rest, front' = front ++ (sign :: one ++ rest)) ∨
      ∃ rest, front = front' ++ (sign :: two ++ rest) := by
  obtain ⟨between, after, follows⟩ | ⟨between, before, follows⟩ := List.append_eq_append_iff.mp same
  · obtain ⟨rest, rfl⟩ := over_before once differ differ' follows
    exact .inl ⟨rest, after⟩
  · obtain ⟨rest, rfl⟩ := over_before once' differ' differ follows
    exact .inr ⟨rest, before⟩

end Find

/-! ### Changes in place -/

section Changes

variable {α : Type}

def write (place : ℕ) (items : List α) (buffer : List α) : List α :=
  buffer.take place ++ items ++ buffer.drop (place + items.length)

def move (dst src n : ℕ) (buffer : List α) : List α :=
  buffer.take dst ++ (buffer.drop src).take n ++ buffer.drop (dst + n)

theorem write_cut {front old items back : List α} {place : ℕ} (start : front.length = place)
    (length : old.length = items.length) :
    write place items (front ++ (old ++ back)) = front ++ (items ++ back) := by
  subst start
  rw [write, List.take_left, ← length, ← List.append_assoc front old back, ← List.length_append,
    List.drop_left, List.append_assoc]

theorem length_move {dst src n : ℕ} {buffer : List α} (room : dst + n ≤ buffer.length)
    (within : src + n ≤ buffer.length) : (move dst src n buffer).length = buffer.length := by
  simp [move]
  omega

theorem length_write_move {place dst src n : ℕ} {item : α} {buffer : List α}
    (inside : place < buffer.length) (room : dst + n ≤ buffer.length)
    (within : src + n ≤ buffer.length) :
    (write place [item] (move dst src n buffer)).length = buffer.length := by
  have moved := length_move room within
  simp [write]
  omega

/-- The items after `front` go one place to the right, over what stood behind them. -/
theorem move_right {front items back : List α} {first lost : α} {src n : ℕ}
    (start : front.length = src) (length : items.length + 1 = n) :
    move (src + 1) src n (front ++ (first :: items ++ lost :: back)) =
      front ++ (first :: (first :: items) ++ back) := by
  subst start length
  have whole : front ++ (first :: items ++ lost :: back) =
      (front ++ [first]) ++ ((items ++ [lost]) ++ back) := by simp
  have taken : (front ++ (first :: items ++ lost :: back)).take (front.length + 1) =
      front ++ [first] := by
    rw [whole, List.take_left' (by simp)]
  have dropped : (front ++ (first :: items ++ lost :: back)).drop
      (front.length + 1 + (items.length + 1)) = back := by
    rw [whole, ← List.append_assoc, List.drop_left' (by simp; omega)]
  rw [move, taken, dropped, List.drop_left, List.take_left' (by simp)]
  simp

/-- The items behind `lost` go one place to the left, over it; the last one stays as well. -/
theorem move_left {front items back : List α} {last lost : α} {dst n : ℕ}
    (start : front.length = dst) (length : items.length + 1 = n) :
    move dst (dst + 1) n (front ++ (lost :: (items ++ [last]) ++ back)) =
      front ++ (items ++ [last] ++ last :: back) := by
  subst start length
  have whole : front ++ (lost :: (items ++ [last]) ++ back) =
      (front ++ [lost]) ++ ((items ++ [last]) ++ back) := by simp
  have split : front ++ (lost :: (items ++ [last]) ++ back) =
      (front ++ lost :: items) ++ (last :: back) := by simp
  have dropped : (front ++ (lost :: (items ++ [last]) ++ back)).drop
      (front.length + (items.length + 1)) = last :: back := by
    rw [split, List.drop_left' (by simp)]
  have moved : ((front ++ (lost :: (items ++ [last]) ++ back)).drop (front.length + 1)).take
      (items.length + 1) = items ++ [last] := by
    rw [whole, List.drop_left' (by simp), List.take_left' (by simp)]
  rw [move, dropped, moved, List.take_left]
  simp

/-- The items after `front` go to the right by the length of what they run over there. -/
theorem move_forward {front items lost back : List α} {src n k : ℕ} (start : front.length = src)
    (length : items.length = n) (width : lost.length = k) :
    move (src + k) src n (front ++ (items ++ (lost ++ back))) =
      front ++ ((items ++ lost).take k ++ (items ++ back)) := by
  subst start length width
  have whole : front ++ (items ++ (lost ++ back)) = (front ++ (items ++ lost)) ++ back := by simp
  have gap : (front ++ (items ++ (lost ++ back))).take (front.length + lost.length) =
      front ++ (items ++ lost).take lost.length := by
    rw [List.take_length_add_append, ← List.append_assoc items,
      List.take_append_of_le_length (by simp)]
  have dropped : (front ++ (items ++ (lost ++ back))).drop
      (front.length + lost.length + items.length) = back := by
    rw [whole, List.drop_left' (by simp; omega)]
  rw [move, gap, dropped, List.drop_left, List.take_left]
  simp

end Changes

/-! ### Lines -/

def cr : UInt8 := 13

def lf : UInt8 := 10

def crlf : List UInt8 := [cr, lf]

/-- Put bytes in front of the first line. -/
def prepend (bytes : List UInt8) : List (List UInt8) → List (List UInt8)
  | [] => [bytes]
  | line :: rest => (bytes ++ line) :: rest

def lines : List UInt8 → List (List UInt8)
  | [] => [[]]
  | [c] => [[c]]
  | c :: d :: rest =>
      if c = cr ∧ d = lf then [] :: lines rest else prepend [c] (lines (d :: rest))

theorem lines_ne_nil (text : List UInt8) : lines text ≠ [] := by
  induction text using lines.induct with
  | case1 => simp [lines]
  | case2 c => simp [lines]
  | case3 c d rest both ih => simp [lines, both]
  | case4 c d rest other ih =>
      rw [lines, if_neg other]
      cases lines (d :: rest) <;> simp [prepend]

theorem lines_crlf (text : List UInt8) : lines (crlf ++ text) = [] :: lines text := by
  rw [crlf, List.cons_append, List.singleton_append, lines, if_pos ⟨rfl, rfl⟩]

theorem prepend_append {first more : List (List UInt8)} (bytes : List UInt8) (some : first ≠ []) :
    prepend bytes (first ++ more) = prepend bytes first ++ more := by
  cases first with
  | nil => exact absurd rfl some
  | cons line rest => rfl

/-- A line break parts the lines. -/
theorem lines_append (front back : List UInt8) :
    lines (front ++ (crlf ++ back)) = lines front ++ lines back := by
  induction front using lines.induct with
  | case1 => rw [List.nil_append, lines_crlf, lines, List.singleton_append]
  | case2 c =>
      have other : ¬ (c = cr ∧ cr = lf) := fun both => absurd both.2 (by decide)
      have step : lines ([c] ++ (crlf ++ back)) = prepend [c] (lines (crlf ++ back)) :=
        (lines.eq_3 c cr (lf :: back)).trans (if_neg other)
      rw [step, lines_crlf]
      rfl
  | case3 c d rest both ih =>
      rw [List.cons_append, List.cons_append, lines, if_pos both, ih, lines, if_pos both,
        List.cons_append]
  | case4 c d rest other ih =>
      rw [List.cons_append, List.cons_append, lines, if_neg other, ← List.cons_append, ih,
        prepend_append _ (lines_ne_nil _), lines, if_neg other]

theorem lines_cons {c : UInt8} (solid : c ≠ cr) (text : List UInt8) :
    lines (c :: text) = prepend [c] (lines text) := by
  cases text with
  | nil => rfl
  | cons d rest =>
      rw [lines, if_neg fun both => solid both.1]

theorem prepend_prepend (first second : List UInt8) {text : List (List UInt8)} :
    prepend first (prepend second text) = prepend (first ++ second) text := by
  cases text with
  | nil => rfl
  | cons line rest => rw [prepend, prepend, prepend, List.append_assoc]

/-- Bytes without a CR belong to the first line. -/
theorem lines_prepend {bytes : List UInt8} (solid : cr ∉ bytes) (text : List UInt8) :
    lines (bytes ++ text) = prepend bytes (lines text) := by
  induction bytes with
  | nil =>
      obtain ⟨line, rest, same⟩ := List.exists_cons_of_ne_nil (lines_ne_nil text)
      rw [List.nil_append, same, prepend, List.nil_append]
  | cons c bytes ih =>
      have first : c ≠ cr := fun same => solid (by simp [same])
      have others : cr ∉ bytes := fun member => solid (List.mem_cons_of_mem _ member)
      rw [List.cons_append, lines_cons first, ih others, prepend_prepend, List.singleton_append]

/-- A text without a line break. -/
def Unbroken (text : List UInt8) : Prop := lines text = [text]

theorem unbroken_cons_cons {c d : UInt8} {rest : List UInt8} :
    Unbroken (c :: d :: rest) ↔ ¬ (c = cr ∧ d = lf) ∧ Unbroken (d :: rest) := by
  rw [Unbroken, Unbroken, lines]
  split_ifs with both
  · exact iff_of_false (by simp) fun unbroken => unbroken.1 both
  · obtain ⟨line, more, same⟩ := List.exists_cons_of_ne_nil (lines_ne_nil (d :: rest))
    rw [same, prepend]
    simp [both]

/-- What stands before the first line break is a line. -/
theorem unbroken_of_find {front back : List UInt8}
    (found : find crlf (front ++ (crlf ++ back)) = some front.length) : Unbroken front := by
  induction front with
  | nil => rfl
  | cons c front ih =>
      rw [List.cons_append, find] at found
      split_ifs at found with here
      · cases found
      obtain ⟨i, later, next⟩ := Option.map_eq_some_iff.mp found
      have unbroken : Unbroken front := ih (by rw [later, Nat.succ.inj next])
      cases front with
      | nil => rfl
      | cons d front =>
          refine unbroken_cons_cons.mpr ⟨?_, unbroken⟩
          rintro ⟨rfl, rfl⟩
          exact here ⟨front ++ (crlf ++ back), rfl⟩

/-- Bytes changed neither into nor from those of a line break leave a line whole. -/
theorem Unbroken.related {changed : UInt8 → UInt8 → Prop} {text other : List UInt8}
    (unbroken : Unbroken text) (related : List.Forall₂ changed text other)
    (keepsCr : ∀ c d, changed c d → d = cr → c = cr)
    (keepsLf : ∀ c d, changed c d → d = lf → c = lf) : Unbroken other := by
  induction related with
  | nil => rfl
  | @cons c c' rest rest' first others ih =>
      cases others with
      | nil => rfl
      | @cons d d' more more' second later =>
          obtain ⟨apart, whole⟩ := unbroken_cons_cons.mp unbroken
          refine unbroken_cons_cons.mpr ⟨?_, ih whole⟩
          rintro ⟨sameCr, sameLf⟩
          exact apart ⟨keepsCr c c' first sameCr, keepsLf d d' second sameLf⟩

theorem Unbroken.concat {text : List UInt8} (unbroken : Unbroken text) {c : UInt8}
    (other : c ≠ lf) : Unbroken (text ++ [c]) := by
  induction text with
  | nil => rfl
  | cons d rest ih =>
      cases rest with
      | nil => exact unbroken_cons_cons.mpr ⟨fun both => other both.2, rfl⟩
      | cons e rest =>
          obtain ⟨apart, whole⟩ := unbroken_cons_cons.mp unbroken
          exact unbroken_cons_cons.mpr ⟨apart, ih whole⟩

/-- The first line ends with the text or with a line break. -/
theorem cut_of_lines {text line : List UInt8} {rest : List (List UInt8)}
    (cut : lines text = line :: rest) :
    Unbroken line ∧
      ((text = line ∧ rest = []) ∨ ∃ back, text = line ++ (crlf ++ back) ∧ lines back = rest) := by
  induction text using lines.induct generalizing line with
  | case1 =>
      cases cut
      exact ⟨rfl, .inl ⟨rfl, rfl⟩⟩
  | case2 c =>
      cases cut
      exact ⟨rfl, .inl ⟨rfl, rfl⟩⟩
  | case3 c d more both ih =>
      rw [lines, if_pos both] at cut
      cases cut
      obtain ⟨rfl, rfl⟩ := both
      exact ⟨rfl, .inr ⟨more, rfl, rfl⟩⟩
  | case4 c d more other ih =>
      rw [lines, if_neg other] at cut
      obtain ⟨first, others, same⟩ := List.exists_cons_of_ne_nil (lines_ne_nil (d :: more))
      rw [same] at cut
      cases cut
      obtain ⟨whole, ends⟩ := ih same
      constructor
      · cases first with
        | nil => rfl
        | cons e first =>
            have head : e = d := by
              obtain ⟨shape, -⟩ | ⟨back, shape, -⟩ := ends
              · exact (List.cons.inj shape).1.symm
              · exact (List.cons.inj shape).1.symm
            exact unbroken_cons_cons.mpr ⟨head ▸ other, whole⟩
      · obtain ⟨shape, last⟩ | ⟨back, shape, later⟩ := ends
        · exact .inl ⟨by rw [shape, List.singleton_append], last⟩
        · exact .inr ⟨back, by rw [shape]; rfl, later⟩

end ByteText
