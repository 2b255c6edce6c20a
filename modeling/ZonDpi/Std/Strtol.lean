import Mathlib.Algebra.Order.Ring.Int
import Mathlib.Data.List.TakeWhile
import ZonDpi.Std.Text

/-!
C's number functions on Windows, where `long` has 32 bits.

They pass over white space and a sign and read as many digits as there are; what is
left over is the caller's business, and a number too large becomes the largest one.
-/

namespace ZonDpi.Std

def isSpace (c : Char) : Bool :=
  c == ' ' || c == '\t' || c == '\n' || c == '\x0b' || c == '\x0c' || c == '\r'

/-- Whether there is a minus sign, and the text behind the sign. -/
def splitSign : List Char → Bool × List Char
  | '-' :: rest => (true, rest)
  | '+' :: rest => (false, rest)
  | text => (false, text)

/-- `strtoul` in base 10, without the end pointer. -/
def strtoul (text : List Char) : Nat :=
  let (negative, body) := splitSign (text.dropWhile isSpace)
  let value := digitsValue 10 (body.takeWhile (isDigitOf 10))
  if value > u32Max then u32Max
  else if negative then (2 ^ 32 - value) % 2 ^ 32
  else value

/-- `atoi`. -/
def atoi (text : List Char) : Int :=
  let (negative, body) := splitSign (text.dropWhile isSpace)
  let value := digitsValue 10 (body.takeWhile (isDigitOf 10))
  if negative then (if value > 2 ^ 31 then -2 ^ 31 else -value)
  else (if value > 2 ^ 31 - 1 then 2 ^ 31 - 1 else value)

/-- The base that `strtol` chooses if it is given none, and the digits. -/
def splitBase : List Char → Nat × List Char
  | '0' :: 'x' :: c :: rest =>
      if isDigitOf 16 c then (16, c :: rest) else (8, '0' :: 'x' :: c :: rest)
  | '0' :: 'X' :: c :: rest =>
      if isDigitOf 16 c then (16, c :: rest) else (8, '0' :: 'X' :: c :: rest)
  | '0' :: rest => (8, '0' :: rest)
  | text => (10, text)

/-- `strtol` in base 0: the number, and the text at the end pointer. -/
def strtol (text : List Char) : Int × List Char :=
  let (negative, body) := splitSign (text.dropWhile isSpace)
  let (base, digits) := splitBase body
  let value := digitsValue base (digits.takeWhile (isDigitOf base))
  if digits.takeWhile (isDigitOf base) = [] then (0, text)
  else
    (if negative then (if value > 2 ^ 31 then -2 ^ 31 else -value)
      else (if value > 2 ^ 31 - 1 then 2 ^ 31 - 1 else value),
      digits.dropWhile (isDigitOf base))

example : strtoul " +12x".toList = 12 ∧ strtoul "-1".toList = u32Max ∧ strtoul "x".toList = 0 ∧
    atoi "-80".toList = -80 := by decide

example : strtol "3+s".toList = (3, "+s".toList) ∧ strtol "-0x10".toList = (-16, []) ∧
    strtol "010".toList = (8, []) ∧ strtol "09".toList = (0, ['9']) ∧
    strtol ":".toList = (0, [':']) := by decide

/-! ### Decimal numbers -/

theorem digitValue_of_isDigit {c : Char} (digit : c.isDigit = true) :
    digitValue 10 c = some (c.toNat - '0'.toNat) := by
  have bounds : '0' ≤ c ∧ c ≤ '9' := by
    simpa [Char.isDigit, Char.le_def] using digit
  have small : c.toNat - '0'.toNat < 10 := by
    have high : c.toNat ≤ '9'.toNat := bounds.2
    have low : '0'.toNat + 9 = '9'.toNat := rfl
    omega
  rw [digitValue, if_pos bounds]
  simp only [Option.filter_some, decide_eq_true small, if_true]

theorem isDigit_toString {n : Nat} {c : Char} (member : c ∈ (toString n).toList) :
    c.isDigit = true := by
  rw [Nat.toString_eq_repr, Nat.toList_repr] at member
  exact Nat.isDigit_of_mem_toDigits (by decide) (by decide) member

theorem isDigitOf_toString {n : Nat} {c : Char} (member : c ∈ (toString n).toList) :
    isDigitOf 10 c = true := by
  rw [isDigitOf, digitValue_of_isDigit (isDigit_toString member)]
  rfl

theorem toList_toString_ne_nil {n : Nat} : (toString n).toList ≠ [] := by
  rw [Nat.toString_eq_repr, Nat.toList_repr]
  exact Nat.toDigits_ne_nil

theorem digitsValue_toString (n : Nat) : digitsValue 10 (toString n).toList = n := by
  have digits : ∀ c ∈ Nat.toDigits 10 n, c.isDigit = true :=
    fun c member => Nat.isDigit_of_mem_toDigits (by decide) (by decide) member
  rw [Nat.toString_eq_repr, Nat.toList_repr]
  calc digitsValue 10 (Nat.toDigits 10 n)
      = Nat.ofDigitChars 10 (Nat.toDigits 10 n) 0 := by
        rw [Nat.ofDigitChars_eq_foldl]
        refine List.foldl_ext _ _ 0 fun value c member => ?_
        rw [digitValue_of_isDigit (digits c member), Nat.mul_comm]
        rfl
    _ = n := Nat.ofDigitChars_toDigits (by decide) (by decide)

theorem not_isSpace_of_digit {c : Char} (digit : isDigitOf 10 c = true) : isSpace c = false := by
  by_contra space
  simp only [isSpace, Bool.not_eq_false, Bool.or_eq_true, beq_iff_eq] at space
  rcases space with ((((rfl | rfl) | rfl) | rfl) | rfl) | rfl <;> exact absurd digit (by decide)

theorem splitSign_of_digit {c : Char} {text : List Char} (digit : isDigitOf 10 c = true) :
    splitSign (c :: text) = (false, c :: text) := by
  unfold splitSign
  split
  · rename_i same
    cases same
    exact absurd digit (by decide)
  · rename_i same
    cases same
    exact absurd digit (by decide)
  · rfl

/-- Digits, with or without a plus sign before them, are read as what they say. -/
theorem strtoul_digits {text digits : List Char} (signed : text = digits ∨ text = '+' :: digits)
    (some_digit : digits ≠ []) (all : ∀ c ∈ digits, isDigitOf 10 c = true) :
    strtoul text = min (digitsValue 10 digits) u32Max := by
  obtain ⟨c, rest, rfl⟩ := List.exists_cons_of_ne_nil some_digit
  have first := all c (by simp)
  have body : splitSign (text.dropWhile isSpace) = (false, c :: rest) := by
    rcases signed with rfl | rfl
    · rw [List.dropWhile_cons_of_neg (by simp [not_isSpace_of_digit first]),
        splitSign_of_digit first]
    · rfl
  simp only [strtoul, body, List.takeWhile_eq_self_iff.mpr all, Bool.false_eq_true, if_false]
  split <;> omega

theorem strtoul_toString (n : Nat) : strtoul (toString n).toList = min n u32Max := by
  rw [strtoul_digits (.inl rfl) toList_toString_ne_nil (fun _ => isDigitOf_toString),
    digitsValue_toString]

/-- A number that is written in decimal is read back. -/
theorem parseUnsigned_toString {maximum n : Nat} (small : n ≤ maximum) :
    parseUnsigned maximum (toString n) = some n := by
  obtain ⟨c, rest, text⟩ := List.exists_cons_of_ne_nil (toList_toString_ne_nil (n := n))
  have digit : isDigitOf 10 c = true := isDigitOf_toString (text ▸ List.mem_cons_self)
  have all : (toString n).toList.all (isDigitOf 10) = true :=
    List.all_eq_true.mpr fun _ => isDigitOf_toString
  have value := digitsValue_toString n
  unfold parseUnsigned
  rw [text] at all value ⊢
  split
  · rename_i plus
    cases plus
    exact absurd digit (by decide)
  · simp [all, value, small]

theorem le_of_parseUnsigned {maximum n : Nat} {s : String}
    (parsed : parseUnsigned maximum s = some n) : n ≤ maximum := by
  unfold parseUnsigned at parsed
  dsimp only at parsed
  split_ifs at parsed with empty digits small
  cases parsed
  exact small

/-- A number that Rust reads, C reads as well. -/
theorem strtoul_of_parseUnsigned {maximum n : Nat} {s : String}
    (parsed : parseUnsigned maximum s = some n) : strtoul s.toList = min n u32Max := by
  have read : ∀ digits, (s.toList = digits ∨ s.toList = '+' :: digits) →
      (if digits = [] then none
        else if !digits.all (isDigitOf 10) then none
        else if digitsValue 10 digits ≤ maximum then some (digitsValue 10 digits) else none) =
          some n →
      strtoul s.toList = min n u32Max := by
    intro digits signed parsed
    split_ifs at parsed with empty other small
    cases parsed
    simp only [Bool.not_eq_true', Bool.not_eq_false, List.all_eq_true] at other
    exact strtoul_digits signed empty other
  refine read _ ?_ parsed
  split
  · rename_i same
    exact .inr same
  · exact .inl rfl

theorem head_of_parseUnsigned {maximum n : Nat} {s : String}
    (parsed : parseUnsigned maximum s = some n) : s.toList.head? ≠ some '-' := by
  intro dash
  obtain ⟨rest, text⟩ : ∃ rest, s.toList = '-' :: rest := by
    cases text : s.toList with
    | nil => simp [text] at dash
    | cons c rest =>
        rw [text] at dash
        cases dash
        exact ⟨rest, rfl⟩
  have other : isDigitOf 10 '-' = false := by decide
  simp [parseUnsigned, text, other] at parsed

/-! ### Decimal numbers in base 0 -/

theorem splitBase_of_ne_zero {c : Char} {rest : List Char} (other : c ≠ '0') :
    splitBase (c :: rest) = (10, c :: rest) := by
  unfold splitBase
  split <;> simp_all

theorem head_toDigits_ne_zero {n : Nat} (positive : 0 < n) :
    (Nat.toDigits 10 n).head? ≠ some '0' := by
  induction n using Nat.strongRecOn with
  | ind n ih =>
      by_cases small : n < 10
      · rw [Nat.toDigits_of_lt_base small]
        have digit : ∀ m < 10, 0 < m → [m.digitChar].head? ≠ some '0' := by decide
        exact digit n small positive
      · have fewer : 0 < n / 10 := by omega
        rw [Nat.toDigits_of_base_le (by decide) (by omega),
          List.head?_append_of_ne_nil _ Nat.toDigits_ne_nil]
        exact ih (n / 10) (by omega) fewer

/-- A number that Rust writes has no leading zero, so it is decimal to C as well. -/
theorem strtol_toString {n : Nat} (positive : 0 < n) (small : n < 2 ^ 31) :
    strtol (toString n).toList = ((n : Int), []) := by
  have digits : ∀ c ∈ (toString n).toList, isDigitOf 10 c = true := fun _ => isDigitOf_toString
  have value := digitsValue_toString n
  have head : (toString n).toList.head? ≠ some '0' := by
    rw [Nat.toString_eq_repr, Nat.toList_repr]
    exact head_toDigits_ne_zero positive
  obtain ⟨c, rest, text⟩ := List.exists_cons_of_ne_nil (toList_toString_ne_nil (n := n))
  rw [text] at digits value head ⊢
  have first := digits c List.mem_cons_self
  have other : c ≠ '0' := fun same => head (congrArg some same)
  have taken : (c :: rest).takeWhile (isDigitOf 10) = c :: rest :=
    List.takeWhile_eq_self_iff.mpr digits
  have left : (c :: rest).dropWhile (isDigitOf 10) = [] :=
    List.dropWhile_eq_nil_iff.mpr digits
  rw [strtol, List.dropWhile_cons_of_neg (by simp [not_isSpace_of_digit first]),
    splitSign_of_digit first]
  simp only [splitBase_of_ne_zero other, taken, left, value, reduceCtorEq, if_false,
    Bool.false_eq_true]
  rw [if_neg (by omega)]

end ZonDpi.Std
