import Mathlib.Algebra.Ring.Nat
import Mathlib.Data.List.DropRight
import ZonDpi.Std.IpAddr

/-!
Rust's text functions, as far as the service uses them: lower case, substring
search, white space, parsing of unsigned numbers and the `{:?}` form of strings.
-/

namespace ZonDpi.Std

/-- Lower case of one character. The service compares lower-cased text with
ASCII text only, so of the characters outside ASCII only those matter whose
lower case contains ASCII: the Kelvin sign and the dotted capital I. -/
def lowerChar (c : Char) : List Char :=
  if c = '\u212A' then ['k']
  else if c = '\u0130' then ['i', '\u0307']
  else [c.toLower]

def toLowercase (s : String) : List Char := s.toList.flatMap lowerChar

def contains (needle : List Char) : List Char → Bool
  | [] => needle.isEmpty
  | c :: rest => needle.isPrefixOf (c :: rest) || contains needle rest

theorem contains_iff_within {needle text : List Char} :
    contains needle text = true ↔ needle <:+: text := by
  induction text with
  | nil => simp [contains]
  | cons c rest ih => simp [contains, List.infix_cons_iff, ih]

/-- `str::to_lowercase` over all of Unicode, of which only the texts in ASCII are known
here. -/
structure Lowercase where
  apply : String → List Char
  ascii : ∀ s, (∀ c ∈ s.toList, c.toNat < 128) → apply s = s.toList.map Char.toLower

/-- `char::is_whitespace` -/
def isWhitespace (c : Char) : Bool :=
  (0x9 ≤ c.toNat && c.toNat ≤ 0xD) || c.toNat = 0x20 || c.toNat = 0x85 || c.toNat = 0xA0 ||
    c.toNat = 0x1680 || (0x2000 ≤ c.toNat && c.toNat ≤ 0x200A) || c.toNat = 0x2028 ||
    c.toNat = 0x2029 || c.toNat = 0x202F || c.toNat = 0x205F || c.toNat = 0x3000

def trim (s : String) : List Char :=
  ((s.toList.dropWhile isWhitespace).reverse.dropWhile isWhitespace).reverse

/-- `char::is_alphanumeric`: the letters and numbers of Unicode, of which only those in
ASCII are known here. -/
structure Alphanumeric where
  test : Char → Bool
  ascii : ∀ c, c.toNat < 128 → test c = c.isAlphanum

/-- With what Unicode says about white space: none of it is a letter or a number. -/
structure WordChars extends Alphanumeric where
  blank : ∀ c, isWhitespace c = true → test c = false

theorem toNat_of_isAlphanum {c : Char} (letter : c.isAlphanum = true) :
    48 ≤ c.toNat ∧ c.toNat ≤ 122 := by
  change (decide (65 ≤ c.val ∧ c.val ≤ 90) || (decide (97 ≤ c.val) && decide (c.val ≤ 122)) ||
    (decide (48 ≤ c.val) && decide (c.val ≤ 57))) = true at letter
  simp only [Bool.or_eq_true, Bool.and_eq_true, decide_eq_true_eq, UInt32.le_iff_toNat_le,
    UInt32.reduceToNat] at letter
  change 48 ≤ c.val.toNat ∧ c.val.toNat ≤ 122
  omega

theorem isAlphanum_ascii (c : Char) (_ : c.toNat < 128) : Char.isAlphanum c = c.isAlphanum :=
  rfl

/-- The letters and digits of ASCII alone. -/
def asciiWordChars : WordChars where
  test := Char.isAlphanum
  ascii := isAlphanum_ascii
  blank := by
    intro c space
    by_contra letter
    have range := toNat_of_isAlphanum (eq_true_of_ne_false letter)
    simp only [isWhitespace, Bool.or_eq_true, Bool.and_eq_true, decide_eq_true_eq] at space
    omega

/-- `str::trim_end` -/
def trimEnd (s : String) : String := String.ofList (s.toList.rdropWhile isWhitespace)

/-- `str::trim_matches` -/
def trimMatches (drops : Char → Bool) (text : List Char) : List Char :=
  (text.dropWhile drops).rdropWhile drops

/-- `str::len`, in bytes. -/
def byteLen (text : List Char) : Nat := (text.map Char.utf8Size).sum

/-- `str::parse` to an unsigned integer type with this maximum: an optional plus
sign, then at least one digit and nothing else. -/
def parseUnsigned (maximum : Nat) (s : String) : Option Nat :=
  let digits := match s.toList with
    | '+' :: rest => rest
    | all => all
  if digits = [] then none
  else if !digits.all (isDigitOf 10) then none
  else
    let value := digitsValue 10 digits
    if value ≤ maximum then some value else none

def u8Max : Nat := 2 ^ 8 - 1

def u16Max : Nat := 2 ^ 16 - 1

def u32Max : Nat := 2 ^ 32 - 1

example : parseUnsigned u8Max "+255" = some 255 ∧ parseUnsigned u8Max "256" = none ∧
    parseUnsigned u8Max "-1" = none ∧ parseUnsigned u8Max "" = none := by decide

/-- Rust's `{:?}` of a string, for texts without unprintable characters other
than the ones with an escape of their own. -/
def debugString (s : String) : String :=
  let escape := fun c : Char =>
    if c = '"' then "\\\""
    else if c = '\\' then "\\\\"
    else if c = '\n' then "\\n"
    else if c = '\r' then "\\r"
    else if c = '\t' then "\\t"
    else if c = '\x00' then "\\0"
    else String.singleton c
  "\"" ++ String.join (s.toList.map escape) ++ "\""

def debugOption : Option String → String
  | none => "None"
  | some s => "Some(" ++ debugString s ++ ")"

def debugList (items : List String) : String :=
  "[" ++ ", ".intercalate (items.map debugString) ++ "]"

end ZonDpi.Std
